import ApiGateway.Proofs.Param.Inheritance
import ApiGateway.Proofs.Route.References
import Mathlib
/-!
# Routes — the operation of an entry, and the one looked up for it

A call is matched by an entry, and with it by a method entry that was made
when the entry was built. The operation itself is looked up in the document
then, under the template and the method. In the index the methods are
upper-cased keys of the path item, and it takes the first one among those
that are granted; in the document it is the first key that is the method in
any case (`PathItem.operation?_eq`). A document that was read has each
template once (`nodup_paths_of_ofJson?`), so both look at one path item, and
the two are the same operation where all are granted, as in the entries of
a subscription. In those of a product the first one may be left out as it
is secured, and then another key that is the same in another case stands in
for it: a caller is let in for one operation and gets the parameters of
another. `operations_exact` says when the two are the same; in
`secured_operation_looked_up` they are not.
-/

namespace String

/-- Texts that are the same in lower case are the same in upper case. -/
theorem sameAsciiCase_iff {s t : String} :
    s.sameAsciiCase t = true ↔ s.asciiUpper = t.asciiUpper := by
  have hchars : s.toList.map Char.toLower = t.toList.map Char.toLower ↔
      s.toList.map Char.toUpper = t.toList.map Char.toUpper := by
    constructor
    · intro h
      simpa [List.map_map, Function.comp_def] using congrArg (List.map Char.toUpper) h
    · intro h
      simpa [List.map_map, Function.comp_def] using congrArg (List.map Char.toLower) h
  rw [sameAsciiCase, beq_iff_eq, asciiLower, asciiLower, asciiUpper, asciiUpper, ofList_inj,
    ofList_inj]
  exact hchars

end String

namespace ApiGateway

open Outcome

/-- What is found first and passes another test is also the first to pass
both. -/
theorem find?_and_of_find? {α : Type} {p q : α → Bool} {l : List α} {a : α}
    (h : l.find? q = some a) (ha : p a = true) : l.find? (fun b => p b && q b) = some a := by
  obtain ⟨hq, before, after, rfl, hbefore⟩ := List.find?_eq_some_iff_append.1 h
  refine List.find?_eq_some_iff_append.2 ⟨by simp [hq, ha], before, after, rfl, fun b hb => ?_⟩
  have hfails := hbefore b hb
  simp only [Bool.not_eq_true', Bool.and_eq_false_iff] at hfails ⊢
  exact Or.inr hfails

/-- A map that was read has no key twice. -/
theorem Json.nodup_keys_of_mapOf? {α : Type} {read : Json → Option α} {j : Json}
    {m : OrderedMap String α} (h : mapOf? read j = some m) : (OrderedMap.keys m).Nodup := by
  cases j with
  | object ms =>
    obtain ⟨pairs, -, rfl⟩ := Option.map_eq_some_iff.1 h
    exact OrderedMap.nodup_keys_ofPairs pairs
  | _ => cases h

/-! ## The operations of a path item -/

namespace PathItem

variable {i : PathItem} {operations : List (String × Operation)} {method : String}

/-- The first member for a method, among those for methods, is the first of
all that is the method in any case. -/
theorem find?_methodEntries (i : PathItem) (hmethod : method ∈ httpMethods) :
    i.methodEntries.find? (fun e => e.1 = method) =
      (i.entries.find? fun e => e.1.sameAsciiCase method).map fun e => (method, e.2) := by
  have hupper := Route.asciiUpper_of_mem_httpMethods method hmethod
  have hcase : ∀ key : String, key.sameAsciiCase method = true ↔ key.asciiUpper = method :=
    fun key => by rw [String.sameAsciiCase_iff, hupper]
  rw [methodEntries, List.find?_filterMap]
  have htest : (fun e : String × Json =>
      (if httpMethods.contains e.1.asciiUpper then some (e.1.asciiUpper, e.2) else none).any
        fun e => decide (e.1 = method)) = fun e => e.1.sameAsciiCase method := by
    funext e
    rw [Bool.eq_iff_iff, hcase]
    by_cases hkey : e.1.asciiUpper = method
    · simp [hkey, hmethod]
    · split <;> simp [hkey]
  rw [htest]
  cases hfind : i.entries.find? fun e => e.1.sameAsciiCase method with
  | none => rfl
  | some e =>
    have hsame := List.find?_some hfind
    have hkey := (hcase e.1).1 hsame
    simp [hkey, hmethod]

/-- **The operation that is looked up is the first declared one** of its
method. -/
theorem operation?_eq (h : i.operations? = some operations) (hmethod : method ∈ httpMethods) :
    i.operation? method = some ((operations.find? fun o => o.1 = method).map (·.2)) := by
  have hentries := i.find?_methodEntries hmethod
  have htest : ∀ (e : String × Json) (o : String × Operation),
      ((Operation.ofJson? e.2).map fun o => (e.1, o)) = some o →
        decide (o.1 = method) = decide (e.1 = method) := by
    intro e o ho
    obtain ⟨own, -, rfl⟩ := Option.map_eq_some_iff.1 ho
    rfl
  rw [operation?]
  rcases find?_of_mapM h htest with ⟨hnone, hops⟩ | ⟨a, b, ha, hb, hops⟩
  · rw [hentries, Option.map_eq_none_iff] at hnone
    rw [hnone, hops]
    rfl
  · rw [hentries] at ha
    obtain ⟨e, he, rfl⟩ := Option.map_eq_some_iff.1 ha
    obtain ⟨own, hown, rfl⟩ := Option.map_eq_some_iff.1 hb
    rw [he, hops]
    exact congrArg (Option.map some) hown

end PathItem

/-! ## The operation of a document -/

namespace ApiDocument

variable {d : ApiDocument} {template method : String} {item : PathItem}
  {operations : List (String × Operation)}

/-- What applies to an operation changes neither its id nor its security. -/
theorem methodEntry_completed (d : ApiDocument) (item : PathItem) (method : String)
    (o : Operation) :
    Route.methodEntry d method (d.completed item o) = Route.methodEntry d method o := by
  rw [completed_eq]
  rfl

/-- **The operation that is looked up** under a template is the first one
that its path item declares for the method. -/
theorem operation?_eq (hkeys : (OrderedMap.keys d.paths).Nodup)
    (hitem : (template, some item) ∈ d.pathItems) (hops : item.operations? = some operations)
    (hmethod : method ∈ httpMethods) :
    d.operation? template method =
      some ((operations.find? fun o => o.1 = method).map fun o => d.completed item o.2) := by
  obtain ⟨⟨key, raw⟩, hraw, heq⟩ := List.mem_map.1 hitem
  obtain ⟨rfl, hread⟩ := Prod.mk.inj heq
  have hget : OrderedMap.get? d.paths key = some raw :=
    (OrderedMap.get?_eq_some_iff hkeys).2 (List.mem_filter.1 hraw).1
  rw [operation?, hget]
  simp only [hread, PathItem.operation?_eq hops hmethod, Option.bind_eq_bind, Option.bind_some]
  cases operations.find? fun o => o.1 = method with
  | none => rfl
  | some o => rfl

/-- A document that was read has no template twice. -/
theorem nodup_paths_of_ofJson? {j : Json} (h : ofJson? j = some d) :
    (OrderedMap.keys d.paths).Nodup := by
  simp only [ofJson?, Option.bind_eq_bind, Option.bind_eq_some_iff, Option.pure_def,
    Option.some.injEq] at h
  obtain ⟨f, -, info, -, basePath, -, paths, hpaths, defs, -, reqs, -, consumes, -, gateway, -,
    rfl⟩ := h
  unfold Fields.withDefault at hpaths
  split at hpaths
  next => exact Option.some.inj hpaths ▸ List.nodup_nil
  next => exact Json.nodup_keys_of_mapOf? hpaths

end ApiDocument

namespace Route

variable {d : ApiDocument} {access : Access} {paths : List RoutePath} {p : RoutePath}
  {method : String} {m : MethodEntry} {o : Operation}

/-! ## Which operation an entry means -/

/-- **A method entry means an operation** that has its id and its security
requirements, be they its own or those of the document. -/
structure Means (d : ApiDocument) (m : MethodEntry) (o : Operation) : Prop where
  operationId : o.operationId = m.operationId
  security : o.security.or d.security = m.securityReqs

/-- An access allows all operations, or those that are unsecured. -/
def Access.allows (access : Access) (m : MethodEntry) : Bool := access = .full || m.isUnsecured

theorem allows_congr {m' : MethodEntry} (h : m.securityReqs = m'.securityReqs) :
    access.allows m = access.allows m' := by
  have hsame : m.isUnsecured = m'.isUnsecured := by
    rw [MethodEntry.isUnsecured, MethodEntry.isUnsecured, h]
  rw [Access.allows, Access.allows, hsame]

/-- A template of an entry has the methods of its path item that are
allowed. -/
theorem pathMethods_of_granted {template : String} {methods : List MethodEntry}
    (hp : p ∈ granted access template d methods) :
    p.path = template ∧ p.pathMethods = methods.filter access.allows := by
  cases access with
  | full =>
    obtain rfl := List.mem_singleton.1 hp
    exact ⟨rfl, (List.filter_eq_self.2 fun _ _ => rfl).symm⟩
  | unsecuredOnly =>
    unfold granted at hp
    by_cases hnil : methods.filter MethodEntry.isUnsecured = []
    · simp [hnil] at hp
    · simp only [hnil, if_false, List.mem_singleton] at hp
      subst hp
      refine ⟨rfl, List.filter_congr fun m _ => ?_⟩
      simp [Access.allows]

/-- **What the entry of a method is**: that of an operation which is declared
for the method and allowed, and of the first one of the method if that is
allowed. -/
theorem exists_first {operations : List (String × Operation)}
    (hm : (operations.map fun o => methodEntry d o.1 o.2).find?
      (fun m => access.allows m && decide (m.method = method)) = some m) :
    ∃ own first, (method, own) ∈ operations ∧ m = methodEntry d method own ∧
      access.allows m = true ∧
      operations.find? (fun o => decide (o.1 = method)) = some (method, first) ∧
      (access.allows (methodEntry d method first) = true → m = methodEntry d method first) := by
  have hboth := List.find?_some hm
  obtain ⟨hallows, hmethod⟩ : access.allows m = true ∧ m.method = method := by simpa using hboth
  obtain ⟨⟨method', own⟩, hmem, rfl⟩ := List.mem_map.1 (List.mem_of_find?_eq_some hm)
  obtain rfl : method' = method := hmethod
  have hsome : (operations.find? fun o => decide (o.1 = method')).isSome = true :=
    List.find?_isSome.2 ⟨_, hmem, decide_eq_true rfl⟩
  obtain ⟨⟨name, first⟩, hfirst⟩ := Option.isSome_iff_exists.1 hsome
  obtain rfl : name = method' := by simpa using List.find?_some hfirst
  refine ⟨own, first, hmem, rfl, hallows, hfirst, fun hallowed => ?_⟩
  have hentry : (operations.map fun o => methodEntry d o.1 o.2).find?
      (fun m => decide (m.method = name)) = some (methodEntry d name first) := by
    rw [List.find?_map]
    exact congrArg (Option.map _) hfirst
  exact Option.some.inj (hm.symm.trans (find?_and_of_find? hentry hallowed))

/-- An allowed entry means the first operation of its method exactly if that
is allowed. -/
theorem means_completed_iff {first : Operation} (item : PathItem)
    (hallows : access.allows m = true)
    (hfirst : access.allows (methodEntry d method first) = true →
      m = methodEntry d method first) :
    Means d m (d.completed item first) ↔ access.allows (methodEntry d method first) = true := by
  have hentry := d.methodEntry_completed item method first
  constructor
  · intro hmeans
    rw [← hentry, ← hallows]
    exact allows_congr hmeans.security
  · intro hallowed
    have hsame := hentry.trans (hfirst hallowed).symm
    exact ⟨congrArg MethodEntry.operationId hsame, congrArg MethodEntry.securityReqs hsame⟩

/-- **How a method entry and the operation that is looked up for it belong
together.** -/
structure Resolves (d : ApiDocument) (access : Access) (template method : String)
    (m : MethodEntry) : Prop where
  /-- There is an operation, and the entry means it exactly if the access
  allows it. -/
  found : ∃ o, d.operation? template method = some (some o) ∧
    (Means d m o ↔ access = .full ∨ (methodEntry d method o).isUnsecured = true)
  /-- The entry does mean it if no two operations are declared for the method
  under the template. -/
  alone : (∀ o o', d.Declares template method o → d.Declares template method o' → o = o') →
    ∃ o, d.operation? template method = some (some o) ∧ Means d m o

/-- **Every entry of a method resolves.** -/
theorem resolves_of_routePaths (h : routePaths access d = .ok paths)
    (hkeys : (OrderedMap.keys d.paths).Nodup) (hp : p ∈ paths)
    (hm : p.method? method = some m) : Resolves d access p.path method m := by
  obtain ⟨template, item, methods, hitem, hmethods, hgranted⟩ := mem_routePaths h hp
  obtain ⟨rfl, hpathMethods⟩ := pathMethods_of_granted hgranted
  obtain ⟨operations, ho, hmethods⟩ := bind_eq_ok.1 hmethods
  obtain rfl := pure_eq_ok.1 hmethods
  obtain ⟨item, rfl, hops⟩ := Option.bind_eq_some_iff.1 (orError_eq_ok.1 ho)
  rw [RoutePath.method?, hpathMethods, List.find?_filter] at hm
  obtain ⟨own, first, hown, rfl, hallows, hfind, hfirst⟩ :=
    exists_first (by simpa only [Bool.decide_and, Bool.decide_eq_true] using hm)
  have hdeclares : ∀ {o}, (method, o) ∈ operations → d.Declares p.path method o :=
    fun ho => ⟨item, operations, hitem, hops, ho⟩
  have hlookup := ApiDocument.operation?_eq hkeys hitem hops
    (mem_httpMethods_of_declares (hdeclares hown))
  rw [hfind] at hlookup
  have hmeans := means_completed_iff item hallows hfirst
  refine ⟨⟨_, hlookup, ?_⟩, fun halone => ⟨_, hlookup, hmeans.2 ?_⟩⟩
  · rw [d.methodEntry_completed item method first, hmeans, Access.allows, Bool.or_eq_true,
      decide_eq_true_eq]
  · have hsame := halone own first (hdeclares hown) (hdeclares (List.mem_of_find?_eq_some hfind))
    rw [← hsame]
    exact hallows

/-- **Which entries mean the operation that is looked up for them.** The API
of an entry is found by its name and version. If its document has no
template twice, as none has that was read, each entry of a method resolves:
in the entries of a subscription it means the operation that is looked up,
and in those of a product it does if that is unsecured. -/
theorem operations_exact {r : Records} {event : IndexEvent} {e : RouteEntry}
    (he : e ∈ (build r event).entries) :
    ∃ api, r.findApi? event.snapshot e.apiName e.apiVersion 0 = some api ∧ e.apiId = api.id ∧
      ((OrderedMap.keys api.document.paths).Nodup → ∀ p ∈ e.apiPaths, ∀ method m,
        p.method? method = some m → Resolves api.document (accessOf event) p.path method m) := by
  obtain ⟨scope, c, api, paths, rfl, -, -, hfound, hpaths⟩ := exists_pieces_of_build he
  exact ⟨api, hfound, rfl, fun hkeys p hp method m hm =>
    resolves_of_routePaths hpaths hkeys hp hm⟩

/-! ## A secured operation with another beside it -/

/-- An API with two operations for a method whose keys differ in case, the
first one secured, and a template with a single one. -/
def shadowedApi : Api :=
  ⟨"a", { ApiDocument.blank with
    info := ⟨none, "1.0.0", "climbs"⟩
    basePath := "/v1"
    paths := [
      ("/peaks", .object [
        ("GET", .object [("operationId", .string "a"),
          ("security", .array [.object [("key", .array [])]])]),
        ("get", .object [("operationId", .string "b")])]),
      ("/crags", .object [("get", .object [("operationId", .string "c")])])] }⟩

/-- The API in a snapshot, with a product that offers it. -/
def shadowedCase (s : SnapshotId) : Records :=
  .after [.catalog s ⟨"c", "sandbox", none, ⟨"o", "acme"⟩⟩, .api s shadowedApi,
    .product s ⟨"p", ⟨"c", ""⟩, ⟨.blank, [("gold", ⟨none, [], none⟩)], [("k", ⟨"climbs:1.0.0"⟩)]⟩⟩]

/-- The operation under the other template is the one that is looked up. -/
theorem single_operation_looked_up :
    ∃ e ∈ (build (shadowedCase ⟨1, by decide⟩) (.product ⟨1, by decide⟩ "p")).entries,
      ∃ p ∈ e.apiPaths, ∃ m o, p.path = "/crags" ∧ p.method? "GET" = some m ∧
        shadowedApi.document.operation? p.path "GET" = some (some o) ∧
        Means shadowedApi.document m o := by
  have h : ((build (shadowedCase ⟨1, by decide⟩) (.product ⟨1, by decide⟩ "p")).entries.any
      fun e => decide (e.apiName = "climbs" ∧ e.apiVersion = "1.0.0") && e.apiPaths.any fun p =>
        decide (p.path = "/crags") && (p.method? "GET").isSome) = true := by decide +kernel
  obtain ⟨e, he, h⟩ := List.any_eq_true.1 h
  obtain ⟨hinfo, h⟩ := Bool.and_eq_true_iff.1 h
  obtain ⟨p, hp, h⟩ := List.any_eq_true.1 h
  obtain ⟨hpath, hsome⟩ := Bool.and_eq_true_iff.1 h
  obtain ⟨m, hm⟩ := Option.isSome_iff_exists.1 hsome
  obtain ⟨api, hapi, -, hresolves⟩ := operations_exact he
  obtain ⟨hname, hversion⟩ := of_decide_eq_true hinfo
  rw [hname, hversion] at hapi
  obtain rfl : shadowedApi = api := Option.some.inj hapi
  obtain ⟨o, ho, hmeans⟩ := (hresolves (by decide) p hp "GET" m hm).found
  have hlookup := ho
  rw [of_decide_eq_true hpath] at hlookup
  obtain rfl : (⟨some "c", none, [], none⟩ : Operation) = o :=
    Option.some.inj (Option.some.inj hlookup)
  exact ⟨e, he, p, hp, m, _, of_decide_eq_true hpath, hm, ho, hmeans.2 (Or.inr rfl)⟩

/-- **The entry is for one operation and the other one is looked up.** -/
theorem secured_operation_looked_up :
    ∃ e ∈ (build (shadowedCase ⟨1, by decide⟩) (.product ⟨1, by decide⟩ "p")).entries,
      ∃ p ∈ e.apiPaths, ∃ m o, p.method? "GET" = some m ∧
        shadowedApi.document.operation? p.path "GET" = some (some o) ∧
        m.operationId = some "b" ∧ o.operationId = some "a" := by
  have h : ((build (shadowedCase ⟨1, by decide⟩) (.product ⟨1, by decide⟩ "p")).entries.any
      fun e => e.apiPaths.any fun p => (p.method? "GET").any fun m =>
        ((shadowedApi.document.operation? p.path "GET").join.any fun o =>
          decide (m.operationId = some "b") && decide (o.operationId = some "a"))) = true := by
    decide +kernel
  obtain ⟨e, he, h⟩ := List.any_eq_true.1 h
  obtain ⟨p, hp, h⟩ := List.any_eq_true.1 h
  obtain ⟨m, hm, h⟩ := (Option.any_eq_true _ _).1 h
  obtain ⟨o, ho, h⟩ := (Option.any_eq_true _ _).1 h
  obtain ⟨hb, ha⟩ := Bool.and_eq_true_iff.1 h
  exact ⟨e, he, p, hp, m, o, hm, Option.join_eq_some_iff.1 ho, of_decide_eq_true hb,
    of_decide_eq_true ha⟩

end Route

end ApiGateway
