import ApiGateway.Proofs.Route.Building
/-!
# Routes — the templates of a document, one by one

A document lists templates with the operations of their path items, all in
its order, if every path item is well-formed (`ApiDocument.Lists`), and
otherwise breaks at the first one that is not (`ApiDocument.BreaksAt`). In
an entry for all operations each listed template stands ready for matching,
with its operations (`routePaths_full`). In one for callers without a client
id it has the operations that nobody has to be known for, and is left out if
there are none (`routePaths_unsecuredOnly`, `ApiDocument.openPart`). A
document that breaks has no templates for any entry
(`routePaths_eq_error_iff`).
-/

namespace ApiGateway

namespace ApiDocument

/-- Templates in their order, each with its methods and their operations. -/
abbrev Listing := List (String × List (String × Operation))

/-- **What a document lists**: its templates in their order, each with the
operations of its path item in theirs. -/
def Lists (d : ApiDocument) (listed : Listing) : Prop :=
  List.Forall₂ (fun t l => t.1 = l.1 ∧ t.2.bind PathItem.operations? = some l.2) d.pathItems listed

/-- **Where a document breaks**: at the first template whose path item, or
one of its operations, is malformed. -/
def BreaksAt (d : ApiDocument) (template : String) : Prop :=
  ∃ before item after, d.pathItems = before ++ (template, item) :: after ∧
    (∀ t ∈ before, ∃ operations, t.2.bind PathItem.operations? = some operations) ∧
    item.bind PathItem.operations? = none

/-- **An operation is open** if each requirement that applies to it asks for
nothing: its own, or those of the document if it has none of its own. -/
def IsOpen (d : ApiDocument) (o : Operation) : Prop :=
  ∀ reqs, o.security.or d.security = some reqs → ∀ req ∈ reqs, req = .object []

theorem isOpen_iff {d : ApiDocument} {o : Operation} (method : String) :
    d.IsOpen o ↔ (Route.methodEntry d method o).isUnsecured = true := by
  have hempty : ∀ req : Json, MethodEntry.isEmptyRequirement req = true ↔ req = .object [] := by
    intro req
    unfold MethodEntry.isEmptyRequirement
    split
    next => exact iff_of_true rfl rfl
    next hne => exact iff_of_false Bool.false_ne_true hne
  unfold IsOpen MethodEntry.isUnsecured Route.methodEntry
  cases o.security.or d.security with
  | none => simp
  | some reqs => simp [hempty]

instance (d : ApiDocument) (o : Operation) : Decidable (d.IsOpen o) :=
  decidable_of_iff _ (isOpen_iff "").symm

/-- **What a document lists for everybody**: the open operations, and the
templates that have any. -/
def openPart (d : ApiDocument) (listed : Listing) : Listing :=
  (listed.map fun l => (l.1, l.2.filter fun o => d.IsOpen o.2)).filter fun l => l.2 ≠ []

theorem openPart_cons (d : ApiDocument) (l : String × List (String × Operation))
    (listed : Listing) :
    d.openPart (l :: listed) =
      if l.2.filter (fun o => d.IsOpen o.2) = [] then d.openPart listed
      else (l.1, l.2.filter fun o => d.IsOpen o.2) :: d.openPart listed := by
  simp only [openPart, List.map_cons, List.filter_cons, decide_eq_true_iff, ite_not]

end ApiDocument

/-- **The entry of a method for an operation**: the id of the operation, the
document's definitions, and the operation's own requirements or, if it has
none, those of the document. -/
structure MethodEntry.Stands (d : ApiDocument) (o : String × Operation) (m : MethodEntry) :
    Prop where
  method : m.method = o.1
  operationId : m.operationId = o.2.operationId
  securityDefs : m.securityDefs = d.securityDefinitions
  own : ∀ reqs, o.2.security = some reqs → m.securityReqs = some reqs
  inherited : o.2.security = none → m.securityReqs = d.security

/-- **A template of an entry for a listed one**: its text, its score, its
pattern under the base path, and an entry for each operation, in order. -/
structure RoutePath.Stands (d : ApiDocument) (l : String × List (String × Operation))
    (p : RoutePath) : Prop where
  path : p.path = l.1
  score : p.matchingScore = Template.matchingScore l.1.toList
  pattern : p.pathRegex =
    String.ofList (Pattern.written (Template.routingPattern d.basePath.toList l.1.toList))
  methods : List.Forall₂ (MethodEntry.Stands d) l.2 p.pathMethods

namespace Route

open Outcome

variable {access : Access} {d : ApiDocument} {paths : List RoutePath} {e : BuildError}
  {listed : ApiDocument.Listing}

theorem stands_methodEntry (d : ApiDocument) (o : String × Operation) :
    MethodEntry.Stands d o (methodEntry d o.1 o.2) := by
  refine ⟨rfl, rfl, rfl, fun reqs hown => ?_, fun hnone => ?_⟩
  · change o.2.security.or d.security = some reqs
    rw [hown, Option.some_or]
  · change o.2.security.or d.security = d.security
    rw [hnone, Option.none_or]

/-- A listed template with its operations, ready for matching. -/
def listedPath (d : ApiDocument) (l : String × List (String × Operation)) : RoutePath :=
  routePath d l.1 (l.2.map fun o => methodEntry d o.1 o.2)

theorem stands_listedPath (d : ApiDocument) (l : String × List (String × Operation)) :
    RoutePath.Stands d l (listedPath d l) := by
  refine ⟨rfl, rfl, rfl, ?_⟩
  change List.Forall₂ (MethodEntry.Stands d) l.2 (l.2.map fun o => methodEntry d o.1 o.2)
  rw [List.forall₂_map_right_iff]
  exact List.forall₂_same.2 fun o _ => stands_methodEntry d o

/-! ## One template -/

/-- The operations under a template are entered one by one. -/
theorem methodEntries_eq_ok_iff {template : String} {item : Option PathItem}
    {methods : List MethodEntry} :
    methodEntries d template item = .ok methods ↔ ∃ operations,
      item.bind PathItem.operations? = some operations ∧
        operations.map (fun o => methodEntry d o.1 o.2) = methods := by
  simp only [methodEntries, bind_eq_ok, orError_eq_ok, pure_eq_ok]

theorem methodEntries_eq_error_iff {template : String} {item : Option PathItem} :
    methodEntries d template item = .error e ↔
      item.bind PathItem.operations? = none ∧ e = .invalidPathItem template := by
  rw [methodEntries, bind_eq_error, orError_eq_error]
  constructor
  · rintro (h | ⟨operations, -, h⟩)
    · exact h
    · cases h
  · exact Or.inl

/-! ## The templates of a document -/

/-- **The templates of a document** are those that its listed ones give, if
there is a list. -/
theorem routePaths_eq_ok_iff : routePaths access d = .ok paths ↔ ∃ listed, d.Lists listed ∧
    paths = listed.flatMap fun l =>
      granted access l.1 d (l.2.map fun o => methodEntry d o.1 o.2) := by
  have hstep : ∀ (t : String × Option PathItem) (ps : List RoutePath),
      (do return granted access t.1 d (← methodEntries d t.1 t.2)) = Except.ok ps ↔
        ∃ l : String × List (String × Operation),
          (t.1 = l.1 ∧ t.2.bind PathItem.operations? = some l.2) ∧
            granted access l.1 d (l.2.map fun o => methodEntry d o.1 o.2) = ps := by
    intro t ps
    simp only [bind_eq_ok, pure_eq_ok, methodEntries_eq_ok_iff]
    constructor
    · rintro ⟨_, ⟨operations, hops, rfl⟩, rfl⟩
      exact ⟨(t.1, operations), ⟨rfl, hops⟩, rfl⟩
    · rintro ⟨⟨template, operations⟩, ⟨rfl, hops⟩, rfl⟩
      exact ⟨_, ⟨operations, hops, rfl⟩, rfl⟩
  rw [routePaths, bind_eq_ok]
  simp only [mapM_eq_ok_iff_exists hstep, pure_eq_ok, List.flatMap_def]
  constructor
  · rintro ⟨_, ⟨listed, hlisted, rfl⟩, rfl⟩
    exact ⟨listed, hlisted, rfl⟩
  · rintro ⟨listed, hlisted, rfl⟩
    exact ⟨_, ⟨listed, hlisted, rfl⟩, rfl⟩

/-- **Every listed template stands in an entry for all operations.** -/
theorem routePaths_full :
    routePaths .full d = .ok paths ↔ ∃ listed, d.Lists listed ∧
      paths = listed.map (listedPath d) := by
  rw [routePaths_eq_ok_iff]
  simp only [granted, List.map_eq_flatMap, listedPath]

/-- The operations that an entry without a client id has of a template are
the open ones, and a template without any is left out. -/
theorem flatMap_granted_unsecuredOnly (d : ApiDocument) (listed : ApiDocument.Listing) :
    (listed.flatMap fun l =>
        granted .unsecuredOnly l.1 d (l.2.map fun o => methodEntry d o.1 o.2)) =
      (d.openPart listed).map (listedPath d) := by
  induction listed with
  | nil => rfl
  | cons l listed ih =>
    have hopen : (l.2.map fun o => methodEntry d o.1 o.2).filter MethodEntry.isUnsecured =
        (l.2.filter fun o => d.IsOpen o.2).map fun o => methodEntry d o.1 o.2 := by
      rw [List.filter_map]
      exact congrArg _ (List.filter_congr fun o _ =>
        Bool.eq_iff_iff.2 ((ApiDocument.isOpen_iff o.1).symm.trans decide_eq_true_iff.symm))
    rw [List.flatMap_cons, ih, granted, hopen, ApiDocument.openPart_cons]
    simp only [List.map_eq_nil_iff]
    split
    · rfl
    · rfl

/-- **Only what is open stands in an entry for callers without a client
id.** -/
theorem routePaths_unsecuredOnly :
    routePaths .unsecuredOnly d = .ok paths ↔ ∃ listed, d.Lists listed ∧
      paths = (d.openPart listed).map (listedPath d) := by
  simp only [routePaths_eq_ok_iff, flatMap_granted_unsecuredOnly]

/-- **A document that breaks gives no templates**, under either access, and
the error names the template where it does. -/
theorem routePaths_eq_error_iff :
    routePaths access d = .error e ↔ ∃ template, d.BreaksAt template ∧
      e = .invalidPathItem template := by
  have hstep : ∀ (t : String × Option PathItem),
      (∃ ps, (do return granted access t.1 d (← methodEntries d t.1 t.2)) = Except.ok ps) ↔
        ∃ operations, t.2.bind PathItem.operations? = some operations := by
    intro t
    simp only [bind_eq_ok, pure_eq_ok, methodEntries_eq_ok_iff]
    exact ⟨fun ⟨_, _, ⟨operations, hops, _⟩, _⟩ => ⟨operations, hops⟩,
      fun ⟨operations, hops⟩ => ⟨_, _, ⟨operations, hops, rfl⟩, rfl⟩⟩
  have hfail : ∀ (t : String × Option PathItem),
      (do return granted access t.1 d (← methodEntries d t.1 t.2)) = Except.error e ↔
        t.2.bind PathItem.operations? = none ∧ e = .invalidPathItem t.1 := by
    intro t
    rw [bind_eq_error, methodEntries_eq_error_iff, or_iff_left]
    exact fun ⟨_, _, h⟩ => nomatch h
  rw [routePaths, bind_eq_error, mapM_eq_error_iff, or_iff_left (fun ⟨_, _, h⟩ => nomatch h)]
  simp only [hstep, hfail]
  constructor
  · rintro ⟨before, ⟨template, item⟩, after, hsplit, hbefore, hitem, rfl⟩
    exact ⟨template, ⟨before, item, after, hsplit, hbefore, hitem⟩, rfl⟩
  · rintro ⟨template, ⟨before, item, after, hsplit, hbefore, hitem⟩, rfl⟩
    exact ⟨before, (template, item), after, hsplit, hbefore, hitem, rfl⟩

end Route

end ApiGateway
