import ApiGateway.Param.Resolve
import ApiGateway.Proofs.DistinctKeys
import Mathlib.Data.List.Induction
import Mathlib.Data.List.Perm.Basic
/-!
# Parameters — names that repeat

A query or a form body may give a name more than once. The pairs are
grouped on the way: each name once, in the order of their first pairs, with
all its values in order (`Groups`). One more pair either adds a value to the
group of its name or a group at the end (`Groups.snoc`), so the fold over the
pairs groups them (`groups_grouped`), and there is no other way to group them
(`Groups.unique`).

Everything that reads a name from a query or a form reads it from the
groups, and so it is told by the values that the pairs have for the name:
nothing where there are none, a text where there is one, and an array of all
of them otherwise (`given?`).
-/

namespace ApiGateway

namespace Form

variable {ps : List (String × String)} {m m' : OrderedMap String (List String)} {k k' : String}
  {v : String} {vs : List String}

/-- The values that pairs have for a name, in order. -/
def valuesOf (ps : List (String × String)) (name : String) : List String :=
  (ps.filter fun p => p.1 = name).map (·.2)

/-- The place of the first pair of a name. -/
def firstAt (ps : List (String × String)) (name : String) : Nat := (ps.map (·.1)).idxOf name

/-- The pairs are grouped by their names. -/
structure Groups (ps : List (String × String)) (m : OrderedMap String (List String)) : Prop where
  /-- The names stand in the order in which they first appear, each once. -/
  ordered : (OrderedMap.keys m).Pairwise fun k k' => firstAt ps k < firstAt ps k'
  /-- Every name that has a value stands there with all its values in order. -/
  entries : ∀ name vs, (name, vs) ∈ m ↔ vs = valuesOf ps name ∧ vs ≠ []

/-! ## One more pair -/

theorem valuesOf_snoc (ps : List (String × String)) (k v name : String) :
    valuesOf (ps ++ [(k, v)]) name =
      if name = k then valuesOf ps name ++ [v] else valuesOf ps name := by
  by_cases h : name = k
  · simp [valuesOf, h]
  · simp [valuesOf, h, Ne.symm h]

theorem mem_names_iff : k ∈ ps.map (·.1) ↔ valuesOf ps k ≠ [] := by
  simp [valuesOf]

/-- A name that is there keeps its place. -/
theorem firstAt_append (h : valuesOf ps k ≠ []) (qs : List (String × String)) :
    firstAt (ps ++ qs) k = firstAt ps k := by
  rw [firstAt, List.map_append, List.idxOf_append_of_mem (mem_names_iff.2 h), firstAt]

theorem firstAt_lt (h : valuesOf ps k ≠ []) : firstAt ps k < ps.length := by
  have := List.idxOf_lt_length_of_mem (mem_names_iff.2 h)
  rwa [List.length_map] at this

/-- A new name has the place of its pair. -/
theorem firstAt_snoc (h : valuesOf ps k = []) : firstAt (ps ++ [(k, v)]) k = ps.length := by
  have hnew : k ∉ ps.map (·.1) := fun hk => mem_names_iff.1 hk h
  rw [firstAt, List.map_append, List.idxOf_append_of_notMem hnew, List.length_map]
  simp

/-- No name stands twice. -/
theorem Groups.nodup (h : Groups ps m) : (OrderedMap.keys m).Nodup := by
  refine h.ordered.imp fun hlt he => ?_
  rw [he] at hlt
  exact Nat.lt_irrefl _ hlt

/-- **What is read of a name**: its values, if it has any. -/
theorem Groups.get?_eq (h : Groups ps m) (name : String) :
    OrderedMap.get? m name = if valuesOf ps name = [] then none else some (valuesOf ps name) := by
  refine Option.ext fun vs => ?_
  rw [OrderedMap.get?_eq_some_iff h.nodup, h.entries]
  by_cases hnone : valuesOf ps name = []
  · rw [if_pos hnone, hnone]
    simp
  · rw [if_neg hnone, Option.some_inj]
    exact ⟨fun hvs => hvs.1.symm, fun hvs => ⟨hvs.symm, hvs ▸ hnone⟩⟩

/-- The names of the groups are those that have a value. -/
theorem Groups.mem_keys_iff (h : Groups ps m) : k ∈ OrderedMap.keys m ↔ valuesOf ps k ≠ [] := by
  rw [← OrderedMap.isSome_get?_iff, h.get?_eq]
  split <;> simp_all

/-- The names stay in order when a pair comes after the others. -/
theorem Groups.ordered_snoc (h : Groups ps m) (k v : String) (vs : List String) :
    (OrderedMap.keys (OrderedMap.insert m k vs)).Pairwise fun a b =>
      firstAt (ps ++ [(k, v)]) a < firstAt (ps ++ [(k, v)]) b := by
  have hold : (OrderedMap.keys m).Pairwise fun a b =>
      firstAt (ps ++ [(k, v)]) a < firstAt (ps ++ [(k, v)]) b := by
    refine h.ordered.imp_of_mem fun ha hb hlt => ?_
    rwa [firstAt_append (h.mem_keys_iff.1 ha), firstAt_append (h.mem_keys_iff.1 hb)]
  by_cases hk : k ∈ OrderedMap.keys m
  · rwa [OrderedMap.keys_insert_of_mem vs hk]
  · rw [OrderedMap.keys_insert_of_not_mem vs hk]
    refine List.pairwise_append.2 ⟨hold, List.pairwise_singleton _ _, fun a ha b hb => ?_⟩
    obtain rfl := List.mem_singleton.1 hb
    have hnew : valuesOf ps b = [] := not_not.1 fun hsome => hk (h.mem_keys_iff.2 hsome)
    rw [firstAt_append (h.mem_keys_iff.1 ha), firstAt_snoc hnew]
    exact firstAt_lt (h.mem_keys_iff.1 ha)

/-- **One more pair.** Its value goes to the end of the values of its name. -/
theorem Groups.snoc (h : Groups ps m) (k v : String) :
    Groups (ps ++ [(k, v)]) (OrderedMap.alter m k fun vs => vs.getD [] ++ [v]) := by
  have hvalues : (OrderedMap.get? m k).getD [] = valuesOf ps k := by
    rw [h.get?_eq]
    split
    next hnone => exact hnone.symm
    next => rfl
  rw [OrderedMap.alter, hvalues]
  refine ⟨h.ordered_snoc k v _, fun name vs => ?_⟩
  rw [← OrderedMap.get?_eq_some_iff (OrderedMap.nodup_keys_insert h.nodup), OrderedMap.get?_insert,
    valuesOf_snoc]
  by_cases hname : name = k
  · subst hname
    rw [if_pos rfl, if_pos rfl, Option.some_inj]
    exact ⟨fun hvs => ⟨hvs.symm, by simp [← hvs]⟩, fun hvs => hvs.1.symm⟩
  · rw [if_neg hname, if_neg hname, OrderedMap.get?_eq_some_iff h.nodup, h.entries]

theorem grouped_snoc (ps : List (String × String)) (p : String × String) :
    grouped (ps ++ [p]) =
      OrderedMap.alter (grouped ps) p.1 fun vs => vs.getD [] ++ [p.2] := by
  rw [grouped, List.foldl_append]
  rfl

/-- **The fold over the pairs groups them.** -/
theorem groups_grouped (ps : List (String × String)) : Groups ps (grouped ps) := by
  induction ps using List.reverseRecOn with
  | nil => exact ⟨List.Pairwise.nil, by simp [grouped, valuesOf]⟩
  | append_singleton ps p ih =>
    rw [grouped_snoc]
    exact ih.snoc p.1 p.2

/-- The groups are told by their names. -/
theorem Groups.eq_map (h : Groups ps m) :
    m = (OrderedMap.keys m).map fun name => (name, valuesOf ps name) := by
  rw [OrderedMap.keys, List.map_map]
  refine (List.map_id' m).symm.trans (List.map_congr_left fun p hp => ?_)
  exact Prod.ext rfl ((h.entries p.1 p.2).1 hp).1

/-- **There is one way to group pairs.** -/
theorem Groups.unique (h : Groups ps m) (h' : Groups ps m') : m = m' := by
  have hperm : (OrderedMap.keys m).Perm (OrderedMap.keys m') :=
    (List.perm_ext_iff_of_nodup h.nodup h'.nodup).2 fun _ =>
      h.mem_keys_iff.trans h'.mem_keys_iff.symm
  have hkeys : OrderedMap.keys m = OrderedMap.keys m' :=
    hperm.eq_of_pairwise (fun _ _ _ _ hlt hgt => absurd hlt (Nat.lt_asymm hgt)) h.ordered h'.ordered
  rw [h.eq_map, h'.eq_map, hkeys]

end Form

/-! ## The value of a name -/

namespace Value

/-- The value that the values of a name give. -/
def given? : List String → Option Value
  | [] => none
  | [s] => some (.string s)
  | ss => some (.array (ss.map .string))

/-- The same as JSON. -/
def givenJson? : List String → Option Json
  | [] => none
  | [s] => some (.string s)
  | ss => some (.ofStrings ss)

theorem given?_eq {vs : List String} (h : vs ≠ []) : given? vs = some (ofStrings vs) := by
  match vs with
  | [] => exact absurd rfl h
  | [s] => rfl
  | s :: s' :: ss => rfl

theorem elementsJson_strings (ss : List String) :
    toJson.elementsJson (ss.map .string) = ss.map .string := by
  induction ss with
  | nil => rfl
  | cons s ss ih => rw [List.map_cons, toJson.elementsJson, ih, toJson, List.map_cons]

theorem toJson_given? (vs : List String) : (given? vs).map toJson = givenJson? vs := by
  match vs with
  | [] => rfl
  | [s] => rw [given?, Option.map_some, toJson, givenJson?]
  | s :: s' :: ss =>
    change some (toJson (.array ((s :: s' :: ss).map .string))) = some (.ofStrings (s :: s' :: ss))
    rw [toJson, elementsJson_strings, Json.ofStrings]

end Value

namespace Form

/-- **What the groups give for a name.** -/
theorem Groups.map_ofStrings (h : Groups ps m) (name : String) :
    (OrderedMap.get? m name).map Value.ofStrings = Value.given? (valuesOf ps name) := by
  rw [h.get?_eq]
  split
  next hnone =>
    rw [hnone]
    rfl
  next hsome => rw [Value.given?_eq hsome, Option.map_some]

end Form

/-! ## Where the groups are read -/

namespace Call

/-- The pairs of the query. -/
def queryPairs (c : Call) : List (String × String) :=
  match c.query with
  | none => []
  | some q => Form.pairs q.utf8

theorem queryParameters_eq (c : Call) : c.queryParameters = Form.grouped c.queryPairs := by
  rw [queryParameters, queryPairs]
  cases c.query <;> rfl

/-- **A credential is a first value**, and read from a header where there is
none. -/
theorem credential?_eq (c : Call) (query header : String) :
    c.credential? query header =
      (Form.valuesOf c.queryPairs query).head?.or (c.header? header) := by
  have hfirst : (OrderedMap.get? c.queryParameters query).bind List.head? =
      (Form.valuesOf c.queryPairs query).head? := by
    rw [queryParameters_eq, (Form.groups_grouped _).get?_eq]
    split
    next hnone => rw [hnone, Option.bind_none, List.head?_nil]
    next => rw [Option.bind_some]
  rw [credential?, hfirst]
  cases (Form.valuesOf c.queryPairs query).head? <;> rfl

end Call

namespace Body

/-- A body that is read as a form is read as its pairs, grouped. -/
theorem fields_of_read {bytes : List UInt8} {types : List String} {contentType : Option String}
    {fields : OrderedMap String (List String)}
    (h : read bytes types contentType = .ok (some (.form fields))) :
    fields = Form.grouped (Form.pairs bytes) := by
  unfold read at h
  split at h
  · cases h
  · split at h
    next b hb =>
      cases h
      obtain ⟨type, -, htype⟩ := List.exists_of_findSome?_eq_some hb
      obtain ⟨media, -, hkind⟩ := Option.bind_eq_some_iff.1 htype
      -- Of the four kinds only the form gives a form.
      generalize Kind.of media = kind at hkind
      cases kind with
      | form =>
        cases hkind
        rfl
      | binary => cases hkind
      | json =>
        obtain ⟨_, -, hj⟩ := Option.map_eq_some_iff.1 hkind
        cases hj
      | text =>
        obtain ⟨_, -, ht⟩ := Option.map_eq_some_iff.1 hkind
        cases ht
    next => cases h

/-- The members of a form as JSON. -/
def members (fields : OrderedMap String (List String)) : OrderedMap String Json :=
  OrderedMap.mapValues (fun vs => (Value.ofStrings vs).toJson) fields

theorem get?_members {ps : List (String × String)} {fields : OrderedMap String (List String)}
    (h : Form.Groups ps fields) (name : String) :
    OrderedMap.get? (members fields) name = Value.givenJson? (Form.valuesOf ps name) := by
  rw [members, OrderedMap.get?_mapValues, ← Value.toJson_given?, ← h.map_ofStrings, Option.map_map]
  rfl

end Body

/-- **Repeated names are kept.** Any pairs are grouped in the one way there is:
each name once, in the order of first appearance, with exactly its values in
order. A query with these pairs and a form body with them come to these same
groups, and so do a query and a body of the same text.

What a name gives is told by its values alone, in the query as in the form:
nothing without a value, the text of a single one, the array of several. The
form as a whole is an object with the names in the order of the groups and the
same values. A credential is the first value of its name, and a header's where
the name has none. -/
theorem Form.repeats_kept (ps : List (String × String)) :
    Groups ps (grouped ps) ∧ (∀ m, Groups ps m → m = grouped ps) ∧
      (∀ call : Call, call.queryPairs = ps →
        call.queryParameters = grouped ps ∧
        (∀ pattern body name, (⟨call, pattern, body⟩ : ParamSources).raw? name .query =
          Value.given? (valuesOf ps name)) ∧
        call.clientId? =
          (valuesOf ps Call.clientIdQuery).head?.or (call.header? Call.clientIdHeader) ∧
        call.clientSecret? =
          (valuesOf ps Call.clientSecretQuery).head?.or (call.header? Call.clientSecretHeader)) ∧
      (∀ bytes, pairs bytes = ps →
        (∀ charset, Body.readAs? charset bytes .form = some (.form (grouped ps))) ∧
        ∀ types contentType fields,
          Body.read bytes types contentType = .ok (some (.form fields)) → fields = grouped ps) ∧
      (∀ (call : Call) text types contentType fields, call.query = some text →
        Body.read text.utf8 types contentType = .ok (some (.form fields)) →
        fields = call.queryParameters) ∧
      (∀ call pattern name,
        (Body.form (grouped ps)).formField? name = Value.given? (valuesOf ps name) ∧
        (⟨call, pattern, some (.form (grouped ps))⟩ : ParamSources).raw? name .formData =
          Value.given? (valuesOf ps name)) ∧
      ∃ members, (Body.form (grouped ps)).toJson = .object members ∧
        (∀ call pattern name,
          (⟨call, pattern, some (.form (grouped ps))⟩ : ParamSources).raw? name .body =
            some (.json (.object members))) ∧
        OrderedMap.keys members = OrderedMap.keys (grouped ps) ∧
        ∀ name, OrderedMap.get? members name = Value.givenJson? (valuesOf ps name) := by
  have hgroups := groups_grouped ps
  have hfield : ∀ name, (Body.form (grouped ps)).formField? name =
      Value.given? (valuesOf ps name) := hgroups.map_ofStrings
  refine ⟨hgroups, fun m hm => hm.unique hgroups, ?_, ?_, ?_, fun call pattern name => ?_,
    Body.members (grouped ps), ?_, fun _ _ _ => rfl, OrderedMap.keys_mapValues _ _,
    Body.get?_members hgroups⟩
  · rintro call rfl
    refine ⟨call.queryParameters_eq, fun pattern body name => ?_, call.credential?_eq _ _,
      call.credential?_eq _ _⟩
    rw [ParamSources.raw?, Call.queryParameters_eq, hgroups.map_ofStrings]
  · rintro bytes rfl
    exact ⟨fun _ => rfl, fun _ _ _ hread => Body.fields_of_read hread⟩
  · intro call text types contentType fields hquery hread
    rw [Body.fields_of_read hread, call.queryParameters_eq, Call.queryPairs, hquery]
  · exact ⟨hfield name, hfield name⟩
  · rw [Body.toJson, Body.toValue, Value.toJson]
    rfl

/-- Pairs with repeats, with an empty name and with empty values. -/
def tagsText : String := "tag=a&x&=1&tag=&client_id=u&tag=c&=2&client_id=v"

/-- A call with these pairs in its query. -/
def tagsCall : Call := ⟨"GET", "/v1/ascents", some tagsText, [], []⟩

/-- All three tags are there, the empty one in its place, and the first client
is the caller. -/
theorem tags_kept :
    ∃ fields, Body.read tagsText.utf8 ["application/x-www-form-urlencoded"] none =
        .ok (some (.form fields)) ∧
      fields = tagsCall.queryParameters ∧
      OrderedMap.keys fields = ["tag", "x", "", "client_id"] ∧
      (⟨tagsCall, none, some (.form fields)⟩ : ParamSources).raw? "tag" .query =
        some (.array [.string "a", .string "", .string "c"]) ∧
      (⟨tagsCall, none, some (.form fields)⟩ : ParamSources).raw? "" .formData =
        some (.array [.string "1", .string "2"]) ∧
      (⟨tagsCall, none, some (.form fields)⟩ : ParamSources).raw? "x" .formData =
        some (.string "") ∧
      tagsCall.clientId? = some "u" := by
  obtain ⟨-, -, hquery, -, hsame, hfield, -⟩ := Form.repeats_kept (Form.pairs tagsText.utf8)
  obtain ⟨-, hraw, hclient, -⟩ := hquery tagsCall rfl
  have hread : Body.read tagsText.utf8 ["application/x-www-form-urlencoded"] none =
      .ok (some (.form (Form.grouped (Form.pairs tagsText.utf8)))) := rfl
  refine ⟨_, hread, hsame tagsCall tagsText _ _ _ rfl hread, by decide +kernel, ?_, ?_, ?_, ?_⟩
  · rw [hraw]
    rfl
  · rw [(hfield tagsCall none "").2]
    rfl
  · rw [(hfield tagsCall none "x").2]
    rfl
  · rw [hclient]
    rfl

end ApiGateway
