import ApiGateway.Param.Convert
import ApiGateway.Proofs.Text.Cutting
import Mathlib.Data.List.Forall2
/-!
# Parameters — what a value is converted to

The declared type says which shape a converted value has (`Shaped`), by
recursion over the types of elements: whatever the value was, what becomes of
it has that shape or is absent (`shaped_of_convert?`). An array is the case
with something in it. It has a slot for every element of the value, and a slot
whose element does not convert holds `null`; the elements of a text are its
pieces between delimiters, which is the one way to cut it (`Elements`). Only a
single value of an array that comes as repeated parameters is no array
afterwards: it is converted like an element (`IsSingle`).
-/

namespace ApiGateway

namespace Value

variable {v r : Value} {f : CollectionFormat} {tag : TypeTag} {element : Value → Option Value}

/-! ## Elements -/

/-- An array, in either spelling. -/
inductive IsArray : Value → Prop where
  | array (es : List Value) : IsArray (.array es)
  | json (js : List Json) : IsArray (.json (.array js))

/-- A text, in either spelling. -/
inductive IsText (s : String) : Value → Prop where
  | string : IsText s (.string s)
  | json : IsText s (.json (.string s))

/-- **The elements that a value has under a format**: those of an array, the
pieces of a text between delimiters, and any other value by itself. -/
inductive Elements (f : CollectionFormat) : Value → List Value → Prop where
  | array (es : List Value) : Elements f (.array es) es
  | json (js : List Json) : Elements f (.json (.array js)) (js.map .json)
  | pieces {v : Value} {s : String} {d : Char} {parts : List String} :
      IsText s v → f.delimiter? = some d → parts ≠ [] →
      String.joined (String.singleton d) parts = s → (∀ p ∈ parts, d ∉ p.toList) →
      Elements f v (parts.map .string)
  | single {v : Value} : ¬ IsArray v → (∀ s, ¬ IsText s v) → Elements f v [v]

theorem hasElements_iff : v.hasElements = true ↔ IsArray v := by
  constructor
  · intro h
    unfold hasElements at h
    split at h
    next es => exact .array es
    next js => exact .json js
    next => cases h
  · rintro (es | js)
    · rfl
    · rfl

instance (v : Value) : Decidable (IsArray v) := decidable_of_iff _ hasElements_iff

theorem exists_delimiter (h : f ≠ .multi) : ∃ d, f.delimiter? = some d := by
  cases f with
  | multi => exact absurd rfl h
  | _ => exact ⟨_, rfl⟩

/-- The pieces of a text are its elements. -/
theorem elements_splitElements {s : String} (hv : IsText s v) (hf : f ≠ .multi) :
    Elements f v (splitElements f s) := by
  obtain ⟨d, hd⟩ := exists_delimiter hf
  obtain ⟨hne, hjoin, hfree⟩ := String.pieces_eq_iff.1 (Eq.refl (s.pieces d))
  rw [splitElements, hd]
  exact .pieces hv hd hne hjoin hfree

/-- **The elements are found**, of all that is not a single value of repeated
parameters. -/
theorem elements_elementsOf (h : f = .multi → IsArray v) : Elements f v (v.elementsOf f) := by
  have htext : ∀ {s}, IsText s v → f ≠ .multi := by
    intro s hs hf
    cases h hf with
    | array => cases hs
    | json => cases hs
  unfold elementsOf
  split
  next es => exact .array es
  next js => exact .json js
  next s => exact elements_splitElements .string (htext .string)
  next s => exact elements_splitElements .json (htext .json)
  next harray hjson hstring htext' =>
    refine .single ?_ ?_
    · rintro (es | js)
      · exact harray es rfl
      · exact hjson js rfl
    · rintro s (_ | _)
      · exact hstring s rfl
      · exact htext' s rfl

/-- The elements of a text are its pieces. -/
theorem Elements.exists_parts {es : List Value} {s : String} {d : Char} (h : Elements f v es)
    (hs : IsText s v) (hd : f.delimiter? = some d) :
    ∃ parts, es = parts.map .string ∧ parts ≠ [] ∧
      String.joined (String.singleton d) parts = s ∧ ∀ p ∈ parts, d ∉ p.toList := by
  cases h with
  | array es => cases hs
  | json js => cases hs
  | single _ hnone => exact absurd hs (hnone s)
  | @pieces _ s' d' parts hs' hd' hne hjoin hfree =>
    obtain rfl : s' = s := by cases hs <;> cases hs' <;> rfl
    obtain rfl : d' = d := Option.some.inj (hd'.symm.trans hd)
    exact ⟨parts, rfl, hne, hjoin, hfree⟩

/-! ## Shapes -/

/-- A single value of an array that comes as repeated parameters. -/
def IsSingle (tag : TypeTag) (v : Value) : Prop :=
  tag.collectionFormat = some .multi ∧ ¬ IsArray v

/-- **The shape that a type gives** to what a value is converted to: `whole`
for a single value of repeated parameters, `slot` for an element in its
place. -/
def ShapedBy (tag : TypeTag) (whole slot : Value → Value → Prop) (v r : Value) : Prop :=
  match tag.valueType with
  | .array =>
    (IsSingle tag v ∧ whole v r) ∨
      (¬ IsSingle tag v ∧ ∃ es rs, Elements (tag.collectionFormat.getD .csv) v es ∧
        r = .array rs ∧ List.Forall₂ slot es rs)
  | .boolean => ∃ b, r = .bool b
  | .binary => ∃ b, r = .bytes b
  | .byte => ∃ b, r = .bytes b
  | .date => ∃ m, r = .date m
  | .dateTime => ∃ m, r = .date m
  | .number => ∃ x, r = .number x
  | .object => ∃ j, r = .json j
  | .password => ∃ t, r = .string t
  | .string => ∃ t, r = .string t
  | .file => False
  | .unspecified => r = v

/-- **The shape that a schema declares.** An element without a declared type
stays as it is; one with a type has the shape of that type, or is `null`. -/
def Shaped : TypeSchema → Value → Value → Prop
  | .plain tag, v, r => ShapedBy tag (fun v r => r = v) (fun e x => x = e) v r
  | .withItems tag items, v, r =>
    ShapedBy tag (Shaped items) (fun e x => x = .json .null ∨ Shaped items e x) v r

/-- The conversion of the elements under a schema. -/
def convertElement? (schema : TypeSchema) (e : Value) : Option Value :=
  match schema.items? with
  | none => some e
  | some items => convert? items e

theorem convert?_eq (schema : TypeSchema) (v : Value) :
    convert? schema v = v.convertWith schema.tag (convertElement? schema) := by
  cases schema <;> rfl

/-! ## Arrays -/

theorem getD_csv_eq_multi_iff :
    tag.collectionFormat.getD .csv = .multi ↔ tag.collectionFormat = some .multi := by
  cases tag.collectionFormat with
  | none => exact iff_of_false nofun nofun
  | some f => simp

/-- **A single value of repeated parameters** is converted like an element. -/
theorem toArray?_of_single (h : IsSingle tag v) :
    v.toArray? (tag.collectionFormat.getD .csv) element = element v := by
  obtain ⟨hmulti, harray⟩ := h
  have hnone : v.hasElements = false := Bool.eq_false_iff.2 (mt hasElements_iff.1 harray)
  rw [toArray?, if_pos ⟨getD_csv_eq_multi_iff.2 hmulti, hnone⟩]

/-- **Any other value becomes an array**, with a slot for each of its
elements. -/
theorem toArray?_of_not_single (element : Value → Option Value) (h : ¬ IsSingle tag v) :
    ∃ es, Elements (tag.collectionFormat.getD .csv) v es ∧
      v.toArray? (tag.collectionFormat.getD .csv) element =
        some (.array (es.map fun e => (element e).getD (.json .null))) := by
  have harray : tag.collectionFormat.getD .csv = .multi → IsArray v := fun hf =>
    Decidable.not_not.1 fun hv => h ⟨getD_csv_eq_multi_iff.1 hf, hv⟩
  refine ⟨_, elements_elementsOf harray, ?_⟩
  rw [toArray?, if_neg]
  rintro ⟨hf, hnone⟩
  rw [hasElements_iff.2 (harray hf)] at hnone
  cases hnone

/-! ## Other types -/

theorem exists_bool_of_toBool? (h : v.toBool? = some r) : ∃ b, r = .bool b := by
  unfold toBool? at h
  split at h
  next b => exact ⟨b, (Option.some.inj h).symm⟩
  next b => exact ⟨b, (Option.some.inj h).symm⟩
  next =>
    split at h
    next => cases h
    next =>
      split at h
      · exact ⟨true, (Option.some.inj h).symm⟩
      · split at h
        · exact ⟨false, (Option.some.inj h).symm⟩
        · cases h

theorem exists_bytes_of_toBytes (v : Value) : ∃ b, v.toBytes = .bytes b := by
  unfold toBytes
  split
  · exact ⟨_, rfl⟩
  · exact ⟨_, rfl⟩

theorem exists_date_of_toDate? (h : v.toDate? = some r) : ∃ m, r = .date m := by
  unfold toDate? at h
  split at h
  next m => exact ⟨m, (Option.some.inj h).symm⟩
  next =>
    obtain ⟨m, -, rfl⟩ := Option.map_eq_some_iff.1 h
    exact ⟨m, rfl⟩

theorem exists_json_of_toObject? (h : v.toObject? = some r) : ∃ j, r = .json j := by
  unfold toObject? at h
  split at h
  next =>
    obtain ⟨j, -, rfl⟩ := Option.map_eq_some_iff.1 h
    exact ⟨j, rfl⟩
  next =>
    obtain ⟨j, -, rfl⟩ := Option.map_eq_some_iff.1 h
    exact ⟨j, rfl⟩
  next =>
    obtain ⟨j, -, rfl⟩ := Option.map_eq_some_iff.1 h
    exact ⟨j, rfl⟩
  next => exact ⟨_, (Option.some.inj h).symm⟩
  next => cases h

/-! ## Every conversion has the declared shape -/

/-- **One step**: if the elements are converted to their shapes, the value is
converted to its own. -/
theorem shapedBy_of_convertWith {whole slot : Value → Value → Prop}
    (hwhole : ∀ v r, element v = some r → whole v r)
    (hslot : ∀ e, slot e ((element e).getD (.json .null)))
    (h : v.convertWith tag element = some r) : ShapedBy tag whole slot v r := by
  unfold convertWith at h
  unfold ShapedBy
  cases htype : tag.valueType with
  | array =>
    rw [htype] at h
    by_cases hsingle : IsSingle tag v
    · exact Or.inl ⟨hsingle, hwhole v r ((toArray?_of_single hsingle).symm.trans h)⟩
    · obtain ⟨es, hes, harray⟩ := toArray?_of_not_single element hsingle
      refine Or.inr ⟨hsingle, es, _, hes, (Option.some.inj (harray.symm.trans h)).symm, ?_⟩
      exact List.forall₂_map_right_iff.2 (List.forall₂_same.2 fun e _ => hslot e)
  | boolean =>
    rw [htype] at h
    exact exists_bool_of_toBool? h
  | binary =>
    rw [htype] at h
    exact Option.some.inj h ▸ exists_bytes_of_toBytes v
  | byte =>
    rw [htype] at h
    exact Option.some.inj h ▸ exists_bytes_of_toBytes v
  | date =>
    rw [htype] at h
    exact exists_date_of_toDate? h
  | dateTime =>
    rw [htype] at h
    exact exists_date_of_toDate? h
  | number =>
    rw [htype] at h
    exact ⟨_, (Option.some.inj h).symm⟩
  | object =>
    rw [htype] at h
    exact exists_json_of_toObject? h
  | password =>
    rw [htype] at h
    exact ⟨_, (Option.some.inj h).symm⟩
  | string =>
    rw [htype] at h
    exact ⟨_, (Option.some.inj h).symm⟩
  | file =>
    rw [htype] at h
    cases h
  | unspecified =>
    rw [htype] at h
    exact (Option.some.inj h).symm

/-- **What a value is converted to has the declared shape**, however deep the
types of elements are nested. -/
theorem shaped_of_convert? {schema : TypeSchema} (h : convert? schema v = some r) :
    Shaped schema v r := by
  induction schema generalizing v r with
  | plain tag =>
    exact shapedBy_of_convertWith (fun _ _ h => (Option.some.inj h).symm) (fun _ => rfl) h
  | withItems tag items ih =>
    refine shapedBy_of_convertWith (fun _ _ h => ih h) (fun e => ?_) h
    cases he : convert? items e with
    | none => exact Or.inl rfl
    | some x => exact Or.inr (ih he)

/-- The types whose conversion never fails. -/
def alwaysConverted : List ValueType := [.binary, .byte, .number, .password, .string, .unspecified]

theorem isSome_convertWith (h : tag.valueType ∈ alwaysConverted) :
    (v.convertWith tag element).isSome = true := by
  unfold convertWith
  simp only [alwaysConverted, List.mem_cons, List.not_mem_nil, or_false] at h
  rcases h with h | h | h | h | h | h
  all_goals
    rw [h]
    rfl

/-- **What becomes of a value under a schema.** Nothing becomes of no value,
and what becomes of a value has the declared shape. A value under a type that
is not an array, a truth value, a date, an object or a file always becomes
something. Under an array a single value of repeated parameters is converted
like an element; any other value becomes an array of all its elements in their
places, where one that does not convert is `null`. So a text under an array
without a declared type of elements is cut at the delimiter: the elements hold
none, and joined with it they are the text again. -/
theorem convert_exact (schema : TypeSchema) :
    let f := schema.tag.collectionFormat.getD .csv
    (∀ (raw : Option Value) r, raw.bind (convert? schema) = some r →
      ∃ v, raw = some v ∧ Shaped schema v r) ∧
    (schema.valueType ∈ alwaysConverted → ∀ v, (convert? schema v).isSome = true) ∧
    (schema.valueType = .array → ∀ v,
      (IsSingle schema.tag v → convert? schema v = convertElement? schema v) ∧
      (¬ IsSingle schema.tag v → ∃ es, Elements f v es ∧ convert? schema v =
        some (.array (es.map fun e => (convertElement? schema e).getD (.json .null))))) ∧
    (schema.valueType = .array → schema.items? = none → ∀ v s d, IsText s v →
      f.delimiter? = some d →
      ∃ parts, convert? schema v = some (.array (parts.map .string)) ∧ parts ≠ [] ∧
        String.joined (String.singleton d) parts = s ∧ ∀ p ∈ parts, d ∉ p.toList) := by
  intro f
  have hsingle : schema.valueType = .array → ∀ v, IsSingle schema.tag v →
      convert? schema v = convertElement? schema v := by
    intro harray v hv
    have htype : schema.tag.valueType = .array := harray
    rw [convert?_eq, convertWith, htype]
    exact toArray?_of_single hv
  have hmany : schema.valueType = .array → ∀ v, ¬ IsSingle schema.tag v →
      ∃ es, Elements f v es ∧ convert? schema v =
        some (.array (es.map fun e => (convertElement? schema e).getD (.json .null))) := by
    intro harray v hv
    have htype : schema.tag.valueType = .array := harray
    rw [convert?_eq, convertWith, htype]
    exact toArray?_of_not_single _ hv
  refine ⟨fun raw r h => ?_, fun h v => ?_, fun h v => ⟨hsingle h v, hmany h v⟩, ?_⟩
  · obtain ⟨v, hv, hr⟩ := Option.bind_eq_some_iff.1 h
    exact ⟨v, hv, shaped_of_convert? hr⟩
  · rw [convert?_eq]
    exact isSome_convertWith h
  · intro harray hitems v s d hs hd
    have hmulti : ¬ IsSingle schema.tag v := by
      rintro ⟨hmulti, -⟩
      have hf : f = .multi := getD_csv_eq_multi_iff.2 hmulti
      rw [hf] at hd
      cases hd
    obtain ⟨es, hes, hconvert⟩ := hmany harray v hmulti
    obtain ⟨parts, rfl, hparts⟩ := hes.exists_parts hs hd
    refine ⟨parts, ?_, hparts⟩
    rw [hconvert]
    simp [convertElement?, hitems]

/-- An element that does not convert keeps its place. -/
example :
    convert? (.withItems ⟨some "array", none, some .pipes⟩ (.plain ⟨some "boolean", none, none⟩))
      (.string "true|maybe|FALSE") = some (.array [.bool true, .json .null, .bool false]) := rfl

end Value

end ApiGateway
