import ApiGateway.Param.Resolve
import ApiGateway.Proofs.DistinctKeys
import ApiGateway.Proofs.Text.Cutting
import Mathlib
/-!
# Parameters — merging by name

Each declared parameter with a value gives it under an output name: its own
name or, for the last one declared, its name without a leading plus. What a
name has in the end is told by the declaration alone, from its end: the first
parameter there that has the name and a value (`get?_merged`). Parameters
without a value do not count, and only the last one declared has a place that
matters; so if the output names differ, the others may be resolved in any
order (`merge_exact`).
-/

namespace ApiGateway

namespace Parameter

variable {ps : List Parameter} {s : ParamSources} {n : String} {v w : Value}

/-! ## Output names -/

/-- A declared parameter, and whether it is the last one. -/
abbrev Placed := Parameter × Bool

/-- The declared parameters in their places. -/
def placed : List Parameter → List Placed
  | [] => []
  | p :: ps => (p, ps.isEmpty) :: placed ps

theorem fst_mem_of_mem_placed {x : Placed} (h : x ∈ placed ps) : x.1 ∈ ps := by
  induction ps with
  | nil => cases h
  | cons p ps ih =>
    rcases List.mem_cons.1 h with rfl | h
    · exact List.mem_cons_self
    · exact List.mem_cons_of_mem _ (ih h)

namespace Placed

/-- The last parameter takes the rest of a path if its name begins with a
plus. -/
def IsRest (x : Placed) : Prop := x.2 = true ∧ x.1.name.toList.head? = some '+'

instance (x : Placed) : Decidable x.IsRest := inferInstanceAs (Decidable (_ ∧ _))

/-- The name that a parameter's value is found under. -/
def outputName (x : Placed) : String :=
  if x.IsRest then String.ofList x.1.name.toList.tail else x.1.name

/-- **What a converted value is merged as**: itself, but for a text of a
parameter that takes the rest of a path, which becomes the array of its pieces
between slashes. -/
inductive MergedAs (x : Placed) : Value → Value → Prop where
  | pieces {t : String} {parts : List String} :
      x.IsRest → parts ≠ [] → String.joined "/" parts = t → (∀ p ∈ parts, '/' ∉ p.toList) →
      MergedAs x (.string t) (.array (parts.map .string))
  | same {v : Value} : (x.IsRest → ∀ t, v ≠ .string t) → MergedAs x v v

/-- What a converted value is merged as. -/
def mergedValue (x : Placed) (v : Value) : Value := if x.IsRest then cutAtSlashes v else v

/-- The pieces of a text between its slashes. -/
theorem pieces_slash_iff {t : String} {parts : List String} :
    t.pieces '/' = parts ↔
      parts ≠ [] ∧ String.joined "/" parts = t ∧ ∀ p ∈ parts, '/' ∉ p.toList := by
  have hslash : "/" = String.singleton '/' := rfl
  rw [hslash]
  exact String.pieces_eq_iff

theorem mergedAs_iff {x : Placed} : x.MergedAs w v ↔ v = x.mergedValue w := by
  unfold mergedValue
  constructor
  · intro h
    cases h with
    | pieces hrest hne hjoin hslash =>
      rw [if_pos hrest, cutAtSlashes, pieces_slash_iff.2 ⟨hne, hjoin, hslash⟩]
    | same hsame =>
      by_cases hrest : x.IsRest
      · rw [if_pos hrest]
        cases v with
        | string t => exact absurd rfl (hsame hrest t)
        | _ => rfl
      · rw [if_neg hrest]
  · rintro rfl
    by_cases hrest : x.IsRest
    · rw [if_pos hrest]
      cases w with
      | string t =>
        obtain ⟨hne, hjoin, hslash⟩ := pieces_slash_iff.1 (Eq.refl (t.pieces '/'))
        exact .pieces hrest hne hjoin hslash
      | _ => exact .same fun _ t => nofun
    · rw [if_neg hrest]
      exact .same fun h => absurd h hrest

/-- **What a declared parameter gives**: its value under its output name, if
it has a value. -/
def given? (s : ParamSources) (x : Placed) : Option (String × Value) :=
  (x.1.value? s).map fun v => (x.outputName, x.mergedValue v)

/-- What it gives for one name. -/
def givenFor? (s : ParamSources) (n : String) (x : Placed) : Option Value :=
  if x.outputName = n then (x.1.value? s).map x.mergedValue else none

theorem restName?_eq (p : Parameter) : p.restName? =
    if p.name.toList.head? = some '+' then some (String.ofList p.name.toList.tail) else none := by
  unfold restName?
  split
  next name hname => rw [hname, List.head?_cons, if_pos rfl, List.tail_cons]
  next hplus =>
    rw [if_neg]
    intro hhead
    obtain ⟨name, hname⟩ := List.head?_eq_some_iff.1 hhead
    exact hplus name hname

theorem contribution_eq (x : Placed) (v : Value) :
    x.1.contribution x.2 v = (x.outputName, x.mergedValue v) := by
  rw [contribution, restName?_eq]
  unfold outputName mergedValue IsRest
  by_cases hlast : x.2 = true
  · by_cases hplus : x.1.name.toList.head? = some '+'
    · simp [hlast, hplus]
    · simp [hlast, hplus]
  · simp [hlast]

end Placed

/-! ## Merging -/

/-- The values of placed parameters by output name. -/
def merged (s : ParamSources) (xs : List Placed) : OrderedMap String Value :=
  OrderedMap.ofPairs (xs.filterMap (Placed.given? s))

/-- **Resolving parameters is merging them in their places.** -/
theorem resolve_eq_merged (ps : List Parameter) (s : ParamSources) :
    resolve ps s = merged s (placed ps) := by
  refine congrArg OrderedMap.ofPairs ?_
  induction ps with
  | nil => rfl
  | cons p ps ih =>
    rw [contributions, placed, ih]
    cases hv : p.value? s with
    | none =>
      have hnone : Placed.given? s (p, ps.isEmpty) = none := by
        rw [Placed.given?, hv, Option.map_none]
      rw [List.filterMap_cons_none hnone]
    | some v =>
      have hsome : Placed.given? s (p, ps.isEmpty) =
          some (p.contribution ps.isEmpty v) := by
        rw [Placed.given?, hv, Option.map_some, ← Placed.contribution_eq]
      rw [List.filterMap_cons_some hsome]

theorem get?_filterMap_given (xs : List Placed) (s : ParamSources) (n : String) :
    OrderedMap.get? (xs.filterMap (Placed.given? s)) n = xs.findSome? (Placed.givenFor? s n) := by
  induction xs with
  | nil => rfl
  | cons x xs ih =>
    rw [List.filterMap_cons, List.findSome?_cons, Placed.given?, Placed.givenFor?]
    cases x.1.value? s with
    | none => simpa using ih
    | some v =>
      by_cases hn : x.outputName = n
      · simp [OrderedMap.get?_cons, hn]
      · simpa [OrderedMap.get?_cons, hn] using ih

/-- **A name has what the last parameter gives for it**, of those that give
something. -/
theorem get?_merged (xs : List Placed) (s : ParamSources) (n : String) :
    OrderedMap.get? (merged s xs) n = xs.reverse.findSome? (Placed.givenFor? s n) := by
  rw [merged, OrderedMap.get?_ofPairs, ← List.filterMap_reverse, get?_filterMap_given]

/-- What a placed parameter gives for a name, it gives under that name. -/
theorem Placed.givenFor?_eq_some_iff {x : Placed} :
    x.givenFor? s n = some v ↔ x.outputName = n ∧ ∃ w, x.1.value? s = some w ∧ x.MergedAs w v := by
  unfold givenFor?
  split
  next hn =>
    rw [Option.map_eq_some_iff, and_iff_right hn]
    simp only [mergedAs_iff, eq_comm]
  next hn => exact iff_of_false nofun fun h => hn h.1

theorem Placed.givenFor?_eq_none_iff {x : Placed} :
    x.givenFor? s n = none ↔ (x.outputName = n → x.1.value? s = none) := by
  unfold givenFor?
  split
  next hn => rw [Option.map_eq_none_iff, forall_prop_of_true hn]
  next hn => exact iff_of_true rfl fun h => absurd h hn

/-- **The value of a name** is what the last parameter of that name with a
value is merged as. -/
theorem get?_merged_eq_some_iff {xs : List Placed} :
    OrderedMap.get? (merged s xs) n = some v ↔ ∃ before x after w, xs = before ++ x :: after ∧
      x.outputName = n ∧ x.1.value? s = some w ∧ x.MergedAs w v ∧
      ∀ y ∈ after, y.outputName = n → y.1.value? s = none := by
  rw [get?_merged, List.findSome?_eq_some_iff]
  -- What is found first in the reversed list is the last of the list.
  constructor
  · rintro ⟨later, x, earlier, hxs, hx, hlater⟩
    obtain ⟨hn, w, hw, hv⟩ := Placed.givenFor?_eq_some_iff.1 hx
    refine ⟨earlier.reverse, x, later.reverse, w, ?_, hn, hw, hv, fun y hy => ?_⟩
    · rw [← List.reverse_reverse xs, hxs]
      simp
    · exact Placed.givenFor?_eq_none_iff.1 (hlater y (List.mem_reverse.1 hy))
  · rintro ⟨before, x, after, w, rfl, hn, hw, hv, hafter⟩
    refine ⟨after.reverse, x, before.reverse, by simp, ?_, fun y hy => ?_⟩
    · exact Placed.givenFor?_eq_some_iff.2 ⟨hn, w, hw, hv⟩
    · exact Placed.givenFor?_eq_none_iff.2 (hafter y (List.mem_reverse.1 hy))

/-- **The names that are there** are the output names of the parameters with
a value. -/
theorem mem_keys_merged_iff {xs : List Placed} :
    n ∈ OrderedMap.keys (merged s xs) ↔
      ∃ x ∈ xs, x.outputName = n ∧ (x.1.value? s).isSome = true := by
  rw [← OrderedMap.isSome_get?_iff, get?_merged, List.findSome?_isSome_iff]
  simp only [List.mem_reverse]
  refine exists_congr fun x => and_congr_right fun _ => ?_
  unfold Placed.givenFor?
  split
  next hn => simp [hn]
  next hn => simp [hn]

/-- **A parameter without a value does not count.** -/
theorem merged_append_cons_of_absent {before after : List Placed} {x : Placed}
    (h : x.1.value? s = none) : merged s (before ++ x :: after) = merged s (before ++ after) := by
  have hx : Placed.given? s x = none := by rw [Placed.given?, h, Option.map_none]
  rw [merged, merged, List.filterMap_append, List.filterMap_append, List.filterMap_cons_none hx]

/-- **What is merged depends on the values alone**: parameters without one may
be left out, and the others may have theirs from anywhere else. -/
theorem merged_eq_filter {s' : ParamSources} {xs : List Placed} {q : Placed → Bool}
    (hkept : ∀ x ∈ xs, q x = true → x.1.value? s = x.1.value? s')
    (hleft : ∀ x ∈ xs, q x = false → x.1.value? s = none) :
    merged s xs = merged s' (xs.filter q) := by
  rw [merged, merged, List.filterMap_filter]
  refine congrArg OrderedMap.ofPairs (List.filterMap_congr fun x hx => ?_)
  cases hq : q x with
  | true => rw [Placed.given?, Placed.given?, hkept x hx hq, if_pos rfl]
  | false => rw [Placed.given?, hleft x hx hq, Option.map_none, if_neg Bool.false_ne_true]

/-- The values of those declared parameters that have one. -/
def present (s : ParamSources) (ps : List Parameter) : OrderedMap String Value :=
  merged s ((placed ps).filter fun x => (x.1.value? s).isSome)

/-- **Resolving parameters is merging those with a value**, from any sources
that give them the same values. -/
theorem resolve_eq_present {s' : ParamSources} (h : ∀ p ∈ ps, p.value? s = p.value? s') :
    resolve ps s = present s' ps := by
  have hvalue : ∀ x ∈ placed ps, x.1.value? s = x.1.value? s' := fun x hx =>
    h x.1 (fst_mem_of_mem_placed hx)
  rw [resolve_eq_merged]
  refine merged_eq_filter (fun x hx _ => hvalue x hx) fun x hx habsent => ?_
  rw [hvalue x hx]
  exact Option.isNone_iff_eq_none.1 (Option.isSome_eq_false_iff.1 habsent)

/-! ## The order of the parameters -/

/-- Only the last parameter has a place that matters. -/
theorem placed_concat (front : List Parameter) (last : Parameter) :
    placed (front ++ [last]) = front.map (·, false) ++ [(last, true)] := by
  induction front with
  | nil => rfl
  | cons p front ih =>
    rw [List.cons_append, placed, ih]
    simp

theorem keys_given_sublist (xs : List Placed) (s : ParamSources) :
    (OrderedMap.keys (xs.filterMap (Placed.given? s))).Sublist (xs.map Placed.outputName) := by
  induction xs with
  | nil => exact .slnil
  | cons x xs ih =>
    rw [List.filterMap_cons, List.map_cons, Placed.given?]
    cases x.1.value? s with
    | none => exact ih.cons _
    | some v => exact ih.cons_cons _

/-- Of parameters with different output names each has its place in the
result. -/
theorem merged_of_nodup {xs : List Placed} (h : (xs.map Placed.outputName).Nodup) :
    merged s xs = xs.filterMap (Placed.given? s) :=
  OrderedMap.ofPairs_of_nodup ((keys_given_sublist xs s).nodup h)

/-- **Parameters with different output names may change places.** -/
theorem merged_perm {xs xs' : List Placed} (hperm : xs'.Perm xs)
    (h : (xs.map Placed.outputName).Nodup) : (merged s xs').Perm (merged s xs) := by
  have h' : (xs'.map Placed.outputName).Nodup := (hperm.map _).nodup_iff.2 h
  rw [merged_of_nodup h, merged_of_nodup h']
  exact hperm.filterMap _

/-- **What declared parameters are merged to, exactly.** Every name occurs
once. A name is there exactly if some parameter has it as its output name and
has a value, and its value is what the last of these is merged as. A parameter
without a value may as well not be there: the others, in their places, are
merged to the same. And if the output names are different, all parameters but
the last may be declared in any order: the same names have the same values. -/
theorem merge_exact (ps : List Parameter) (s : ParamSources) :
    (OrderedMap.keys (resolve ps s)).Nodup ∧
    (∀ n, n ∈ OrderedMap.keys (resolve ps s) ↔
      ∃ x ∈ placed ps, x.outputName = n ∧ (x.1.value? s).isSome = true) ∧
    (∀ n v, OrderedMap.get? (resolve ps s) n = some v ↔
      ∃ before x after w, placed ps = before ++ x :: after ∧ x.outputName = n ∧
        x.1.value? s = some w ∧ x.MergedAs w v ∧
        ∀ y ∈ after, y.outputName = n → y.1.value? s = none) ∧
    (∀ before x after, placed ps = before ++ x :: after → x.1.value? s = none →
      resolve ps s = merged s (before ++ after)) ∧
    ∀ front front' last, ps = front ++ [last] → front'.Perm front →
      ((placed ps).map Placed.outputName).Nodup →
      (resolve (front' ++ [last]) s).Perm (resolve ps s) ∧
        ∀ n, OrderedMap.get? (resolve (front' ++ [last]) s) n =
          OrderedMap.get? (resolve ps s) n := by
  refine ⟨OrderedMap.nodup_keys_ofPairs _, fun n => ?_, fun n v => ?_, ?_, ?_⟩
  · rw [resolve_eq_merged, mem_keys_merged_iff]
  · rw [resolve_eq_merged, get?_merged_eq_some_iff]
  · intro before x after hps hx
    rw [resolve_eq_merged, hps, merged_append_cons_of_absent hx]
  · rintro front front' last rfl hfront hnames
    have hplaced : (placed (front' ++ [last])).Perm (placed (front ++ [last])) := by
      rw [placed_concat, placed_concat]
      exact (hfront.map _).append_right _
    have hperm : (resolve (front' ++ [last]) s).Perm (resolve (front ++ [last]) s) := by
      rw [resolve_eq_merged, resolve_eq_merged]
      exact merged_perm hplaced hnames
    exact ⟨hperm, OrderedMap.get?_of_perm hperm (OrderedMap.nodup_keys_ofPairs _)⟩

/-- A text parameter of a name and a location. -/
def ofText (name : String) (location : ParamLocation) : Parameter :=
  ⟨name, location, false, .plain ⟨some "string", none, none⟩⟩

/-- A call for a file of a crag. -/
def cragFile : ParamSources :=
  ⟨⟨"GET", "/crags/7/files/a/b", some "grade=5", [], []⟩,
    some (.compile [] "/crags/{crag}/files/{+rest}".toList), none⟩

/-- Two parameters change places before one that takes the rest of the path:
the names change places, and the values stay. -/
theorem merge_exact_of_cragFile :
    let front := [ofText "crag" .path, ofText "grade" .query]
    let swapped := [ofText "grade" .query, ofText "crag" .path]
    let rest := ofText "+rest" .path
    swapped.Perm front ∧
    ((placed (front ++ [rest])).map Placed.outputName).Nodup ∧
    resolve (front ++ [rest]) cragFile =
      [("crag", .string "7"), ("grade", .string "5"),
        ("rest", .array [.string "a", .string "b"])] ∧
    (resolve (swapped ++ [rest]) cragFile).Perm (resolve (front ++ [rest]) cragFile) := by
  intro front swapped rest
  have hperm : swapped.Perm front := by decide
  have hnames : ((placed (front ++ [rest])).map Placed.outputName).Nodup := by decide
  obtain ⟨-, -, -, -, horder⟩ := merge_exact (front ++ [rest]) cragFile
  exact ⟨hperm, hnames, by cbv, (horder front swapped rest rfl hperm hnames).1⟩

end Parameter

end ApiGateway
