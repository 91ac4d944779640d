import ApiGateway.Proofs.Records.Reading
import Mathlib.Data.List.Sort
import Mathlib.Data.String.Basic
/-!
# Collections — the order of listings

A listing has the records of a snapshot in the order of their ids. Where
no id repeats the order is strict (`pairwise_listing`), so the place of a
record is told by its id alone, and a listing by what is read under each id
(`filter_congr_of_get?`).
-/

namespace ApiGateway

namespace Collection

variable {α : Type} {c : Collection α}

/-- The records of a snapshot that pass a test with their ids, in the
order of the ids. -/
def listing (c : Collection α) (s : SnapshotId) (test : α → Bool) : List (String × α) :=
  ((c.ofSnapshot s).filter fun p => test p.2).mergeSort fun p q => decide (p.1 ≤ q.1)

theorem filter_eq_listing (c : Collection α) (s : SnapshotId) (test : α → Bool) :
    c.filter s test = (c.listing s test).map (·.2) := rfl

theorem mem_listing {s : SnapshotId} {test : α → Bool} {p : String × α} :
    p ∈ c.listing s test ↔ ((s, p.1), p.2) ∈ c ∧ test p.2 = true := by
  rw [listing, List.mem_mergeSort, List.mem_filter, mem_ofSnapshot]

/-- In one snapshot no id repeats. -/
theorem nodup_ofSnapshot (hc : (OrderedMap.keys c).Nodup) (s : SnapshotId) :
    ((c.ofSnapshot s).map (·.1)).Nodup := by
  have hkeys : c.Pairwise fun e e' => e.1 ≠ e'.1 := List.pairwise_map.1 hc
  refine List.pairwise_map.2 (List.pairwise_filterMap.2 (hkeys.imp ?_))
  intro e e' hne p hp p' hp' heq
  obtain ⟨hs, hp⟩ := Option.ite_none_right_eq_some.1 hp
  obtain ⟨hs', hp'⟩ := Option.ite_none_right_eq_some.1 hp'
  obtain rfl := Option.some.inj hp
  obtain rfl := Option.some.inj hp'
  exact hne (Prod.ext (hs.trans hs'.symm) heq)

/-- **A listing is in the strict order of the ids**, if no key of the
collection repeats. -/
theorem pairwise_listing (hc : (OrderedMap.keys c).Nodup) (s : SnapshotId) (test : α → Bool) :
    (c.listing s test).Pairwise fun p q => p.1 < q.1 := by
  have hperm : (c.listing s test).Perm ((c.ofSnapshot s).filter fun p => test p.2) :=
    List.mergeSort_perm _ _
  have hnodup : ((c.listing s test).map (·.1)).Nodup := by
    refine (hperm.map _).nodup_iff.2 ?_
    exact (List.filter_sublist.map _).nodup (nodup_ofSnapshot hc s)
  have hsorted : (c.listing s test).Pairwise fun p q => decide (p.1 ≤ q.1) = true := by
    refine List.pairwise_mergeSort (fun p q t hpq hqt => ?_) (fun p q => ?_) _
    · exact decide_eq_true (le_trans (of_decide_eq_true hpq) (of_decide_eq_true hqt))
    · rw [Bool.or_eq_true]
      exact (le_total p.1 q.1).imp decide_eq_true decide_eq_true
  refine List.Pairwise.imp₂ (fun p q hle hne => ?_) hsorted (List.pairwise_map.1 hnodup)
  exact lt_of_le_of_ne (of_decide_eq_true hle) hne

/-- **Two collections that read the same list the same**, whatever the
order in which their records came. -/
theorem filter_congr_of_get? {c' : Collection α} {s : SnapshotId}
    (hc : (OrderedMap.keys c).Nodup) (hc' : (OrderedMap.keys c').Nodup)
    (h : ∀ id, c.get? s id = c'.get? s id) (test : α → Bool) :
    c.filter s test = c'.filter s test := by
  let before : String × α → String × α → Prop := fun p q => p.1 < q.1
  have : Std.Irrefl before := ⟨fun p => lt_irrefl p.1⟩
  have : Std.Antisymm before := ⟨fun p q hpq hqp => absurd hpq (lt_asymm hqp)⟩
  have hsame : c.listing s test = c'.listing s test := by
    refine (pairwise_listing hc s test : (c.listing s test).Pairwise before).eq_of_mem_iff
      (pairwise_listing hc' s test) fun p => ?_
    have hread := h p.1
    rw [mem_listing, mem_listing, ← OrderedMap.get?_eq_some_iff hc,
      ← OrderedMap.get?_eq_some_iff hc']
    rw [get?, get?] at hread
    rw [hread]
  rw [filter_eq_listing, filter_eq_listing, hsame]

end Collection

end ApiGateway
