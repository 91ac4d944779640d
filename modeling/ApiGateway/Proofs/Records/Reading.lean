import ApiGateway.Proofs.DistinctKeys
import ApiGateway.Store.Collection
/-!
# Collections — what reading finds, and what all records share

What is looked up in a collection, found by a test or listed is in it
(`mem_of_get?`, `mem_of_find?`, `mem_filter`). A search by a test comes upon
any record that passes it, and first upon the one that stands first
(`find?_zero_eq_some_iff`). A property that every
record has under its snapshot and id (`Collection.All`) is kept by
storing a record that has it and by purging.
-/

namespace ApiGateway

namespace Collection

variable {α : Type} {c : Collection α} {s : SnapshotId} {id : String} {a : α} {test : α → Bool}

/-! ## Reading -/

theorem mem_of_get? (h : c.get? s id = some a) : ((s, id), a) ∈ c := OrderedMap.mem_of_get? h

theorem mem_ofSnapshot {p : String × α} : p ∈ c.ofSnapshot s ↔ ((s, p.1), p.2) ∈ c := by
  rw [ofSnapshot, List.mem_filterMap]
  constructor
  · rintro ⟨⟨⟨s', id⟩, a⟩, hm, he⟩
    by_cases hs : s' = s
    · rw [if_pos hs] at he
      obtain rfl := Option.some.inj he
      exact hs ▸ hm
    · rw [if_neg hs] at he
      cases he
  · exact fun h => ⟨_, h, if_pos rfl⟩

/-- A search comes upon the records of the snapshot that pass the test. -/
theorem mem_matching : a ∈ c.matching s test ↔ (∃ id, ((s, id), a) ∈ c) ∧ test a = true := by
  rw [matching, List.mem_filter, List.mem_map]
  refine and_congr_left fun _ => ⟨?_, fun ⟨id, h⟩ => ⟨(id, a), mem_ofSnapshot.2 h, rfl⟩⟩
  rintro ⟨p, hp, rfl⟩
  exact ⟨p.1, mem_ofSnapshot.1 hp⟩

theorem mem_of_find? {pick : Nat} (h : c.find? s test pick = some a) :
    ∃ id, ((s, id), a) ∈ c ∧ test a = true := by
  obtain ⟨⟨id, hmem⟩, htest⟩ := mem_matching.1 (List.mem_of_getElem? h)
  exact ⟨id, hmem, htest⟩

theorem find?_zero (c : Collection α) (s : SnapshotId) (test : α → Bool) :
    c.find? s test 0 = (List.find? (fun p => decide (p.1.1 = s) && test p.2) c).map (·.2) := by
  have hfirst : c.find? s test 0 = ((c.ofSnapshot s).find? fun p => test p.2).map (·.2) := by
    rw [find?, Nat.zero_mod, matching, ← List.head?_eq_getElem?, List.head?_filter, List.find?_map]
    rfl
  rw [hfirst]
  unfold ofSnapshot
  clear hfirst
  induction c with
  | nil => rfl
  | cons p c ih =>
    rw [List.filterMap_cons, List.find?_cons]
    by_cases hs : p.1.1 = s
    · cases htest : test p.2 with
      | true => simp [hs, htest]
      | false => simpa [hs, htest] using ih
    · simpa [hs] using ih

/-- **What is found first** is the first record of the snapshot that passes
the test. -/
theorem find?_zero_eq_some_iff : c.find? s test 0 = some a ↔ ∃ before id after,
    c = before ++ ((s, id), a) :: after ∧ test a = true ∧
      ∀ p ∈ before, p.1.1 = s → test p.2 = false := by
  rw [find?_zero, Option.map_eq_some_iff]
  simp only [List.find?_eq_some_iff_append, Bool.and_eq_true, decide_eq_true_iff,
    Bool.not_eq_true', Bool.and_eq_false_imp]
  constructor
  · rintro ⟨⟨⟨s', id⟩, a'⟩, ⟨⟨rfl, htest⟩, before, after, rfl, hbefore⟩, rfl⟩
    exact ⟨before, id, after, rfl, htest, hbefore⟩
  · rintro ⟨before, id, after, rfl, htest, hbefore⟩
    exact ⟨((s, id), a), ⟨⟨rfl, htest⟩, before, after, rfl, hbefore⟩, rfl⟩

/-- **Nothing is found** if no record of the snapshot passes the test. -/
theorem find?_eq_none_iff {pick : Nat} :
    c.find? s test pick = none ↔ ∀ id a, ((s, id), a) ∈ c → test a = false := by
  have hnone : c.find? s test pick = none ↔ c.matching s test = [] := by
    rw [find?, List.getElem?_eq_none_iff, ← List.length_eq_zero_iff]
    rcases Nat.eq_zero_or_pos (c.matching s test).length with h | h
    · simp [h]
    · exact iff_of_false (Nat.not_le.2 (Nat.mod_lt _ h)) (Nat.ne_of_gt h)
  rw [hnone, List.eq_nil_iff_forall_not_mem]
  simp only [mem_matching, not_and, Bool.not_eq_true, forall_exists_index]
  exact ⟨fun h id a => h a id, fun h a id => h id a⟩

/-- **Where only one record passes the test** it is found, whatever the order
in which the search goes. -/
theorem find?_of_length_le_one (h : (c.matching s test).length ≤ 1) (pick pick' : Nat) :
    c.find? s test pick = c.find? s test pick' := by
  rw [find?, find?]
  match hm : c.matching s test with
  | [] => rfl
  | [a] => rw [List.length_singleton, Nat.mod_one, Nat.mod_one]
  | a :: b :: rest =>
    rw [hm] at h
    exact absurd h (by simp)

/-- A listing has the records of the snapshot that pass the test. -/
theorem mem_filter : a ∈ c.filter s test ↔ ∃ id, ((s, id), a) ∈ c ∧ test a = true := by
  rw [filter, List.mem_map]
  constructor
  · rintro ⟨p, hp, rfl⟩
    rw [List.mem_mergeSort, List.mem_filter, mem_ofSnapshot] at hp
    exact ⟨p.1, hp⟩
  · rintro ⟨id, hp⟩
    refine ⟨(id, a), ?_, rfl⟩
    rwa [List.mem_mergeSort, List.mem_filter, mem_ofSnapshot]

/-- What is found is still found when a record is put. -/
theorem isSome_get?_put {s' : SnapshotId} {id' : String} (s : SnapshotId) (id : String) (a : α)
    (h : (c.get? s' id').isSome = true) : ((c.put s id a).get? s' id').isSome = true := by
  rw [get?, put, OrderedMap.get?_insert]
  split
  · rfl
  · exact h

/-! ## What all records share -/

/-- Every record has a property under its snapshot and id. -/
def All (P : SnapshotId → String → α → Prop) (c : Collection α) : Prop :=
  ∀ s id a, ((s, id), a) ∈ c → P s id a

variable {P : SnapshotId → String → α → Prop}

theorem all_nil : All P [] := fun _ _ _ h => absurd h List.not_mem_nil

theorem All.put (hc : All P c) (ha : P s id a) : All P (c.put s id a) := by
  intro s' id' a' hm
  rcases OrderedMap.mem_insert hm with h | h
  · cases h
    exact ha
  · exact hc s' id' a' h

theorem All.purge (hc : All P c) (s : SnapshotId) : All P (c.purge s) :=
  fun s' id a hm => hc s' id a (List.mem_filter.1 hm).1

theorem All.get? (hc : All P c) (h : c.get? s id = some a) : P s id a :=
  hc s id a (mem_of_get? h)

end Collection

end ApiGateway
