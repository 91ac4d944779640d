import ApiGateway.Proofs.DistinctKeys
import ApiGateway.Store.Snapshots
/-!
# The table of snapshots — what its operations do to one row

Three things can be read of a snapshot in the table: whether it has a row
(`row?`), how many references it has (`refcount`, none without a row) and
whether it is the current one (`isCurrent`). This file says what giving a
reference back, promoting and acquiring do to each. Whatever the rows are,
the table stays keyed (`Keyed`): one row for each id, and under that id.
All three also keep a table sound (`Sound`): keyed, with every row referred
to and at most one of them current.
-/

namespace ApiGateway

namespace SnapshotTable

variable {t : SnapshotTable} {id id' : SnapshotId} {s : Snapshot}

/-- How many references a snapshot has; none if it has no row. -/
def refcount (t : SnapshotTable) (id : SnapshotId) : Nat :=
  match t.row? id with
  | none => 0
  | some s => s.refcount

/-- Whether a snapshot is current. -/
def isCurrent (t : SnapshotTable) (id : SnapshotId) : Bool := (t.row? id).any Snapshot.current

/-- The rows that are marked current. -/
def currentRows (t : SnapshotTable) : List Snapshot :=
  (OrderedMap.values t).filter Snapshot.current

/-- **A sound table**: its rows stand under their own ids, each once, all
of them are referred to, and at most one is current. -/
structure Sound (t : SnapshotTable) : Prop where
  nodup : (OrderedMap.keys t).Nodup
  id_eq : ∀ p ∈ t, p.2.id = p.1
  pos : ∀ p ∈ t, 0 < p.2.refcount
  single : ∀ p ∈ t, ∀ q ∈ t, p.2.current = true → q.2.current = true → p.1 = q.1

theorem sound_nil : Sound [] :=
  ⟨List.nodup_nil, fun _ h => absurd h List.not_mem_nil, fun _ h => absurd h List.not_mem_nil,
    fun _ h => absurd h List.not_mem_nil⟩

/-- The rows of a table stand under their own ids. -/
def KeyedByIds (t : SnapshotTable) : Prop := ∀ p ∈ t, p.2.id = p.1

/-- **A keyed table**: it has one row for each id, which stands under that
id. -/
structure Keyed (t : SnapshotTable) : Prop where
  nodup : (OrderedMap.keys t).Nodup
  own : KeyedByIds t

theorem Sound.keyed (ht : Sound t) : Keyed t := ⟨ht.nodup, ht.id_eq⟩

theorem refcount_of_row? (h : t.row? id = some s) : t.refcount id = s.refcount := by
  rw [refcount, h]

theorem refcount_of_row?_none (h : t.row? id = none) : t.refcount id = 0 := by
  rw [refcount, h]

theorem isCurrent_of_row? (h : t.row? id = some s) : t.isCurrent id = s.current := by
  rw [isCurrent, h, Option.any_some]

theorem isCurrent_of_row?_none (h : t.row? id = none) : t.isCurrent id = false := by
  rw [isCurrent, h, Option.any_none]

theorem KeyedByIds.id_of_row? (ht : KeyedByIds t) (h : t.row? id = some s) : s.id = id :=
  ht _ (OrderedMap.mem_of_get? h)

namespace Keyed

theorem row?_eq_some (ht : Keyed t) : t.row? id = some s ↔ (id, s) ∈ t :=
  OrderedMap.get?_eq_some_iff ht.nodup

theorem mem_values (ht : Keyed t) : s ∈ OrderedMap.values t ↔ t.row? s.id = some s := by
  rw [ht.row?_eq_some]
  constructor
  · intro h
    obtain ⟨p, hp, rfl⟩ := List.mem_map.1 h
    rw [ht.own p hp]
    exact hp
  · exact fun h => List.mem_map.2 ⟨_, h, rfl⟩

/-- The ids of the rows are the keys of the table. -/
theorem ids_eq_keys (ht : Keyed t) : (OrderedMap.values t).map Snapshot.id = OrderedMap.keys t := by
  rw [OrderedMap.values, OrderedMap.keys, List.map_map]
  exact List.map_congr_left fun p hp => ht.own p hp

end Keyed

namespace Sound

theorem row?_eq_some (ht : Sound t) : t.row? id = some s ↔ (id, s) ∈ t := ht.keyed.row?_eq_some

theorem id_of_row? (ht : Sound t) (h : t.row? id = some s) : s.id = id := ht.keyed.own.id_of_row? h

/-- A snapshot has a row exactly when it has references. -/
theorem row?_isSome (ht : Sound t) (id : SnapshotId) :
    (t.row? id).isSome = true ↔ 0 < t.refcount id := by
  cases h : t.row? id with
  | none => simp [refcount_of_row?_none h]
  | some s =>
    rw [refcount_of_row? h]
    exact ⟨fun _ => ht.pos _ (ht.row?_eq_some.1 h), fun _ => rfl⟩

theorem pos_of_isCurrent (ht : Sound t) (h : t.isCurrent id = true) : 0 < t.refcount id := by
  refine (ht.row?_isSome id).1 ?_
  cases hr : t.row? id with
  | none => rw [isCurrent_of_row?_none hr] at h; cases h
  | some s => rfl

theorem eq_of_isCurrent (ht : Sound t) (h : t.isCurrent id = true) (h' : t.isCurrent id' = true) :
    id = id' := by
  obtain ⟨s, hs, hc⟩ := (Option.any_eq_true _ _).1 h
  obtain ⟨s', hs', hc'⟩ := (Option.any_eq_true _ _).1 h'
  exact ht.single _ (ht.row?_eq_some.1 hs) _ (ht.row?_eq_some.1 hs') hc hc'

/-! ## Counting the current rows -/

theorem mem_currentRows (ht : Sound t) :
    s ∈ t.currentRows ↔ t.row? s.id = some s ∧ s.current = true := by
  rw [currentRows, List.mem_filter, ht.keyed.mem_values]

/-- The current rows stand under different ids. -/
theorem nodup_currentRows (ht : Sound t) : (t.currentRows.map Snapshot.id).Nodup :=
  (List.filter_sublist.map _).nodup (ht.keyed.ids_eq_keys ▸ ht.nodup)

/-- **At most one row is current.** -/
theorem length_currentRows_le (ht : Sound t) : t.currentRows.length ≤ 1 := by
  match h : t.currentRows with
  | [] => simp
  | [_] => simp
  | a :: b :: rest =>
    have ha := ht.mem_currentRows.1 (h ▸ List.mem_cons_self)
    have hb := ht.mem_currentRows.1 (h ▸ List.mem_cons_of_mem a List.mem_cons_self)
    have hab : a.id = b.id :=
      ht.eq_of_isCurrent (by rw [isCurrent_of_row? ha.1, ha.2])
        (by rw [isCurrent_of_row? hb.1, hb.2])
    have hnd := ht.nodup_currentRows
    simp [h, hab] at hnd

/-- Where a snapshot is current, there is exactly one current row. -/
theorem length_currentRows_eq (ht : Sound t) (h : t.isCurrent id = true) :
    t.currentRows.length = 1 := by
  obtain ⟨s, hs, hc⟩ := (Option.any_eq_true _ _).1 h
  have hmem : s ∈ t.currentRows := ht.mem_currentRows.2 ⟨ht.id_of_row? hs ▸ hs, hc⟩
  have := List.length_pos_of_mem hmem
  have := ht.length_currentRows_le
  omega

end Sound

/-! ## A row with another count -/

/-- A row with another count is read back in its place. -/
theorem row?_insert (t : SnapshotTable) (id id' : SnapshotId) (s : Snapshot) :
    SnapshotTable.row? (OrderedMap.insert t id s) id' = if id' = id then some s else t.row? id' :=
  OrderedMap.get?_insert t id id' s

theorem KeyedByIds.insert (ht : KeyedByIds t) (hs : s.id = id) :
    KeyedByIds (OrderedMap.insert t id s) := by
  intro p hp
  rcases OrderedMap.mem_insert hp with rfl | hp
  · exact hs
  · exact ht p hp

theorem Keyed.insert (ht : Keyed t) (hs : s.id = id) : Keyed (OrderedMap.insert t id s) :=
  ⟨OrderedMap.nodup_keys_insert ht.nodup, ht.own.insert hs⟩

/-- A sound table stays sound when a row gets another count. -/
theorem Sound.insert_count (ht : Sound t) (hr : t.row? id = some s) {n : Nat} (hn : 0 < n) :
    Sound (OrderedMap.insert t id { s with refcount := n }) := by
  -- but for its count the row that is written was there
  have hold : ∀ p ∈ OrderedMap.insert t id { s with refcount := n },
      ∃ q ∈ t, q.1 = p.1 ∧ q.2.id = p.2.id ∧ q.2.current = p.2.current ∧ 0 < p.2.refcount := by
    intro p hp
    rcases OrderedMap.mem_insert hp with rfl | hp
    · exact ⟨_, ht.row?_eq_some.1 hr, rfl, rfl, rfl, hn⟩
    · exact ⟨p, hp, rfl, rfl, rfl, ht.pos p hp⟩
  refine ⟨OrderedMap.nodup_keys_insert ht.nodup, fun p hp => ?_, fun p hp => ?_,
    fun p hp q hq hpc hqc => ?_⟩
  · obtain ⟨q, hq, hkey, hid, -⟩ := hold p hp
    rw [← hkey, ← hid]
    exact ht.id_eq q hq
  · obtain ⟨-, -, -, -, -, h⟩ := hold p hp
    exact h
  · obtain ⟨p', hp', hpkey, -, hpcur, -⟩ := hold p hp
    obtain ⟨q', hq', hqkey, -, hqcur, -⟩ := hold q hq
    rw [← hpkey, ← hqkey]
    exact ht.single p' hp' q' hq' (hpcur.trans hpc) (hqcur.trans hqc)

/-! ## Giving a reference back -/

/-- **Everything that giving a reference back can do.** -/
theorem release_cases (t : SnapshotTable) (id : SnapshotId) :
    (t.row? id = none ∧ t.release id = (.gone, t)) ∨
    (∃ s, t.row? id = some s ∧ s.refcount = 0 ∧ t.release id = (.unmatched s, t)) ∨
    (∃ s, t.row? id = some s ∧ s.refcount = 1 ∧
      t.release id = (.deleted, OrderedMap.erase t id)) ∨
    (∃ s n, t.row? id = some s ∧ s.refcount = n + 2 ∧
      t.release id = (.kept { s with refcount := n + 1 },
        OrderedMap.insert t id { s with refcount := n + 1 })) := by
  rw [release]
  cases hr : t.row? id with
  | none => exact Or.inl ⟨rfl, rfl⟩
  | some s =>
    match hn : s.refcount with
    | 0 => exact Or.inr (Or.inl ⟨s, rfl, hn, by simp only [hn]⟩)
    | 1 => exact Or.inr (Or.inr (Or.inl ⟨s, rfl, hn, by simp only [hn]⟩))
    | n + 2 => exact Or.inr (Or.inr (Or.inr ⟨s, n, rfl, hn, by simp only [hn]⟩))

theorem row?_release_of_ne (h : id' ≠ id) : (t.release id).2.row? id' = t.row? id' := by
  rcases release_cases t id with ⟨-, h'⟩ | ⟨s, -, -, h'⟩ | ⟨s, -, -, h'⟩ | ⟨s, n, -, -, h'⟩
  · rw [h']
  · rw [h']
  · rw [h']
    exact (OrderedMap.get?_erase t id id').trans (if_neg h)
  · rw [h']
    exact (row?_insert t id id' _).trans (if_neg h)

/-- What is left of a row when a reference to it is given back: one
reference less, and nothing if it was the last. -/
def givenBack (s : Snapshot) : Option Snapshot :=
  match s.refcount with
  | 0 => some s
  | 1 => none
  | n + 2 => some { s with refcount := n + 1 }

/-- **The row to which a reference is given back.** -/
theorem row?_release_self (t : SnapshotTable) (id : SnapshotId) :
    (t.release id).2.row? id = (t.row? id).bind givenBack := by
  rcases release_cases t id with ⟨hr, h⟩ | ⟨s, hr, hn, h⟩ | ⟨s, hr, hn, h⟩ | ⟨s, n, hr, hn, h⟩
  · rw [h, hr, Option.bind_none]
  · rw [h, hr, Option.bind_some, givenBack, hn]
  · rw [h, hr, Option.bind_some, givenBack, hn]
    exact (OrderedMap.get?_erase t id id).trans (if_pos rfl)
  · rw [h, hr, Option.bind_some, givenBack, hn]
    exact (row?_insert t id id _).trans (if_pos rfl)

/-- Giving a reference back brings no row about. -/
theorem row?_release_of_none (h : t.row? id' = none) : (t.release id).2.row? id' = none := by
  by_cases he : id' = id
  · subst he
    rcases release_cases t id' with ⟨-, h'⟩ | ⟨s, hr, -⟩ | ⟨s, hr, -⟩ | ⟨s, n, hr, -⟩
    · rwa [h']
    · simp [h] at hr
    · simp [h] at hr
    · simp [h] at hr
  · rwa [row?_release_of_ne he]

/-- **Giving a reference back lowers one count**, by one if there is a
reference to give back. -/
theorem refcount_release (t : SnapshotTable) (id id' : SnapshotId) :
    (t.release id).2.refcount id' = if id' = id then t.refcount id - 1 else t.refcount id' := by
  by_cases he : id' = id
  · subst he
    rw [if_pos rfl]
    rcases release_cases t id' with ⟨hr, h⟩ | ⟨s, hr, hn, h⟩ | ⟨s, hr, hn, h⟩ | ⟨s, n, hr, hn, h⟩
    · rw [h, refcount_of_row?_none hr]
    · rw [h, refcount_of_row? hr, hn]
    · rw [h, refcount_of_row? hr, hn]
      exact refcount_of_row?_none ((OrderedMap.get?_erase t id' id').trans (if_pos rfl))
    · rw [h, refcount_of_row? hr, hn]
      exact refcount_of_row? ((row?_insert t id' id' _).trans (if_pos rfl))
  · rw [if_neg he, refcount, row?_release_of_ne he, refcount]

/-- The reference given back was the last one exactly when the count was
one. -/
theorem release_eq_deleted (t : SnapshotTable) (id : SnapshotId) :
    (t.release id).1 = .deleted ↔ t.refcount id = 1 := by
  rcases release_cases t id with ⟨hr, h⟩ | ⟨s, hr, hn, h⟩ | ⟨s, hr, hn, h⟩ | ⟨s, n, hr, hn, h⟩
  · simp [h, refcount_of_row?_none hr]
  · simp [h, refcount_of_row? hr, hn]
  · simp [h, refcount_of_row? hr, hn]
  · simp [h, refcount_of_row? hr, hn]

/-- A snapshot stays current or not, unless it is given up. -/
theorem isCurrent_release (t : SnapshotTable) (id id' : SnapshotId) :
    (t.release id).2.isCurrent id' =
      if id' = id ∧ t.refcount id = 1 then false else t.isCurrent id' := by
  by_cases he : id' = id
  · subst he
    rcases release_cases t id' with ⟨hr, h⟩ | ⟨s, hr, hn, h⟩ | ⟨s, hr, hn, h⟩ | ⟨s, n, hr, hn, h⟩
    · rw [h, refcount_of_row?_none hr, if_neg fun h => absurd h.2 (by decide)]
    · rw [h, refcount_of_row? hr, hn, if_neg fun h => absurd h.2 (by decide)]
    · have hk := (OrderedMap.get?_erase t id' id').trans (if_pos rfl)
      rw [h, refcount_of_row? hr, hn, if_pos ⟨rfl, rfl⟩, isCurrent_of_row?_none hk]
    · have hk := (row?_insert t id' id' { s with refcount := n + 1 }).trans (if_pos rfl)
      rw [h, refcount_of_row? hr, hn, if_neg fun h => absurd h.2 (by omega), isCurrent_of_row? hr,
        isCurrent_of_row? hk]
  · rw [if_neg fun h => he h.1, isCurrent, row?_release_of_ne he, isCurrent]

/-- The last reference given back takes the row away. -/
theorem row?_release_of_last (h : t.refcount id = 1) : (t.release id).2.row? id = none := by
  rw [row?_release_self]
  cases hr : t.row? id with
  | none => rfl
  | some s =>
    rw [refcount_of_row? hr] at h
    rw [Option.bind_some, givenBack, h]

theorem KeyedByIds.release (ht : KeyedByIds t) (id : SnapshotId) :
    KeyedByIds (t.release id).2 := by
  rcases release_cases t id with ⟨-, h⟩ | ⟨s, -, -, h⟩ | ⟨s, -, -, h⟩ | ⟨s, n, hr, -, h⟩
  · rwa [h]
  · rwa [h]
  · rw [h]
    exact fun p hp => ht p (List.mem_filter.1 hp).1
  · rw [h]
    have hid : s.id = id := ht.id_of_row? hr
    exact ht.insert hid

theorem Keyed.release (ht : Keyed t) (id : SnapshotId) : Keyed (t.release id).2 := by
  refine ⟨?_, ht.own.release id⟩
  rcases release_cases t id with ⟨-, h⟩ | ⟨s, -, -, h⟩ | ⟨s, -, -, h⟩ | ⟨s, n, -, -, h⟩
  · exact h ▸ ht.nodup
  · exact h ▸ ht.nodup
  · exact h ▸ OrderedMap.nodup_keys_erase ht.nodup
  · exact h ▸ OrderedMap.nodup_keys_insert ht.nodup

theorem Sound.release (ht : Sound t) (id : SnapshotId) : Sound (t.release id).2 := by
  rcases release_cases t id with ⟨-, h⟩ | ⟨s, -, -, h⟩ | ⟨s, -, -, h⟩ | ⟨s, n, hr, -, h⟩
  · rwa [h]
  · rwa [h]
  · rw [h]
    have hsub : ∀ p ∈ OrderedMap.erase t id, p ∈ t := fun p hp => (List.mem_filter.1 hp).1
    exact ⟨OrderedMap.nodup_keys_erase ht.nodup, fun p hp => ht.id_eq p (hsub p hp),
      fun p hp => ht.pos p (hsub p hp), fun p hp q hq => ht.single p (hsub p hp) q (hsub q hq)⟩
  · rw [h]
    exact ht.insert_count hr (Nat.succ_pos n)

/-! ## Acquiring -/

/-- Where one snapshot is current and no other one, its row is found. -/
theorem Keyed.exists_current? (ht : Keyed t) (h : ∀ x, t.isCurrent x = true ↔ x = id) :
    ∃ row, t.current? = some row ∧ row.id = id := by
  obtain ⟨row, hrow, hcurrent⟩ := (Option.any_eq_true _ _).1 ((h id).2 rfl)
  have hmem : row ∈ OrderedMap.values t := by
    rw [ht.mem_values, ht.own.id_of_row? hrow, hrow]
  cases hfound : t.current? with
  | none => exact absurd hcurrent (List.find?_eq_none.1 hfound row hmem)
  | some found =>
    have hin := ht.mem_values.1 (List.mem_of_find?_eq_some hfound)
    have hflag : found.current = true := List.find?_some hfound
    exact ⟨found, rfl, (h found.id).1 ((isCurrent_of_row? hin).trans hflag)⟩

/-- The current row is found exactly where a snapshot is current. -/
theorem Sound.current?_eq_some (ht : Sound t) :
    t.current? = some s ↔ t.row? s.id = some s ∧ s.current = true := by
  rw [← ht.mem_currentRows, currentRows, current?]
  constructor
  · intro h
    exact List.mem_filter.2 ⟨List.mem_of_find?_eq_some h, List.find?_some h⟩
  · intro h
    have hle := ht.length_currentRows_le
    rw [currentRows] at hle
    have hfind : (OrderedMap.values t).find? Snapshot.current
        = ((OrderedMap.values t).filter Snapshot.current).head? := by
      rw [List.head?_filter]
    rw [hfind]
    match hl : (OrderedMap.values t).filter Snapshot.current, h, hle with
    | [a], h, _ => rw [List.mem_singleton.1 h, List.head?_cons]

/-- **Everything that acquiring can do**: the current row, and no other,
gets one more reference, if it can be counted. -/
theorem acquire?_eq_some_iff {row : Snapshot} {t' : SnapshotTable} :
    t.acquire? = some (row, t') ↔ ∃ s, t.current? = some s ∧ s.refcount < mostReferences ∧
      row = { s with refcount := s.refcount + 1 } ∧ t' = OrderedMap.insert t s.id row := by
  rw [acquire?]
  cases t.current? with
  | none => simp
  | some s =>
    simp only [Option.map_eq_some_iff, countUp?_eq_some, Prod.mk.injEq, Option.some.injEq]
    constructor
    · rintro ⟨n, ⟨hlt, rfl⟩, rfl, rfl⟩
      exact ⟨s, rfl, hlt, rfl, rfl⟩
    · rintro ⟨_, rfl, hlt, rfl, rfl⟩
      exact ⟨_, ⟨hlt, rfl⟩, rfl, rfl⟩

/-- **Acquiring adds one reference** to the current snapshot. -/
theorem Sound.acquire (ht : Sound t) {row : Snapshot} {t' : SnapshotTable}
    (h : t.acquire? = some (row, t')) :
    t.isCurrent row.id = true ∧ Sound t' ∧
      (∀ id', t'.refcount id' = if id' = row.id then t.refcount row.id + 1 else t.refcount id') ∧
      ∀ id', t'.isCurrent id' = t.isCurrent id' := by
  obtain ⟨s, hs, -, rfl, rfl⟩ := acquire?_eq_some_iff.1 h
  obtain ⟨hr, hc⟩ := ht.current?_eq_some.1 hs
  simp only [refcount_of_row? hr]
  refine ⟨(isCurrent_of_row? hr).trans hc, ht.insert_count hr (Nat.succ_pos _), fun id' => ?_,
    fun id' => ?_⟩
  · rw [refcount, row?_insert]
    by_cases he : id' = s.id
    · rw [if_pos he, if_pos he]
    · rw [if_neg he, if_neg he, refcount]
  · rw [isCurrent, row?_insert]
    by_cases he : id' = s.id
    · rw [if_pos he, he, isCurrent_of_row? hr, Option.any_some]
    · rw [if_neg he, isCurrent]

/-- A lease brings no row about, since the current row stands under its own
id. -/
theorem KeyedByIds.acquire (ht : KeyedByIds t) {t' : SnapshotTable} {row : Snapshot}
    (ha : t.acquire? = some (row, t')) :
    KeyedByIds t' ∧ ∀ id, (t'.row? id).isSome = (t.row? id).isSome := by
  obtain ⟨s, hs, -, rfl, rfl⟩ := acquire?_eq_some_iff.1 ha
  refine ⟨ht.insert rfl, fun id => ?_⟩
  obtain ⟨p, hp, rfl⟩ := List.mem_map.1 (List.mem_of_find?_eq_some hs)
  have hrow : (t.row? p.2.id).isSome = true := by
    rw [ht p hp]
    exact OrderedMap.isSome_get?_of_mem hp
  rw [row?_insert]
  split
  · next hid => rw [hid, hrow, Option.isSome_some]
  · rfl

theorem Keyed.acquire (ht : Keyed t) {t' : SnapshotTable} {row : Snapshot}
    (ha : t.acquire? = some (row, t')) : Keyed t' := by
  refine ⟨?_, (ht.own.acquire ha).1⟩
  obtain ⟨s, -, -, -, rfl⟩ := acquire?_eq_some_iff.1 ha
  exact OrderedMap.nodup_keys_insert ht.nodup

/-- **A reference that is acquired and given back leaves the table as it
was**, row by row and in the same order, if the row was referred to. -/
theorem Keyed.release_acquire (ht : Keyed t) {t' : SnapshotTable} {row : Snapshot}
    (hpos : ∀ s ∈ OrderedMap.values t, 0 < s.refcount) (ha : t.acquire? = some (row, t')) :
    ∃ s, t.current? = some s ∧ row.id = s.id ∧ t'.release row.id = (.kept s, t) := by
  obtain ⟨s, hs, -, rfl, rfl⟩ := acquire?_eq_some_iff.1 ha
  have hmem : s ∈ OrderedMap.values t := List.mem_of_find?_eq_some hs
  have hrow : t.row? s.id = some s := ht.mem_values.1 hmem
  obtain ⟨n, hn⟩ : ∃ n, s.refcount = n + 1 := ⟨s.refcount - 1, by have := hpos s hmem; omega⟩
  refine ⟨s, hs, rfl, ?_⟩
  have hsame : ({ s with refcount := n + 1 } : Snapshot) = s := by rw [← hn]
  rw [hn, SnapshotTable.release, row?, OrderedMap.get?_insert_self]
  dsimp only
  rw [hsame, OrderedMap.insert_insert_self, OrderedMap.insert_of_get? hrow]

/-! ## Promoting -/

/-- There is room for the reference that a snapshot gets when it is made
current: it is current already, or one more can be counted. -/
def HasRoomFor (t : SnapshotTable) (id : SnapshotId) : Prop :=
  t.isCurrent id = true ∨ t.refcount id < mostReferences

/-- A snapshot that has no row has room. -/
theorem hasRoomFor_of_row?_none (h : t.row? id = none) : t.HasRoomFor id :=
  Or.inr (by rw [refcount_of_row?_none h]; decide)

/-- The row that a snapshot is promoted from. -/
def promotedFrom (t : SnapshotTable) (id : SnapshotId) : Snapshot :=
  (t.row? id).getD (Snapshot.fresh id)

theorem promotedFrom_spec (t : SnapshotTable) (id : SnapshotId) :
    (t.promotedFrom id).refcount = t.refcount id ∧
      (t.promotedFrom id).current = t.isCurrent id := by
  rw [promotedFrom]
  cases h : t.row? id with
  | none => exact ⟨(refcount_of_row?_none h).symm, (isCurrent_of_row?_none h).symm⟩
  | some s => exact ⟨(refcount_of_row? h).symm, (isCurrent_of_row? h).symm⟩

/-- The row of a snapshot after its promotion: current, with one reference
more unless it was that before. -/
def promotedRow (t : SnapshotTable) (id : SnapshotId) : Snapshot :=
  { t.promotedFrom id with
    refcount := t.refcount id + if t.isCurrent id then 0 else 1
    current := true }

/-- A snapshot that has no row has one reference when it is made current. -/
theorem promotedRow_of_row?_none (h : t.row? id = none) : t.promotedRow id = ⟨id, 1, true⟩ := by
  rw [promotedRow, promotedFrom, h, refcount_of_row?_none h, isCurrent_of_row?_none h]
  rfl

/-- **Everything that a promotion can do**: if there is room, the promoted
snapshot has its new row and the others are no longer current; if there is
none, all of them are no longer current. -/
theorem promote_cases (t : SnapshotTable) (id : SnapshotId) :
    (t.HasRoomFor id ∧ t.promote id = (some (t.promotedRow id),
      OrderedMap.insert (OrderedMap.mapValues (demoted id) t) id (t.promotedRow id))) ∨
    ¬ t.HasRoomFor id ∧ t.promote id = (none, OrderedMap.mapValues (demoted id) t) := by
  obtain ⟨hcount, hcur⟩ := t.promotedFrom_spec id
  have hpromote : t.promote id =
      match promoted? (t.promotedFrom id) with
      | none => (none, OrderedMap.mapValues (demoted id) t)
      | some s => (some s, OrderedMap.insert (OrderedMap.mapValues (demoted id) t) id s) := rfl
  rw [hpromote, promoted?, hcur, HasRoomFor, promotedRow]
  cases hc : t.isCurrent id with
  | true =>
    rw [hc] at hcur
    refine Or.inl ⟨Or.inl rfl, ?_⟩
    simp only [if_true, Nat.add_zero, ← hcount, ← hcur]
  | false =>
    simp only [Bool.false_eq_true, if_false, false_or, hcount]
    by_cases hlt : t.refcount id < mostReferences
    · refine Or.inl ⟨hlt, ?_⟩
      rw [countUp?_of_lt hlt, Option.map_some]
    · refine Or.inr ⟨hlt, ?_⟩
      rw [countUp?_eq_none.2 (Nat.not_lt.1 hlt), Option.map_none]

/-- **Where there is room**, a promotion gives the promoted snapshot its new
row and changes the flags of the others. -/
theorem promote_of_room (h : t.HasRoomFor id) :
    t.promote id = (some (t.promotedRow id),
      OrderedMap.insert (OrderedMap.mapValues (demoted id) t) id (t.promotedRow id)) := by
  rcases t.promote_cases id with ⟨-, hp⟩ | ⟨hno, -⟩
  · exact hp
  · exact absurd h hno

/-- **Where there is none**, it ends after the flags were changed. -/
theorem promote_of_no_room (h : ¬ t.HasRoomFor id) :
    t.promote id = (none, OrderedMap.mapValues (demoted id) t) := by
  rcases t.promote_cases id with ⟨hroom, -⟩ | ⟨-, hp⟩
  · exact absurd hroom h
  · exact hp

/-- A row that is demoted. -/
theorem row?_demoted (ht : KeyedByIds t) (id id' : SnapshotId) :
    SnapshotTable.row? (OrderedMap.mapValues (demoted id) t) id' =
      (t.row? id').map fun s => if id' = id then s else { s with current := false } := by
  rw [row?, OrderedMap.get?_mapValues]
  cases hr : t.row? id' with
  | none => rw [show OrderedMap.get? t id' = none from hr, Option.map_none, Option.map_none]
  | some s =>
    rw [show OrderedMap.get? t id' = some s from hr, Option.map_some, Option.map_some, demoted,
      ht.id_of_row? hr]

/-- **The rows after a promotion**: the promoted one has its new row, if
there is room for it, and the others are no longer current. -/
theorem KeyedByIds.row?_promote (ht : KeyedByIds t) (id id' : SnapshotId) :
    (t.promote id).2.row? id' =
      if id' = id then (t.promote id).1.or (t.row? id)
      else (t.row? id').map fun s => { s with current := false } := by
  rcases t.promote_cases id with ⟨-, hp⟩ | ⟨-, hp⟩
  · rw [hp, row?_insert, row?_demoted ht]
    split <;> rfl
  · rw [hp, row?_demoted ht]
    split
    · next he => rw [he]; cases t.row? id <;> rfl
    · rfl

/-- A promotion brings no row about but the promoted one. -/
theorem row?_promote_of_none (h : t.row? id' = none) (hne : id' ≠ id) :
    (t.promote id).2.row? id' = none := by
  have hold : SnapshotTable.row? (OrderedMap.mapValues (demoted id) t) id' = none := by
    rw [row?] at h ⊢
    rw [OrderedMap.get?_mapValues, h, Option.map_none]
  rcases t.promote_cases id with ⟨-, hp⟩ | ⟨-, hp⟩
  · rw [hp, row?_insert, if_neg hne, hold]
  · rw [hp, hold]

/-- The promoted snapshot is current, if there was room. -/
theorem isCurrent_promote_self (h : t.HasRoomFor id) : (t.promote id).2.isCurrent id = true := by
  rw [promote_of_room h, isCurrent_of_row? ((row?_insert _ id id _).trans (if_pos rfl))]
  rfl

theorem ne_of_mem_others (h : id' ∈ t.others id) : id' ≠ id := by
  obtain ⟨s, hs, rfl⟩ := List.mem_map.1 h
  simpa using (Bool.and_eq_true_iff.1 (List.mem_filter.1 hs).2).2

/-- **A promotion adds one reference** to the promoted snapshot unless it
was current, and changes no other count. -/
theorem KeyedByIds.refcount_promote (ht : KeyedByIds t) (hroom : t.HasRoomFor id) :
    (t.promote id).2.refcount id' =
      t.refcount id' + if id' = id ∧ t.isCurrent id = false then 1 else 0 := by
  rw [refcount, ht.row?_promote, promote_of_room hroom]
  by_cases he : id' = id
  · subst he
    rw [if_pos rfl]
    cases hc : t.isCurrent id' <;> simp [promotedRow, hc]
  · rw [if_neg he, if_neg fun h => he h.1]
    cases hr : t.row? id' with
    | none => simp [refcount_of_row?_none hr]
    | some s => simp [refcount_of_row? hr]

/-- **No snapshot but the promoted one is current** after a promotion, and
that one is if there was room. -/
theorem KeyedByIds.isCurrent_promote (ht : KeyedByIds t) (id id' : SnapshotId) :
    (t.promote id).2.isCurrent id' = true ↔ id' = id ∧ t.HasRoomFor id := by
  by_cases he : id' = id
  · subst he
    refine ⟨fun h => ⟨rfl, ?_⟩, fun h => isCurrent_promote_self h.2⟩
    rcases Classical.em (t.HasRoomFor id') with hroom | hno
    · exact hroom
    · rw [promote_of_no_room hno, isCurrent, row?_demoted ht] at h
      refine Or.inl ?_
      rw [isCurrent]
      cases hr : t.row? id' with
      | none => simp [hr] at h
      | some s => simpa [hr, ht.id_of_row? hr] using h
  · refine iff_of_false ?_ fun h => he h.1
    rw [isCurrent, ht.row?_promote, if_neg he]
    cases t.row? id' <;> simp

/-- The rows of a table that was promoted in. -/
theorem mem_promote {p : SnapshotId × Snapshot} (h : p ∈ (t.promote id).2) :
    p = (id, t.promotedRow id) ∨ ∃ q ∈ t, p = (q.1, demoted id q.2) := by
  have hold : p ∈ OrderedMap.mapValues (demoted id) t → ∃ q ∈ t, p = (q.1, demoted id q.2) :=
    fun hp => by
      obtain ⟨q, hq, rfl⟩ := List.mem_map.1 hp
      exact ⟨q, hq, rfl⟩
  rcases t.promote_cases id with ⟨-, hp⟩ | ⟨-, hp⟩
  · rw [hp] at h
    exact (OrderedMap.mem_insert h).imp_right hold
  · rw [hp] at h
    exact Or.inr (hold h)

theorem KeyedByIds.promote (ht : KeyedByIds t) (id : SnapshotId) :
    KeyedByIds (t.promote id).2 := by
  intro p hp
  rcases mem_promote hp with rfl | ⟨q, hq, rfl⟩
  · change (t.promotedFrom id).id = id
    rw [promotedFrom]
    cases hr : t.row? id with
    | none => rfl
    | some s => exact ht.id_of_row? hr
  · simp only [demoted]
    split <;> exact ht q hq

theorem Keyed.promote (ht : Keyed t) (id : SnapshotId) : Keyed (t.promote id).2 := by
  have hrest : (OrderedMap.keys (OrderedMap.mapValues (demoted id) t)).Nodup :=
    (OrderedMap.keys_mapValues _ t).symm ▸ ht.nodup
  refine ⟨?_, ht.own.promote id⟩
  rcases t.promote_cases id with ⟨-, hp⟩ | ⟨-, hp⟩
  · exact hp ▸ OrderedMap.nodup_keys_insert hrest
  · exact hp ▸ hrest

/-- **A promotion keeps a table sound**, with room or without. -/
theorem Sound.promote (ht : Sound t) (id : SnapshotId) : Sound (t.promote id).2 := by
  have hkeyed : Keyed (t.promote id).2 := ht.keyed.promote id
  have hrow : ∀ p ∈ (t.promote id).2, (t.promote id).2.row? p.1 = some p.2 :=
    fun p hp => hkeyed.row?_eq_some.2 hp
  refine ⟨hkeyed.nodup, hkeyed.own, fun p hp => ?_, fun p hp q hq hpc hqc => ?_⟩
  · rcases mem_promote hp with rfl | ⟨q, hq, rfl⟩
    · cases hc : t.isCurrent id with
      | true =>
        have := ht.pos_of_isCurrent hc
        simpa [promotedRow, hc] using this
      | false => simp [promotedRow, hc]
    · have := ht.pos q hq
      simp only [demoted]
      split <;> exact this
  · have key : ∀ p ∈ (t.promote id).2, p.2.current = true → p.1 = id := by
      intro p hp hc
      rw [← isCurrent_of_row? (hrow p hp), ht.keyed.own.isCurrent_promote] at hc
      exact hc.1
    rw [key p hp hpc, key q hq hqc]

/-! ## Those that were current -/

theorem Keyed.mem_others (ht : Keyed t) :
    id' ∈ t.others id ↔ t.isCurrent id' = true ∧ id' ≠ id := by
  simp only [others, List.mem_map, List.mem_filter, Bool.and_eq_true, decide_eq_true_eq]
  constructor
  · rintro ⟨s, ⟨hs, hc, hne⟩, rfl⟩
    exact ⟨(isCurrent_of_row? (ht.mem_values.1 hs)).trans hc, hne⟩
  · rintro ⟨hc, hne⟩
    obtain ⟨s, hs, hcur⟩ := (Option.any_eq_true _ _).1 hc
    have hid := ht.own.id_of_row? hs
    exact ⟨s, ⟨ht.mem_values.2 (hid ▸ hs), hcur, hid ▸ hne⟩, hid⟩

/-- None of them is listed twice. -/
theorem Keyed.nodup_others (ht : Keyed t) (id : SnapshotId) : (t.others id).Nodup :=
  (List.filter_sublist.map _).nodup (ht.ids_eq_keys ▸ ht.nodup)

/-- **A reference is owed for each snapshot that was current**, once. -/
theorem Sound.count_others (ht : Sound t) (id id' : SnapshotId) :
    (t.others id).count id' = if t.isCurrent id' = true ∧ id' ≠ id then 1 else 0 := by
  rw [(ht.keyed.nodup_others id).count]
  simp only [ht.keyed.mem_others]

end SnapshotTable

end ApiGateway
