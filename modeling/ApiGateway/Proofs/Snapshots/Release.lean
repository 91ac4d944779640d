import ApiGateway.Proofs.Records.Belonging
import ApiGateway.Proofs.Snapshots.Rows
import ApiGateway.Store.Basic
import Mathlib.Logic.Basic
/-!
# Snapshots — a reference given back, and what an installation leaves

Giving a reference back takes it from the row in the table; with the last
one go the records and the directory (`release_snd`). An installation
promotes a snapshot and, if there was room for it, gives back the
references of the others that were current (`install_cases`). So what both
of these leave alone it leaves alone (`install_of_step`), and the installed
snapshot is current in the end (`isCurrent_install`).

As each of the others gets its reference back once, an installation is
told row by row (`row?_install_eq`): what was current is superseded, and
the rest stays. Records go with the rows that had one reference only
(`only_install_eq`). One that is cut off only takes the flags away
(`row?_install_of_no_room`).
-/

namespace ApiGateway

namespace Store

/-! ## A reference given back -/

/-- **What a reference given back does to the store**: its row in the
table, and everything that belongs to the snapshot if it was the last. -/
theorem release_snd (s : Store) (id : SnapshotId) :
    (s.release id).2 =
      if s.snapshots.refcount id = 1 then (s.dropRow id).2.purge id else (s.dropRow id).2 := by
  rcases SnapshotTable.release_cases s.snapshots id with
    ⟨hr, h⟩ | ⟨r, hr, hn, h⟩ | ⟨r, hr, hn, h⟩ | ⟨r, n, hr, hn, h⟩
  · simp [release, dropRow, h, SnapshotTable.refcount_of_row?_none hr]
  · simp [release, dropRow, h, SnapshotTable.refcount_of_row? hr, hn]
  · simp [release, dropRow, h, SnapshotTable.refcount_of_row? hr, hn]
  · simp [release, dropRow, h, SnapshotTable.refcount_of_row? hr, hn]

theorem snapshots_release (s : Store) (id : SnapshotId) :
    (s.release id).2.snapshots = (s.snapshots.release id).2 := by
  rw [release_snd]
  split <;> rfl

/-- **The records go with the last reference.** -/
theorem records_release (s : Store) (id : SnapshotId) :
    (s.release id).2.records =
      if s.snapshots.refcount id = 1 then s.records.purge id else s.records := by
  rw [release_snd]
  split <;> rfl

/-- **So does the directory.** -/
theorem files_release (s : Store) (id : SnapshotId) :
    (s.release id).2.files =
      if s.snapshots.refcount id = 1 then (s.files.removeDirectory (directoryOf id)).2
      else s.files := by
  rw [release_snd]
  split <;> rfl

theorem queue_release (s : Store) (id : SnapshotId) : (s.release id).2.queue = s.queue := by
  rw [release_snd]
  split <;> rfl

/-! ## An installation -/

/-- The references of some snapshots given back, one after the other. -/
def releaseAll (s : Store) (ids : List SnapshotId) : Store :=
  ids.foldl (fun s id => (s.release id).2) s

/-- **Everything that an installation can do**: if there is room, both of
its halves; if there is none, the flags change and that is all. -/
theorem install_cases (s : Store) (id : SnapshotId) :
    (s.snapshots.HasRoomFor id ∧ s.install id = (some (s.snapshots.promotedRow id),
      (s.promote id).2.releaseAll (s.snapshots.others id))) ∨
    ¬ s.snapshots.HasRoomFor id ∧ s.install id = (none, (s.promote id).2) := by
  rcases s.snapshots.promote_cases id with ⟨hroom, hp⟩ | ⟨hno, hp⟩
  · exact Or.inl ⟨hroom, by rw [install, promote, hp]; rfl⟩
  · exact Or.inr ⟨hno, by rw [install, promote, hp]⟩

theorem install_of_room {s : Store} {id : SnapshotId} (h : s.snapshots.HasRoomFor id) :
    s.install id = (some (s.snapshots.promotedRow id),
      (s.promote id).2.releaseAll (s.snapshots.others id)) := by
  rcases s.install_cases id with ⟨-, hi⟩ | ⟨hno, -⟩
  · exact hi
  · exact absurd h hno

theorem install_of_no_room {s : Store} {id : SnapshotId} (h : ¬ s.snapshots.HasRoomFor id) :
    s.install id = (none, (s.promote id).2) := by
  rcases s.install_cases id with ⟨hroom, -⟩ | ⟨-, hi⟩
  · exact absurd hroom h
  · exact hi

/-- **What a promotion brings about and the references given back leave
alone, an installation brings about.** -/
theorem install_of_step {P : Store → Prop} (s : Store) (id : SnapshotId)
    (hpromote : P (s.promote id).2) (hrelease : ∀ s x, x ≠ id → P s → P (s.release x).2) :
    P (s.install id).2 := by
  have hall : ∀ (xs : List SnapshotId) (s : Store), (∀ x ∈ xs, x ≠ id) → P s →
      P (xs.foldl (fun s' other => (s'.release other).2) s) := by
    intro xs
    induction xs with
    | nil => exact fun _ _ h => h
    | cons x xs ih =>
      intro s hxs h
      exact ih (s.release x).2 (fun y hy => hxs y (List.mem_cons_of_mem _ hy))
        (hrelease s x (hxs x List.mem_cons_self) h)
  rcases s.install_cases id with ⟨-, hi⟩ | ⟨-, hi⟩
  · rw [hi]
    exact hall _ _ (fun _ hx => SnapshotTable.ne_of_mem_others hx) hpromote
  · rwa [hi]

/-- The snapshot that is installed is current. -/
theorem isCurrent_install {s : Store} {id : SnapshotId} (h : s.snapshots.HasRoomFor id) :
    (s.install id).2.snapshots.isCurrent id = true := by
  refine install_of_step (P := fun s => s.snapshots.isCurrent id = true) s id
    (SnapshotTable.isCurrent_promote_self h) ?_
  intro s x hx h
  rw [snapshots_release, SnapshotTable.isCurrent, SnapshotTable.row?_release_of_ne hx.symm]
  exact h

theorem row?_install {s : Store} {id : SnapshotId} (h : s.snapshots.HasRoomFor id) :
    ((s.install id).2.snapshots.row? id).isSome = true := by
  obtain ⟨row, hrow, -⟩ := (Option.any_eq_true _ _).1 (isCurrent_install h)
  rw [hrow, Option.isSome_some]

theorem queue_install (s : Store) (id : SnapshotId) : (s.install id).2.queue = s.queue :=
  install_of_step (P := fun s' => s'.queue = s.queue) s id rfl
    fun s' x _ h => (s'.queue_release x).trans h

theorem keyedByIds_install {s : Store} (h : s.snapshots.KeyedByIds) (id : SnapshotId) :
    (s.install id).2.snapshots.KeyedByIds := by
  refine install_of_step (P := fun s => s.snapshots.KeyedByIds) s id (h.promote id) ?_
  intro s x _ hs
  rw [snapshots_release]
  exact hs.release x


/-- An installation leaves the records of the installed snapshot alone: what
it deletes is other snapshots. -/
theorem only_install (s : Store) (id : SnapshotId) :
    (s.install id).2.records.only id = s.records.only id := by
  refine install_of_step (P := fun s' => s'.records.only id = s.records.only id) s id rfl ?_
  intro s' x hx hs
  rw [records_release]
  split
  · rw [Records.only_purge_of_ne _ hx.symm, hs]
  · exact hs

/-! ## An installation, row by row -/

/-- **References given back to different snapshots**: each of them has one
reference less, and the other rows stay as they are. -/
theorem row?_releaseAll {ids : List SnapshotId} (hnodup : ids.Nodup) (s : Store) (x : SnapshotId) :
    (s.releaseAll ids).snapshots.row? x =
      if x ∈ ids then (s.snapshots.row? x).bind SnapshotTable.givenBack
      else s.snapshots.row? x := by
  induction ids generalizing s with
  | nil => rfl
  | cons id ids ih =>
    obtain ⟨hid, hnodup⟩ := List.nodup_cons.1 hnodup
    have hrest := ih hnodup (s.release id).2
    rw [snapshots_release] at hrest
    rw [releaseAll, List.foldl_cons, ← releaseAll, hrest]
    by_cases hx : x = id
    · subst hx
      rw [if_neg hid, if_pos List.mem_cons_self, SnapshotTable.row?_release_self]
    · rw [SnapshotTable.row?_release_of_ne hx]
      exact if_congr ⟨List.mem_cons_of_mem id, fun h => (List.mem_cons.1 h).resolve_left hx⟩ rfl rfl

/-- **The records go** of those of which it was the last one, and no
others. -/
theorem only_releaseAll {ids : List SnapshotId} (hnodup : ids.Nodup) (s : Store) (x : SnapshotId) :
    (s.releaseAll ids).records.only x =
      if x ∈ ids ∧ s.snapshots.refcount x = 1 then .empty else s.records.only x := by
  induction ids generalizing s with
  | nil => rw [if_neg fun h => List.not_mem_nil h.1]; rfl
  | cons id ids ih =>
    obtain ⟨hid, hnodup⟩ := List.nodup_cons.1 hnodup
    have hrest := ih hnodup (s.release id).2
    rw [snapshots_release, SnapshotTable.refcount_release, records_release] at hrest
    rw [releaseAll, List.foldl_cons, ← releaseAll, hrest]
    by_cases hx : x = id
    · subst hx
      rw [if_neg fun h => hid h.1]
      by_cases hlast : s.snapshots.refcount x = 1
      · rw [if_pos hlast, if_pos ⟨List.mem_cons_self, hlast⟩, Records.only_purge_self]
      · rw [if_neg hlast, if_neg fun h => hlast h.2]
    · have hothers :
          (if s.snapshots.refcount id = 1 then s.records.purge id else s.records).only x =
            s.records.only x := by
        split
        · exact Records.only_purge_of_ne _ hx
        · rfl
      rw [if_neg hx, hothers]
      refine if_congr (and_congr_left' ?_) rfl rfl
      exact ⟨List.mem_cons_of_mem id, fun h => (List.mem_cons.1 h).resolve_left hx⟩

/-- What is left of the row of a snapshot when another one is installed: if
it was current, it is so no longer and has one reference less. -/
def superseded (row : Snapshot) : Option Snapshot :=
  if row.current then SnapshotTable.givenBack { row with current := false } else some row

variable {s : Store}

/-- **The rows after an installation.** -/
theorem row?_install_eq (ht : s.snapshots.Keyed) {id : SnapshotId}
    (hroom : s.snapshots.HasRoomFor id) (x : SnapshotId) :
    (s.install id).2.snapshots.row? x =
      if x = id then some (s.snapshots.promotedRow id)
      else (s.snapshots.row? x).bind superseded := by
  have hpromote : (s.promote id).2.snapshots = (s.snapshots.promote id).2 := rfl
  rw [install_of_room hroom, row?_releaseAll (ht.nodup_others id), hpromote, ht.own.row?_promote,
    SnapshotTable.promote_of_room hroom]
  simp only [ht.mem_others]
  by_cases hx : x = id
  · rw [if_neg fun h => h.2 hx, if_pos hx, if_pos hx, Option.some_or]
  · rw [if_neg hx, if_neg hx]
    cases hr : s.snapshots.row? x with
    | none => simp
    | some row =>
      rw [SnapshotTable.isCurrent_of_row? hr, Option.map_some, Option.bind_some, Option.bind_some,
        superseded]
      by_cases hc : row.current = true
      · rw [if_pos ⟨hc, hx⟩, if_pos hc]
      · have hsame : { row with current := false } = row := by
          rw [← Bool.eq_false_iff.2 hc]
        rw [if_neg fun h => hc h.1, if_neg hc, hsame]

/-- What is superseded is not current. -/
theorem current_of_superseded {row row' : Snapshot} (h : superseded row = some row') :
    row'.current = false := by
  rw [superseded] at h
  split at h
  · rw [SnapshotTable.givenBack] at h
    split at h
    · rw [← Option.some.inj h]
    · cases h
    · rw [← Option.some.inj h]
  · next hcurrent =>
    rw [← Option.some.inj h]
    exact Bool.eq_false_iff.2 hcurrent

/-- **The installed snapshot and no other is current.** -/
theorem isCurrent_install_eq (ht : s.snapshots.Keyed) {id : SnapshotId}
    (hroom : s.snapshots.HasRoomFor id) (x : SnapshotId) :
    (s.install id).2.snapshots.isCurrent x = decide (x = id) := by
  by_cases hx : x = id
  · rw [hx, isCurrent_install hroom, decide_eq_true rfl]
  · rw [decide_eq_false hx, SnapshotTable.isCurrent, row?_install_eq ht hroom, if_neg hx]
    cases hr : (s.snapshots.row? x).bind superseded with
    | none => rfl
    | some row' =>
      obtain ⟨row, -, hsup⟩ := Option.bind_eq_some_iff.1 hr
      rw [Option.any_some, current_of_superseded hsup]

/-- **The records after an installation**: those of a snapshot are gone that
was current and had no other reference. -/
theorem only_install_eq (ht : s.snapshots.Keyed) {id : SnapshotId}
    (hroom : s.snapshots.HasRoomFor id) (x : SnapshotId) :
    (s.install id).2.records.only x =
      if x ≠ id ∧ s.snapshots.isCurrent x = true ∧ s.snapshots.refcount x = 1 then .empty
      else s.records.only x := by
  have hpromote : (s.promote id).2.snapshots = (s.snapshots.promote id).2 := rfl
  have hrecords : (s.promote id).2.records = s.records := rfl
  rw [install_of_room hroom, only_releaseAll (ht.nodup_others id), hrecords, hpromote]
  simp only [ht.mem_others]
  by_cases hx : x = id
  · rw [if_neg fun h => h.1.2 hx, if_neg fun h => h.1 hx]
  · have hcount : (s.snapshots.promote id).2.refcount x = s.snapshots.refcount x := by
      rw [SnapshotTable.refcount, ht.own.row?_promote, if_neg hx, SnapshotTable.refcount]
      cases s.snapshots.row? x <;> rfl
    rw [hcount]
    exact if_congr ⟨fun h => ⟨hx, h.1.1, h.2⟩, fun h => ⟨⟨h.2.1, hx⟩, h.2.2⟩⟩ rfl rfl

/-- **The rows after an installation that is cut off**: none of them is
current, and no reference that one had for being so is given back. -/
theorem row?_install_of_no_room (ht : s.snapshots.Keyed) {id : SnapshotId}
    (hno : ¬ s.snapshots.HasRoomFor id) (x : SnapshotId) :
    (s.install id).2.snapshots.row? x =
      (s.snapshots.row? x).map fun row => { row with current := false } := by
  have hpromote : (s.promote id).2.snapshots = (s.snapshots.promote id).2 := rfl
  rw [install_of_no_room hno, hpromote, SnapshotTable.promote_of_no_room hno,
    SnapshotTable.row?_demoted ht.own]
  by_cases hx : x = id
  · subst hx
    cases hr : s.snapshots.row? x with
    | none => rfl
    | some row =>
      -- the snapshot has no room, so it was not current before
      have hcur : row.current = false := by
        rw [← SnapshotTable.isCurrent_of_row? hr]
        exact Bool.eq_false_iff.2 fun hc => hno (Or.inl hc)
      rw [Option.map_some, Option.map_some, if_pos rfl, ← hcur]
  · simp only [if_neg hx]

/-- A keyed table stays keyed. -/
theorem keyed_install (ht : s.snapshots.Keyed) (id : SnapshotId) :
    (s.install id).2.snapshots.Keyed := by
  refine install_of_step (P := fun s => s.snapshots.Keyed) s id (ht.promote id) ?_
  intro s x _ hs
  rw [snapshots_release]
  exact hs.release x

end Store

end ApiGateway
