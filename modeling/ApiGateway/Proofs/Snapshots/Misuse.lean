import ApiGateway.Proofs.Snapshots.Release
import Mathlib.Data.List.Induction
/-!
# Snapshots — whoever calls, and however often

Anybody may install any snapshot, acquire the current one and give back
references that were never taken, in any order (`Store.Turn`). The table
stays sound for all of that (`sound_turns`), also when a turn is cut off
because a reference cannot be counted.

What giving a reference back does is told exactly (`releasesExactly`), and so is
an installation (`installs`): these need no history. A table may also have
been registered, with several rows current or none referred to. Registering
makes all keyed tables and no others (`keyed_iff_ofRows`), and in every one
of them an installation leaves one snapshot current and moves the counts by
one each. Only the reference that it adds may not be countable: where the
snapshot is not current and has as many as there can be, the installation
is cut off and moves no count (`cutOff_install`).
-/

namespace ApiGateway

namespace SnapshotTable

variable {t : SnapshotTable}

/-! ## Tables that were registered -/

/-- The table of rows that are registered one after the other. -/
def ofRows (rows : List Snapshot) : SnapshotTable := rows.foldl register []

theorem Keyed.register (ht : Keyed t) (row : Snapshot) : Keyed (t.register row) := ht.insert rfl

theorem keyed_ofRows (rows : List Snapshot) : Keyed (ofRows rows) := by
  have hall : ∀ (rows : List Snapshot) (t : SnapshotTable), Keyed t →
      Keyed (rows.foldl SnapshotTable.register t) := by
    intro rows
    induction rows with
    | nil => exact fun _ ht => ht
    | cons row rows ih => exact fun t ht => ih _ (ht.register row)
  exact hall rows [] sound_nil.keyed

/-- Registering the rows of a keyed table again makes the table. -/
theorem Keyed.ofRows_values (ht : Keyed t) : ofRows (OrderedMap.values t) = t := by
  induction t using List.reverseRecOn with
  | nil => rfl
  | append_singleton t p ih =>
    have hkeys : OrderedMap.keys (t ++ [p]) = OrderedMap.keys t ++ [p.1] := List.map_append
    obtain ⟨hnodup, -, hp⟩ := List.nodup_append.1 (hkeys ▸ ht.nodup)
    have hkeyed : Keyed t := ⟨hnodup, fun q hq => ht.own q (List.mem_append_left _ hq)⟩
    have hid : p.2.id = p.1 := ht.own p (List.mem_append_right _ List.mem_cons_self)
    have hnew : p.1 ∉ OrderedMap.keys t := fun h => hp _ h _ List.mem_cons_self rfl
    have hrows : ofRows (OrderedMap.values (t ++ [p])) =
        (ofRows (OrderedMap.values t)).register p.2 := by
      rw [ofRows, OrderedMap.values, List.map_append, List.foldl_append]
      rfl
    rw [hrows, ih hkeyed, SnapshotTable.register, hid, OrderedMap.insert_of_not_mem p.2 hnew]

/-- **The keyed tables are those that registering can produce.** -/
theorem keyed_iff_ofRows : Keyed t ↔ ∃ rows, t = ofRows rows :=
  ⟨fun ht => ⟨_, ht.ofRows_values.symm⟩, fun ⟨rows, h⟩ => h ▸ keyed_ofRows rows⟩

end SnapshotTable

namespace Store

variable {s : Store}

/-! ## A reference given back, exactly -/

/-- **What is deleted with a snapshot**: its row, its records of every kind
and its directory, which may fail without keeping the rest. The other rows
and what belongs to other snapshots stay. -/
structure Deletes (id : SnapshotId) (s s' : Store) : Prop where
  row : s'.snapshots.row? id = none
  records : s'.records.only id = .empty
  directory : s'.files = (s.files.removeDirectory (directoryOf id)).2
  otherRow : ∀ x, x ≠ id → s'.snapshots.row? x = s.snapshots.row? x
  otherRecords : ∀ x, x ≠ id → s'.records.only x = s.records.only x

/-- **What giving a reference back does**, told by the row that the snapshot
has. -/
structure ReleasesExactly (s : Store) (id : SnapshotId) : Prop where
  gone : s.snapshots.row? id = none → s.release id = (.gone, s)
  unmatched : ∀ row, s.snapshots.row? id = some row → row.refcount = 0 →
    s.release id = (.unmatched row, s)
  lowered : ∀ row, s.snapshots.row? id = some row → 1 < row.refcount →
    s.release id =
      (.kept { row with refcount := row.refcount - 1 },
        { s with
          snapshots := OrderedMap.insert s.snapshots id { row with refcount := row.refcount - 1 } })
  deleted : ∀ row, s.snapshots.row? id = some row → row.refcount = 1 →
    (s.release id).1 = .deleted ∧ Deletes id s (s.release id).2

/-- The last reference given back deletes the snapshot. -/
theorem deletes_release {id : SnapshotId} (h : s.snapshots.refcount id = 1) :
    Deletes id s (s.release id).2 := by
  have hrecords : (s.release id).2.records = s.records.purge id := by
    rw [records_release, if_pos h]
  refine ⟨?_, ?_, ?_, fun x hx => ?_, fun x hx => ?_⟩
  · rw [snapshots_release, SnapshotTable.row?_release_of_last h]
  · rw [hrecords, Records.only_purge_self]
  · rw [files_release, if_pos h]
  · rw [snapshots_release, SnapshotTable.row?_release_of_ne hx]
  · rw [hrecords, Records.only_purge_of_ne _ hx]

theorem releasesExactly (s : Store) (id : SnapshotId) : s.ReleasesExactly id := by
  refine ⟨fun hr => ?_, fun row hr hn => ?_, fun row hr hn => ?_, fun row hr hn => ?_⟩
  · simp only [release, dropRow, SnapshotTable.release, hr]
  · simp only [release, dropRow, SnapshotTable.release, hr, hn]
  · obtain ⟨n, hn⟩ : ∃ n, row.refcount = n + 2 := ⟨row.refcount - 2, by omega⟩
    simp only [release, dropRow, SnapshotTable.release, hr, hn, Nat.add_one_sub_one]
  · have hcount : s.snapshots.refcount id = 1 :=
      (SnapshotTable.refcount_of_row? hr).trans hn
    refine ⟨?_, deletes_release hcount⟩
    simp only [release, dropRow, SnapshotTable.release, hr, hn]

/-! ## An installation, exactly -/

/-- **What an installation does.** It returns the new row. The installed
snapshot is the only current one and has one reference more if it was not
current before; every other that was current has one reference less, if it
had any, and is deleted with its last; and the rest stays. -/
structure InstallsExactly (s : Store) (id : SnapshotId) (r : Option Snapshot × Store) : Prop where
  returned : r.1.isSome = true ∧ r.1 = r.2.snapshots.row? id
  keyed : r.2.snapshots.Keyed
  current : ∀ x, r.2.snapshots.isCurrent x = decide (x = id)
  installed : r.2.snapshots.refcount id =
    s.snapshots.refcount id + if s.snapshots.isCurrent id then 0 else 1
  others : ∀ x, x ≠ id → r.2.snapshots.refcount x =
    s.snapshots.refcount x - if s.snapshots.isCurrent x then 1 else 0
  rows : ∀ x, x ≠ id → r.2.snapshots.row? x = (s.snapshots.row? x).bind superseded
  records : ∀ x, r.2.records.only x =
    if x ≠ id ∧ s.snapshots.isCurrent x = true ∧ s.snapshots.refcount x = 1 then .empty
    else s.records.only x

/-- **An installation that is cut off.** Nothing is returned and no snapshot
is current; no count has moved and no record has gone. -/
structure CutOff (s : Store) (r : Option Snapshot × Store) : Prop where
  returned : r.1 = none
  keyed : r.2.snapshots.Keyed
  rows : ∀ x, r.2.snapshots.row? x =
    (s.snapshots.row? x).map fun row => { row with current := false }
  records : r.2.records = s.records

/-- A row loses the reference of the installer if it was current. -/
theorem refcount_superseded (row : Snapshot) :
    ((superseded row).map Snapshot.refcount).getD 0 =
      row.refcount - if row.current then 1 else 0 := by
  rw [superseded]
  split
  · rw [SnapshotTable.givenBack]
    split
    · next h => simp [show row.refcount = 0 from h]
    · next h => simp [show row.refcount = 1 from h]
    · next n h => simp [show row.refcount = n + 2 from h]
  · rfl

theorem installs (ht : s.snapshots.Keyed) {id : SnapshotId} (hroom : s.snapshots.HasRoomFor id) :
    InstallsExactly s id (s.install id) := by
  have hrow := row?_install_eq ht hroom
  have hself : (s.install id).2.snapshots.row? id = some (s.snapshots.promotedRow id) :=
    (hrow id).trans (if_pos rfl)
  have hother : ∀ x, x ≠ id → (s.install id).2.snapshots.row? x =
      (s.snapshots.row? x).bind superseded := fun x hx => (hrow x).trans (if_neg hx)
  have hreturned : (s.install id).1 = some (s.snapshots.promotedRow id) := by
    rw [install_of_room hroom]
  refine ⟨⟨by rw [hreturned, Option.isSome_some], hreturned.trans hself.symm⟩, keyed_install ht id,
    isCurrent_install_eq ht hroom, ?_, fun x hx => ?_, hother, only_install_eq ht hroom⟩
  · rw [SnapshotTable.refcount_of_row? hself, SnapshotTable.promotedRow]
  · rw [SnapshotTable.refcount, hother x hx]
    cases hr : s.snapshots.row? x with
    | none => rw [SnapshotTable.refcount_of_row?_none hr]; simp
    | some row =>
      rw [SnapshotTable.refcount_of_row? hr, SnapshotTable.isCurrent_of_row? hr,
        ← refcount_superseded, Option.bind_some]
      cases superseded row <;> rfl

theorem cutOff_install (ht : s.snapshots.Keyed) {id : SnapshotId}
    (hno : ¬ s.snapshots.HasRoomFor id) : CutOff s (s.install id) := by
  refine ⟨?_, keyed_install ht id, row?_install_of_no_room ht hno, ?_⟩
  · rw [install_of_no_room hno]
  · rw [install_of_no_room hno]
    rfl

/-! ## Any turns -/

/-- What anybody may do at any time. -/
inductive Turn where
  | install (id : SnapshotId)
  /-- The current snapshot is acquired, if there is one. -/
  | acquire
  /-- A reference is given back, whether or not it was taken. -/
  | release (id : SnapshotId)
  deriving DecidableEq, Repr

/-- The store after a turn. -/
def turn (s : Store) : Turn → Store
  | .install id => (s.install id).2
  | .acquire =>
    match s.acquire? with
    | none => s
    | some (_, s') => s'
  | .release id => (s.release id).2

/-- The store after turns one after the other. -/
def turns (s : Store) (ts : List Turn) : Store := ts.foldl turn s

/-- The store with no snapshot in its table. -/
def unregistered (s : Store) : Store := { s with snapshots := [] }

/-- **Everything that a turn can do.** -/
theorem turn_cases (s : Store) (a : Turn) :
    (∃ id, a = .install id ∧ s.turn a = (s.install id).2) ∨
    (s.turn a = s) ∨
    (∃ row t, s.snapshots.acquire? = some (row, t) ∧ s.turn a = { s with snapshots := t }) ∨
    (∃ id, a = .release id ∧ s.turn a = (s.release id).2) := by
  cases a with
  | install id => exact Or.inl ⟨id, rfl, rfl⟩
  | release id => exact Or.inr (Or.inr (Or.inr ⟨id, rfl, rfl⟩))
  | acquire =>
    cases h : s.snapshots.acquire? with
    | none => exact Or.inr (Or.inl (by simp only [turn, acquire?, h, Option.map_none]))
    | some r =>
      exact Or.inr (Or.inr (Or.inl ⟨r.1, r.2, rfl, by
        simp only [turn, acquire?, h, Option.map_some]⟩))

/-- An installation keeps a table sound. -/
theorem sound_install (h : s.snapshots.Sound) (id : SnapshotId) :
    (s.install id).2.snapshots.Sound := by
  refine install_of_step (P := fun s => s.snapshots.Sound) s id (h.promote id) ?_
  intro s x _ hs
  rw [snapshots_release]
  exact hs.release x

/-- **A turn keeps a table sound**, also one that is cut off. -/
theorem sound_turn (h : s.snapshots.Sound) (a : Turn) : (s.turn a).snapshots.Sound := by
  rcases s.turn_cases a with ⟨id, -, ha⟩ | ha | ⟨row, t, hacq, ha⟩ | ⟨id, -, ha⟩
  · exact ha ▸ sound_install h id
  · rwa [ha]
  · exact ha ▸ (h.acquire hacq).2.1
  · rw [ha, snapshots_release]
    exact h.release id

theorem sound_turns (ts : List Turn) (h : s.snapshots.Sound) : (s.turns ts).snapshots.Sound := by
  induction ts generalizing s with
  | nil => exact h
  | cons a ts ih => exact ih (sound_turn h a)

/-- **A sane store**: at most one snapshot is current, all rows stand under
their own ids and are referred to, and references are given back exactly. -/
structure Sane (s : Store) : Prop where
  single : s.snapshots.currentRows.length ≤ 1
  row : ∀ id row, s.snapshots.row? id = some row → row.id = id ∧ 1 ≤ row.refcount
  keyed : s.snapshots.Keyed
  release : ∀ id, s.ReleasesExactly id

theorem sane_of_sound (h : s.snapshots.Sound) : s.Sane :=
  ⟨h.length_currentRows_le,
    fun _ _ hr => ⟨h.id_of_row? hr, h.pos _ (h.row?_eq_some.1 hr)⟩, h.keyed, s.releasesExactly⟩

/-- **The store stays sane whoever calls.** After any turns from an empty
table at most one snapshot is current, the rows stand under their own ids
and are referred to, and giving a reference back does what it is there for
and no more. An installation does what it says in every table there can
be in which the snapshot is current or can be given one reference more, and
is cut off in the others. -/
theorem sane_under_misuse (s : Store) :
    (∀ ts, (s.unregistered.turns ts).Sane) ∧
    (s.snapshots.Keyed → ∀ id,
      (s.snapshots.isCurrent id = true ∨ s.snapshots.refcount id < Nat.pow 2 32 - 1 →
        InstallsExactly s id (s.install id)) ∧
      (s.snapshots.isCurrent id = false → Nat.pow 2 32 - 1 ≤ s.snapshots.refcount id →
        CutOff s (s.install id))) := by
  refine ⟨fun ts => sane_of_sound (sound_turns ts SnapshotTable.sound_nil), fun ht id =>
    ⟨fun hroom => installs ht hroom, fun hnot hfull => cutOff_install ht ?_⟩⟩
  rintro (hcur | hlt)
  · rw [hnot] at hcur
    cases hcur
  · exact absurd hlt (Nat.not_lt.2 hfull)

/-- The current snapshot given up by somebody who gives back more than was
taken, while a lease on it is held and a file stands where its directory
should be; a table with two rows current, one of them not referred to, in
which a third is installed; and one in which that cannot be done. -/
theorem sane_after_surplus_release :
    let one : SnapshotId := ⟨1, by decide⟩
    let two : SnapshotId := ⟨2, by decide⟩
    let three : SnapshotId := ⟨3, by decide⟩
    let s : Store :=
      { (Store.empty.withRecords fun r => r.putOrganization one ⟨"o1", "acme"⟩) with
        snapshots :=
          SnapshotTable.ofRows [⟨one, 0, true⟩, ⟨two, 2, true⟩, ⟨three, Nat.pow 2 32 - 2, false⟩]
        files := [(directoryOf one, .file [])] }
    let full : Store :=
      { s with snapshots := s.snapshots.register ⟨three, Nat.pow 2 32 - 1, false⟩ }
    let before := s.unregistered.turns [.install one, .acquire, .release one]
    before.Sane ∧ before.snapshots.isCurrent one = true ∧
      (before.files.removeDirectory (directoryOf one)).1 = none ∧
      Deletes one before (before.release one).2 ∧
      s.snapshots.Keyed ∧ InstallsExactly s three (s.install three) ∧
      full.snapshots.Keyed ∧ CutOff full (full.install three) := by
  intro one two three s full before
  have hkeyed : s.snapshots.Keyed := SnapshotTable.keyed_iff_ofRows.2 ⟨_, rfl⟩
  have hfull : full.snapshots.Keyed := hkeyed.register ⟨three, Nat.pow 2 32 - 1, false⟩
  have hsane : before.Sane := (sane_under_misuse s).1 _
  have hrow : before.snapshots.row? one = some ⟨one, 1, true⟩ := by decide
  exact ⟨hsane, by decide, by decide, ((hsane.release one).deleted _ hrow rfl).2, hkeyed,
    ((sane_under_misuse s).2 hkeyed three).1 (Or.inr (by decide)), hfull,
    ((sane_under_misuse full).2 hfull three).2 (by decide) (by decide)⟩

/-- **A reference too many to be counted.** A snapshot that is not current
and has as many references as there can be does not get one more when it is
installed, and is not current afterwards. -/
theorem install_cut_off :
    ¬ ∀ (s : Store) (id : SnapshotId), s.snapshots.Keyed → s.snapshots.isCurrent id = false →
      (s.install id).2.snapshots.isCurrent id = true ∧
        (s.install id).2.snapshots.refcount id = s.snapshots.refcount id + 1 := by
  intro h
  let one : SnapshotId := ⟨1, by decide⟩
  let s : Store :=
    { Store.empty with snapshots := SnapshotTable.ofRows [⟨one, Nat.pow 2 32 - 1, false⟩] }
  have hkeyed : s.snapshots.Keyed := SnapshotTable.keyed_iff_ofRows.2 ⟨_, rfl⟩
  obtain ⟨hcurrent, -⟩ := h s one hkeyed (by decide)
  have hnot : (s.install one).2.snapshots.isCurrent one = false := by decide
  rw [hnot] at hcurrent
  cases hcurrent

end Store

end ApiGateway
