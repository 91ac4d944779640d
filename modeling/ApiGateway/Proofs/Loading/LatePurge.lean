import ApiGateway.Proofs.Loading.Filed
import ApiGateway.Proofs.Loading.Workers
import ApiGateway.Proofs.Snapshots.Release
/-!
# Loading — a snapshot that is loaded while it is deleted

A last reference is given back in two steps: the row leaves the table, and
after that the records are purged. Between the two the snapshot is not in
the table, so it may be loaded again, made current and leased, and the
purge is still to come. A `Reload` is one snapshot in that position, with
the workers of the index and with calls that take leases, and
`Reload.Move` says everything that a step can do.

What becomes of the records is said exactly (`Reload.purge_exact`). The
snapshot is in the table again when the purge comes if and only if the
load has made it current by then. The purge leaves nothing of it in any
case. From then on what the load has stored is what is there: all of it
if the load stores its first record after the purge
(`Reload.kept_by_later_load`), and nothing of what it stored before, lease
or no lease (`Reload.purged_under_lease`).
-/

namespace ApiGateway

/-! ## A snapshot that is deleted and loaded -/

/-- How far the reference is that is given back. -/
inductive Reload.Release where
  | due
  /-- It was the last one: the row is gone, and the purge is still to
  come. -/
  | purging
  | finished
  deriving DecidableEq

/-- How far the load is. -/
inductive Reload.Load where
  | due
  /-- The snapshot was not in the table, and its files are read. -/
  | reading
  /-- These records are left to store. -/
  | storing (rest : List FileRecord)
  /-- The snapshot has been made current. -/
  | installed
  /-- The snapshot was in the table, its files cannot be read, or the load
  was cut off. -/
  | refused

/-- A snapshot of which one reference is given back while it is loaded. -/
structure Reload where
  store : Store
  /-- The events that were taken, each with what is left to do for it. -/
  tasks : List (IndexEvent × Task)
  release : Reload.Release
  load : Reload.Load
  /-- The records that the load has stored so far. -/
  made : List FileRecord

namespace Reload

variable {id : SnapshotId} {y y' : Reload}

/-- What can happen. -/
inductive Act where
  /-- The reference is given back in the table. -/
  | giveBack
  /-- Everything that belongs to the snapshot is deleted, if the reference
  was the last one. -/
  | purge
  /-- The load looks whether the snapshot is in the table. -/
  | check
  /-- The load has read these files, or has failed to. -/
  | read (files : Option SnapshotFiles)
  /-- The load stores its next record. -/
  | put
  /-- The load makes the snapshot current, once everything is stored and
  the queue is idle. -/
  | install
  /-- A call takes a lease on the current snapshot. -/
  | acquire
  /-- A worker takes the oldest event. -/
  | take
  /-- One of the workers goes on. -/
  | work (worker pick : Nat)

/-- The reference is given back in the table. -/
def giveBack (id : SnapshotId) (y : Reload) : Reload :=
  match y.release with
  | .due =>
    let (released, s) := y.store.dropRow id
    { y with store := s, release := if released = .deleted then .purging else .finished }
  | _ => y

/-- The second half of giving the last reference back. -/
def purge (id : SnapshotId) (y : Reload) : Reload :=
  match y.release with
  | .purging => { y with store := y.store.purge id, release := .finished }
  | _ => y

/-- The load looks for the snapshot in the table. -/
def check (id : SnapshotId) (y : Reload) : Reload :=
  match y.load, y.store.snapshots.row? id with
  | .due, some _ => { y with load := .refused }
  | .due, none => { y with load := .reading }
  | _, _ => y

/-- The load has read the files, or has failed to. -/
def read (y : Reload) (files : Option SnapshotFiles) : Reload :=
  match y.load, files with
  | .reading, some f => { y with load := .storing f.records }
  | .reading, none => { y with load := .refused }
  | _, _ => y

/-- The load stores its next record. -/
def put (id : SnapshotId) (y : Reload) : Reload :=
  match y.load with
  | .storing (x :: rest) =>
    { y with store := y.store.put id x, load := .storing rest, made := y.made ++ [x] }
  | _ => y

/-- The load makes the snapshot current, unless that is cut off. -/
def install (id : SnapshotId) (y : Reload) : Reload :=
  match y.load with
  | .storing [] =>
    if y.store.queue.isIdle then
      match y.store.install id with
      | (none, s) => { y with store := s, load := .refused }
      | (some _, s) => { y with store := s, load := .installed }
    else y
  | _ => y

/-- A call takes a lease. -/
def acquire (y : Reload) : Reload :=
  match y.store.acquire? with
  | some (_, s) => { y with store := s }
  | none => y

/-- The same with the workers as they are here. -/
def withIndexing (y : Reload) (i : Indexing) : Reload :=
  { y with store := i.store, tasks := i.tasks }

/-- One step; what cannot be done changes nothing. -/
def step (id : SnapshotId) (y : Reload) : Act → Reload
  | .giveBack => y.giveBack id
  | .purge => y.purge id
  | .check => y.check id
  | .read files => y.read files
  | .put => y.put id
  | .install => y.install id
  | .acquire => y.acquire
  | .take => y.withIndexing (Indexing.take ⟨y.store, y.tasks⟩)
  | .work worker pick => y.withIndexing (Indexing.work ⟨y.store, y.tasks⟩ worker pick)

/-- The state after steps one after the other. -/
def run (id : SnapshotId) (y : Reload) (as : List Act) : Reload := as.foldl (step id) y

/-! ## What a step can do -/

/-- **Everything that a step can do.** -/
inductive Move (id : SnapshotId) (y : Reload) : Reload → Prop where
  | stay : Move id y y
  | giveBack : y.release = .due →
      Move id y { y with
        store := (y.store.dropRow id).2
        release := if y.store.snapshots.refcount id = 1 then .purging else .finished }
  | purge : y.release = .purging →
      Move id y { y with store := y.store.purge id, release := .finished }
  /-- The load looks for the snapshot, or reads its files. -/
  | turn {load : Load} : y.load ≠ .installed → load ≠ .installed →
      Move id y { y with load := load }
  | put {x : FileRecord} {rest : List FileRecord} : y.load = .storing (x :: rest) →
      Move id y { y with store := y.store.put id x, load := .storing rest, made := y.made ++ [x] }
  | install : y.load = .storing [] → y.store.snapshots.HasRoomFor id →
      Move id y { y with store := (y.store.install id).2, load := .installed }
  | cutOff : y.load = .storing [] → ¬ y.store.snapshots.HasRoomFor id →
      Move id y { y with store := (y.store.promote id).2, load := .refused }
  | acquire {row : Snapshot} {t : SnapshotTable} : y.store.snapshots.acquire? = some (row, t) →
      Move id y { y with store := { y.store with snapshots := t } }
  /-- A worker goes on: it touches no table, and of the records at most the
  route entries. -/
  | index {i : Indexing} : i.store.snapshots = y.store.snapshots →
      i.store.records.filed = y.store.records.filed → Move id y (y.withIndexing i)

theorem move_giveBack (id : SnapshotId) (y : Reload) : Move id y (y.giveBack id) := by
  unfold giveBack
  split
  · next hdue =>
    have hdeleted : (y.store.dropRow id).1 = .deleted ↔ y.store.snapshots.refcount id = 1 :=
      SnapshotTable.release_eq_deleted y.store.snapshots id
    simp only [hdeleted]
    exact .giveBack hdue
  · exact .stay

theorem move_purge (id : SnapshotId) (y : Reload) : Move id y (y.purge id) := by
  unfold purge
  split
  · next hpurging => exact .purge hpurging
  · exact .stay

theorem move_check (id : SnapshotId) (y : Reload) : Move id y (y.check id) := by
  unfold check
  split
  · next hload _ => exact .turn (fun h => by rw [hload] at h; cases h) nofun
  · next hload _ => exact .turn (fun h => by rw [hload] at h; cases h) nofun
  · exact .stay

theorem move_read (id : SnapshotId) (y : Reload) (files : Option SnapshotFiles) :
    Move id y (y.read files) := by
  unfold read
  split
  · next hload => exact .turn (fun h => by rw [hload] at h; cases h) nofun
  · next hload => exact .turn (fun h => by rw [hload] at h; cases h) nofun
  · exact .stay

theorem move_put (id : SnapshotId) (y : Reload) : Move id y (y.put id) := by
  unfold put
  split
  · next hload => exact .put hload
  · exact .stay

theorem move_install (id : SnapshotId) (y : Reload) : Move id y (y.install id) := by
  unfold install
  split
  · next hload =>
    split
    · rcases y.store.install_cases id with ⟨hroom, hi⟩ | ⟨hno, hi⟩
      · have hm := Move.install hload hroom
        rw [hi] at hm ⊢
        exact hm
      · rw [hi]
        exact .cutOff hload hno
    · exact .stay
  · exact .stay

theorem move_acquire (id : SnapshotId) (y : Reload) : Move id y y.acquire := by
  unfold acquire Store.acquire?
  cases ha : y.store.snapshots.acquire? with
  | none => exact .stay
  | some r => exact .acquire ha

theorem move_take (id : SnapshotId) (y : Reload) : Move id y (y.step id .take) := by
  rw [step]
  rcases Indexing.take_cases ⟨y.store, y.tasks⟩ with ⟨-, h⟩ | ⟨e, rest, -, h⟩
  · rw [h]
    exact .index rfl rfl
  · rw [h]
    exact .index rfl rfl

theorem move_work (id : SnapshotId) (y : Reload) (worker pick : Nat) :
    Move id y (y.step id (.work worker pick)) := by
  rw [step]
  rcases Indexing.work_cases ⟨y.store, y.tasks⟩ worker pick with
    h | ⟨before, e, t, after, -, ⟨q, next, -, h⟩ | ⟨x, next, -, h⟩ | ⟨-, h⟩⟩
  · rw [h]
    exact .index rfl rfl
  · rw [h]
    exact .index rfl rfl
  · rw [h]
    exact .index rfl rfl
  · rw [h]
    exact .index rfl rfl

/-- **Every step is such a move.** -/
theorem move_step (id : SnapshotId) (y : Reload) (a : Act) : Move id y (y.step id a) := by
  cases a with
  | giveBack => exact move_giveBack id y
  | purge => exact move_purge id y
  | check => exact move_check id y
  | read files => exact move_read id y files
  | put => exact move_put id y
  | install => exact move_install id y
  | acquire => exact move_acquire id y
  | take => exact move_take id y
  | work worker pick => exact move_work id y worker pick

/-! ## Until the purge -/

/-- The row has left the table, and is there again exactly if the load, at
this point when it left, has made the snapshot current since. -/
structure Left (id : SnapshotId) (load : Load) (y : Reload) : Prop where
  keyed : y.store.snapshots.KeyedByIds
  given : y.release ≠ .due
  back : (y.store.snapshots.row? id).isSome = true ↔ y.load = .installed ∧ load ≠ .installed
  once : load = .installed → y.load = .installed

/-- The last reference given back takes the row away. -/
theorem Left.start (hkeyed : y.store.snapshots.KeyedByIds) (hdue : y.release = .due)
    (hlast : y.store.snapshots.refcount id = 1) : Left id y.load (y.step id .giveBack) := by
  have hstep : y.step id .giveBack =
      { y with store := (y.store.dropRow id).2, release := .purging } := by
    have hdeleted : (y.store.dropRow id).1 = .deleted :=
      (SnapshotTable.release_eq_deleted y.store.snapshots id).2 hlast
    rw [step, giveBack, hdue]
    dsimp only
    rw [if_pos hdeleted]
  have hgone : (y.store.snapshots.release id).2.row? id = none :=
    SnapshotTable.row?_release_of_last hlast
  rw [hstep]
  refine ⟨hkeyed.release id, nofun, iff_of_false ?_ fun h => h.2 h.1, fun h => h⟩
  change ¬ ((y.store.snapshots.release id).2.row? id).isSome = true
  rw [hgone]
  exact nofun

/-- **Every step keeps it.** -/
theorem Left.step {load : Load} (h : Left id load y) (a : Act) : Left id load (y.step id a) := by
  have hm := move_step id y a
  generalize y.step id a = y' at hm
  cases hm with
  | stay => exact h
  | giveBack hdue => exact absurd hdue h.given
  | purge _ => exact ⟨h.keyed, nofun, h.back, h.once⟩
  | turn hnot hnew =>
    refine ⟨h.keyed, h.given, h.back.trans ?_, fun hi => absurd (h.once hi) hnot⟩
    exact iff_of_false (fun hi => hnot hi.1) fun hi => hnew hi.1
  | @put x rest hload =>
    have hnot : y.load ≠ .installed := by rw [hload]; exact nofun
    have htable : (y.store.put id x).snapshots = y.store.snapshots := by rw [Store.put_eq]
    refine ⟨htable ▸ h.keyed, h.given, ?_, fun hi => absurd (h.once hi) hnot⟩
    change ((y.store.put id x).snapshots.row? id).isSome = true ↔ _
    rw [htable]
    exact h.back.trans (iff_of_false (fun hi => hnot hi.1) nofun)
  | install hload hroom =>
    have hnot : y.load ≠ .installed := by rw [hload]; exact nofun
    exact ⟨Store.keyedByIds_install h.keyed id, h.given,
      iff_of_true (Store.row?_install hroom) ⟨rfl, fun hi => hnot (h.once hi)⟩, fun _ => rfl⟩
  | cutOff hload hno =>
    -- the row has left the table and is not back, so there is room for it
    have hgone : y.store.snapshots.row? id = none := by
      rw [← Option.not_isSome_iff_eq_none, h.back, hload]
      exact nofun
    exact absurd (SnapshotTable.hasRoomFor_of_row?_none hgone) hno
  | acquire ha =>
    obtain ⟨hkeyed, hrows⟩ := h.keyed.acquire ha
    exact ⟨hkeyed, h.given, (iff_of_eq (congrArg (· = true) (hrows id))).trans h.back, h.once⟩
  | @index i htable _ =>
    refine ⟨htable ▸ h.keyed, h.given, ?_, h.once⟩
    change (i.store.snapshots.row? id).isSome = true ↔ _
    rw [htable]
    exact h.back

theorem Left.run {load : Load} (h : Left id load y) (as : List Act) :
    Left id load (y.run id as) := by
  induction as generalizing y with
  | nil => exact h
  | cons a as ih => exact ih (h.step a)

/-! ## After the purge -/

/-- The purge has been made, and what files have brought into the snapshot
is what the load has stored after these records. -/
structure Purged (id : SnapshotId) (before : List FileRecord) (y : Reload) : Prop where
  finished : y.release = .finished
  since : ∃ more, y.made = before ++ more ∧
    (y.store.records.only id).filed = Records.empty.putAll id more

theorem step_purge (hpurging : y.release = .purging) :
    y.step id .purge = { y with store := y.store.purge id, release := .finished } := by
  rw [step, purge, hpurging]

/-- The purge leaves nothing of the snapshot, and so no record from a
file. -/
theorem Purged.start (hpurging : y.release = .purging) : Purged id y.made (y.step id .purge) := by
  rw [step_purge hpurging]
  refine ⟨rfl, [], (List.append_nil _).symm, ?_⟩
  exact congrArg Records.filed (Records.only_purge_self y.store.records id)

/-- **Every step keeps it.** -/
theorem Purged.step {before : List FileRecord} (h : Purged id before y) (a : Act) :
    Purged id before (y.step id a) := by
  have hm := move_step id y a
  generalize y.step id a = y' at hm
  obtain ⟨more, hmade, hfiled⟩ := h.since
  cases hm with
  | stay => exact h
  | giveBack hdue => exact absurd (hdue.symm.trans h.finished) nofun
  | purge hpurging => exact absurd (hpurging.symm.trans h.finished) nofun
  | turn _ _ => exact ⟨h.finished, more, hmade, hfiled⟩
  | @put x rest hload =>
    refine ⟨h.finished, more ++ [x], ?_, ?_⟩
    · change y.made ++ [x] = _
      rw [hmade, List.append_assoc]
    · change ((y.store.put id x).records.only id).filed = _
      rw [Store.put_eq, Records.filed_only_put, hfiled, Records.putAll, Records.putAll,
        List.foldl_append]
      rfl
  | cutOff _ _ => exact ⟨h.finished, more, hmade, hfiled⟩
  | install _ _ =>
    refine ⟨h.finished, more, hmade, ?_⟩
    change ((y.store.install id).2.records.only id).filed = _
    rw [Store.only_install, hfiled]
  | acquire _ => exact ⟨h.finished, more, hmade, hfiled⟩
  | @index i _ hrecords =>
    refine ⟨h.finished, more, hmade, ?_⟩
    change i.store.records.filed.only id = _
    rw [hrecords]
    exact hfiled

theorem Purged.run {before : List FileRecord} (h : Purged id before y) (as : List Act) :
    Purged id before (y.run id as) := by
  induction as generalizing y with
  | nil => exact h
  | cons a as ih => exact ih (h.step a)

/-- **What a late purge does, exactly.** The last reference to a snapshot is
given back, which takes its row from the table, and some steps later its
records are purged; a load of the same snapshot and leases on the current
one may come at any point, before and in between and after. When the purge
comes, the snapshot is in the table again if and only if the load has made
it current in between. The purge deletes every record of the snapshot,
whether or not it is in the table, and none of another; and at any later
point the snapshot has, of what files bring, what the load has stored
since the purge and nothing else. -/
theorem purge_exact (id : SnapshotId) (y : Reload) (between after : List Act)
    (hkeyed : y.store.snapshots.KeyedByIds) (hdue : y.release = .due)
    (hlast : y.store.snapshots.refcount id = 1)
    (hpurging : ((y.step id .giveBack).run id between).release = .purging) :
    let now := (y.step id .giveBack).run id between
    let purged := now.step id .purge
    let later := purged.run id after
    ((now.store.snapshots.row? id).isSome = true ↔ now.load = .installed ∧ y.load ≠ .installed) ∧
    purged.store.snapshots = now.store.snapshots ∧
    purged.store.records.only id = .empty ∧
    (∀ x, x ≠ id → purged.store.records.only x = now.store.records.only x) ∧
    ∃ more, later.made = now.made ++ more ∧
      (later.store.records.only id).filed = Records.empty.putAll id more := by
  intro now purged later
  have hback := ((Left.start hkeyed hdue hlast).run between).back
  have hpurged : purged = { now with store := now.store.purge id, release := .finished } :=
    step_purge hpurging
  have hlater : Purged id now.made later := (Purged.start hpurging).run after
  refine ⟨hback, ?_, ?_, fun x hx => ?_, hlater.since⟩
  · rw [hpurged]
    rfl
  · rw [hpurged]
    exact Records.only_purge_self _ id
  · rw [hpurged]
    exact Records.only_purge_of_ne _ hx

/-! ## A catalog that is loaded before the purge, or after it -/

/-- A snapshot with one catalog. -/
def oneCatalog : SnapshotFiles where
  catalogs := [⟨"c", "sandbox", none, ⟨"o", "acme"⟩⟩]
  apis := []
  products := []
  subscriptions := []
  tlsProfiles := []
  registries := []

/-- That snapshot has been replaced by another one, and the only reference
that is left to it is about to be given back. -/
def replaced (s s' : SnapshotId) : Reload where
  store := { Store.empty with
    records := Records.empty.putAll s oneCatalog.records
    snapshots := [(s, ⟨s, 1, false⟩), (s', ⟨s', 1, true⟩)] }
  tasks := []
  release := .due
  load := .due
  made := []

/-- A load that looks for the snapshot before the purge and stores after
it keeps what it stores. -/
theorem kept_by_later_load :
    let id : SnapshotId := ⟨1, by decide⟩
    let y := replaced id ⟨2, by decide⟩
    let now := (y.step id .giveBack).run id [.check, .read (some oneCatalog)]
    let later := (now.step id .purge).run id [.put, .install, .acquire]
    later.made.length = 1 ∧
      (later.store.records.only id).filed = Records.empty.putAll id later.made := by
  intro id y
  have hkeyed : y.store.snapshots.KeyedByIds := by
    rw [SnapshotTable.KeyedByIds]
    decide
  have hnothing : ((y.step id .giveBack).run id [.check, .read (some oneCatalog)]).made = [] := rfl
  obtain ⟨-, -, -, -, more, hmade, hfiled⟩ := purge_exact id y
    [.check, .read (some oneCatalog)] [.put, .install, .acquire] hkeyed rfl rfl rfl
  dsimp only
  refine ⟨by decide +kernel, ?_⟩
  rw [hmade, hnothing, List.nil_append, hfiled]

/-- **A late purge deletes the records of a snapshot that is current and
leased.** -/
theorem purged_under_lease :
    let id : SnapshotId := ⟨1, by decide⟩
    let now := (replaced id ⟨2, by decide⟩).run id
      [.giveBack, .check, .read (some oneCatalog), .put, .install, .acquire]
    let purged := now.step id .purge
    now.store.records.count id = 2 ∧ purged.store.records.count id = 0 ∧
      purged.store.snapshots.row? id = some ⟨id, 2, true⟩ := by
  decide +kernel

end Reload

end ApiGateway
