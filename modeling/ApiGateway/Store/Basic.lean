import ApiGateway.Route.Build
import ApiGateway.Store.FileTree
import ApiGateway.Store.Snapshots
/-!
# Store — the state of the configuration

The store brings together the records of all snapshots, the queue of
events about them, the table of snapshots and the directories that
snapshots are read from. Everything here is one step that nothing can
come between. Two things take more than one step: a reference that is
given back (`dropRow`, then `purge` if it was the last), and a snapshot
that is made current (`promote`, then a reference given back for each
snapshot that was current).
-/

namespace ApiGateway

/-- The state of the configuration. -/
structure Store where
  records : Records
  queue : IndexQueue
  /-- Whether subscriptions and products are announced when they are
  stored. -/
  announces : Bool
  snapshots : SnapshotTable
  files : FileTree

namespace Store

/-- A store with nothing in it, which announces what is stored. -/
def empty : Store := ⟨.empty, .empty, true, [], []⟩

/-! ## Storing and indexing -/

/-- The store with an event in its queue, if it announces anything. -/
def announce (s : Store) (e : IndexEvent) : Store :=
  if s.announces then { s with queue := s.queue.publish e } else s

/-- The store with its records changed in a way that nobody is told
of. -/
def withRecords (s : Store) (change : Records → Records) : Store :=
  { s with records := change s.records }

/-- The store with a product, which is announced. -/
def putProduct (s : Store) (id : SnapshotId) (p : Product) : Store :=
  (s.withRecords fun r => r.putProduct id p).announce (.product id p.id)

/-- The store with a subscription, which is announced. -/
def putSubscription (s : Store) (id : SnapshotId) (u : Subscription) : Store :=
  (s.withRecords fun r => r.putSubscription id u).announce (.subscription id u.id)

/-- An event that was taken is handled: what can be built is stored, and
the event is dealt with whether or not that succeeded. -/
def complete (s : Store) (e : IndexEvent) : Store :=
  { s with records := (Route.handle s.records e).2, queue := s.queue.complete }

/-- All events that wait are taken and handled, the oldest first. -/
def settle (s : Store) : Store :=
  s.queue.waiting.foldl complete { s with queue := { s.queue with waiting := [] } }

/-! ## Snapshots -/

/-- The directory that a snapshot is deleted with. -/
def directoryOf (id : SnapshotId) : Place := [id.text]

/-- Everything that belongs to a snapshot is deleted. -/
def purge (s : Store) (id : SnapshotId) : Store :=
  { s with
    records := s.records.purge id
    files := (s.files.removeDirectory (directoryOf id)).2 }

/-- What a purge deletes, by collection; of the directory it is not known
if it cannot be deleted. -/
def purgeCounts (s : Store) (id : SnapshotId) : List (String × Option Nat) :=
  ((s.records.counts id).map fun c => (c.1, some c.2))
    ++ [("config-directory", (s.files.removeDirectory (directoryOf id)).1)]

/-- A reference is given back in the table of snapshots. -/
def dropRow (s : Store) (id : SnapshotId) : SnapshotTable.Released × Store :=
  let (released, t) := s.snapshots.release id
  (released, { s with snapshots := t })

/-- A reference is given back, and if it was the last one the snapshot is
deleted with everything that belongs to it. -/
def release (s : Store) (id : SnapshotId) : SnapshotTable.Released × Store :=
  match s.dropRow id with
  | (.deleted, s') => (.deleted, s'.purge id)
  | r => r

/-- The current snapshot with one more reference, if it can be had. -/
def acquire? (s : Store) : Option (Snapshot × Store) :=
  s.snapshots.acquire?.map fun r => (r.1, { s with snapshots := r.2 })

/-- A snapshot is made current in the table of snapshots, if there is room
for the reference that it gets. -/
def promote (s : Store) (id : SnapshotId) : Option Snapshot × Store :=
  let (row, t) := s.snapshots.promote id
  (row, { s with snapshots := t })

/-- A snapshot is made current, and the references of those that were are
given back. If the first half is cut off there is no second one. -/
def install (s : Store) (id : SnapshotId) : Option Snapshot × Store :=
  match s.promote id with
  | (none, s') => (none, s')
  | (some row, s') =>
    (some row, (s.snapshots.others id).foldl (fun s' other => (s'.release other).2) s')

end Store

end ApiGateway
