import ApiGateway.OrderedMap
import ApiGateway.Record.Snapshot
/-!
# Store — the table of snapshots

The table has a row for every snapshot that somebody refers to. The
current snapshot is referred to for as long as it is current, and by
every request that runs on it. Taking a reference away from a row that
has only one removes the row, and with it goes everything that belongs to
the snapshot; that is the caller's part, and so it is a step of its own.

Making a snapshot current has two halves: the flags change at once
(`promote`), and the references of those that were current are given
back one after the other.

References are counted up to `mostReferences`. A reference beyond that
cannot be taken: whoever asks for it is cut off in the middle of what it
does, and nothing of the rest is done.
-/

namespace ApiGateway

/-- The row of every snapshot that is referred to. -/
abbrev SnapshotTable := OrderedMap SnapshotId Snapshot

namespace SnapshotTable

/-- The greatest number of references that can be counted. -/
def mostReferences : Nat := Nat.pow 2 32 - 1

/-- The count after one more reference, if it can be counted. -/
def countUp? (refcount : Nat) : Option Nat :=
  if refcount < mostReferences then some (refcount + 1) else none

theorem countUp?_of_lt {n : Nat} (h : n < mostReferences) : countUp? n = some (n + 1) := if_pos h

theorem countUp?_eq_some {n m : Nat} : countUp? n = some m ↔ n < mostReferences ∧ m = n + 1 := by
  rw [countUp?]
  split
  · next h => exact ⟨fun he => ⟨h, (Option.some.inj he).symm⟩, fun he => congrArg some he.2.symm⟩
  · next h => exact iff_of_false nofun fun he => h he.1

theorem countUp?_eq_none {n : Nat} : countUp? n = none ↔ mostReferences ≤ n := by
  rw [countUp?]
  split
  · next h => exact iff_of_false nofun (Nat.not_le.2 h)
  · next h => exact iff_of_true rfl (Nat.not_lt.1 h)

/-- The row of a snapshot. -/
def row? (t : SnapshotTable) (id : SnapshotId) : Option Snapshot := OrderedMap.get? t id

/-- The current snapshot. -/
def current? (t : SnapshotTable) : Option Snapshot := (OrderedMap.values t).find? Snapshot.current

/-- The rows in the order of their ids. -/
def inOrder (t : SnapshotTable) : List Snapshot :=
  (OrderedMap.values t).mergeSort fun a b => decide (a.id ≤ b.id)

/-- The table with a row as it is given. -/
def register (t : SnapshotTable) (s : Snapshot) : SnapshotTable := OrderedMap.insert t s.id s

/-- Whether the current snapshot has as many references as can be
counted. Whoever asks for one more is cut off. -/
def isFull (t : SnapshotTable) : Bool := t.current?.any fun s => (countUp? s.refcount).isNone

/-- The current snapshot with one more reference. There is none to be had
if no snapshot is current, or if the current one is full. -/
def acquire? (t : SnapshotTable) : Option (Snapshot × SnapshotTable) :=
  match t.current? with
  | none => none
  | some s =>
    (countUp? s.refcount).map fun n =>
      let s' := { s with refcount := n }
      (s', OrderedMap.insert t s.id s')

/-- What became of a reference that was given back. -/
inductive Released where
  /-- There is no such row. -/
  | gone
  /-- The row has no references; it stays as it is. -/
  | unmatched (row : Snapshot)
  /-- The row has one reference less. -/
  | kept (row : Snapshot)
  /-- It was the last one, and the row is gone. -/
  | deleted
  deriving DecidableEq, Repr

namespace Released

/-- The row, if there still is one. -/
def row? : Released → Option Snapshot
  | gone => none
  | unmatched s => some s
  | kept s => some s
  | deleted => none

end Released

/-- A reference given back. -/
def release (t : SnapshotTable) (id : SnapshotId) : Released × SnapshotTable :=
  match t.row? id with
  | none => (.gone, t)
  | some s =>
    match s.refcount with
    | 0 => (.unmatched s, t)
    | 1 => (.deleted, OrderedMap.erase t id)
    | n + 2 =>
      let s' := { s with refcount := n + 1 }
      (.kept s', OrderedMap.insert t id s')

/-- The other current snapshots, whose references have to be given back
once another one is current. -/
def others (t : SnapshotTable) (id : SnapshotId) : List SnapshotId :=
  ((OrderedMap.values t).filter fun s => s.current && s.id ≠ id).map (·.id)

/-- A row that is no longer current, unless it is the one that stays. -/
def demoted (id : SnapshotId) (s : Snapshot) : Snapshot :=
  if s.id = id then s else { s with current := false }

/-- The row of a snapshot that becomes current: it has one more reference
unless it was current before. There is none if that reference cannot be
counted. -/
def promoted? (s : Snapshot) : Option Snapshot :=
  if s.current then some s
  else (countUp? s.refcount).map fun n => { s with refcount := n, current := true }

/-- The first half of making a snapshot current: its row, which is made
if it is not there, and the table with no other row current. If the row
has no room for the reference the others are no longer current all the
same, and this one is not. -/
def promote (t : SnapshotTable) (id : SnapshotId) : Option Snapshot × SnapshotTable :=
  let rest := OrderedMap.mapValues (demoted id) t
  match promoted? ((t.row? id).getD (Snapshot.fresh id)) with
  | none => (none, rest)
  | some s => (some s, OrderedMap.insert rest id s)

end SnapshotTable

end ApiGateway
