import ApiGateway.OrderedMap
import ApiGateway.Record.Snapshot
/-!
# Store — collections of records

A collection holds records of one kind for all snapshots, each under its
snapshot and its id. Listings are in the order of the ids, whatever the
order in which the records came. A search by a test is not: it goes
through the records in no order that can be relied on, and what is stored
for other snapshots may change that order. So a search is told which one
of several records it comes upon.
-/

namespace ApiGateway

/-- Records of one kind under snapshot and id. -/
abbrev Collection (α : Type) := OrderedMap (SnapshotId × String) α

namespace Collection

variable {α : Type}

/-- The collection with a record, in place of one with the same snapshot
and id. -/
def put (c : Collection α) (s : SnapshotId) (id : String) (r : α) : Collection α :=
  OrderedMap.insert c (s, id) r

/-- The record of a snapshot with an id. -/
def get? (c : Collection α) (s : SnapshotId) (id : String) : Option α := OrderedMap.get? c (s, id)

/-- The records of a snapshot with their ids, in the order in which the
ids came. -/
def ofSnapshot (c : Collection α) (s : SnapshotId) : List (String × α) :=
  c.filterMap fun e => if e.1.1 = s then some (e.1.2, e.2) else none

/-- The records of a snapshot that pass a test, in no particular order. -/
def matching (c : Collection α) (s : SnapshotId) (test : α → Bool) : List α :=
  ((c.ofSnapshot s).map (·.2)).filter test

/-- A record of a snapshot that passes a test, if there are any; `pick`
says which one. -/
def find? (c : Collection α) (s : SnapshotId) (test : α → Bool) (pick : Nat) : Option α :=
  (c.matching s test)[pick % (c.matching s test).length]?

/-- The records of a snapshot that pass a test, in the order of their
ids. -/
def filter (c : Collection α) (s : SnapshotId) (test : α → Bool) : List α :=
  (((c.ofSnapshot s).filter fun e => test e.2).mergeSort fun a b => decide (a.1 ≤ b.1)).map (·.2)

/-- How many records a snapshot has. -/
def count (c : Collection α) (s : SnapshotId) : Nat := (c.ofSnapshot s).length

/-- The collection without the records of a snapshot. -/
def purge (c : Collection α) (s : SnapshotId) : Collection α :=
  List.filter (fun e => e.1.1 ≠ s) c

end Collection

end ApiGateway
