import ApiGateway.Record.Snapshot
/-!
# Store — the queue of records to be indexed

Every subscription and product that is stored is announced by an event.
The queue counts the events that are not yet dealt with: publishing
raises the count and completing lowers it, whether or not the build
succeeded. Once the receiving side is gone, nothing can be taken any
more, and an event that is published is dropped and not counted.
-/

namespace ApiGateway

/-- A stored record that has to be indexed. -/
inductive IndexEvent where
  | subscription (snapshot : SnapshotId) (id : String)
  | product (snapshot : SnapshotId) (id : String)
  deriving DecidableEq, Repr

namespace IndexEvent

/-- The kind of record that caused the event. -/
def trigger : IndexEvent → String
  | subscription .. => "subscription"
  | product .. => "product"

def snapshot : IndexEvent → SnapshotId
  | subscription s _ => s
  | product s _ => s

def id : IndexEvent → String
  | subscription _ i => i
  | product _ i => i

end IndexEvent

/-- Events that wait, and how many are not dealt with. -/
structure IndexQueue where
  /-- Published and not yet taken, the oldest first. -/
  waiting : List IndexEvent
  inFlight : Nat
  /-- Whether somebody can still take events. -/
  isOpen : Bool
  deriving DecidableEq, Repr

namespace IndexQueue

def empty : IndexQueue := ⟨[], 0, true⟩

/-- An event is counted and waits, if somebody can still take it. -/
def publish (q : IndexQueue) (e : IndexEvent) : IndexQueue :=
  if q.isOpen then { q with waiting := q.waiting ++ [e], inFlight := q.inFlight + 1 } else q

/-- The oldest event is taken; it stays counted. -/
def take? (q : IndexQueue) : Option (IndexEvent × IndexQueue) :=
  match q.waiting with
  | [] => none
  | e :: rest => some (e, { q with waiting := rest })

/-- One event that was taken is dealt with. -/
def complete (q : IndexQueue) : IndexQueue := { q with inFlight := q.inFlight - 1 }

/-- The receiving side goes away, and with it the events that wait. -/
def close (q : IndexQueue) : IndexQueue := { q with waiting := [], isOpen := false }

/-- Whether every event is dealt with. -/
def isIdle (q : IndexQueue) : Bool := q.inFlight = 0

end IndexQueue

end ApiGateway
