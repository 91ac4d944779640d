import ApiGateway.Decimal.Reader
import ApiGateway.Record.Fields
import ApiGateway.Text.Quoted
/-!
# Records — snapshots and their ids

A snapshot is one generation of the configuration. Its id is a number
below 65536, written with exactly five decimal digits; the order of ids
is the order of their texts.
-/

namespace ApiGateway

/-- The id of a snapshot. -/
structure SnapshotId where
  number : Nat
  number_lt : number < 65536
  deriving DecidableEq, Repr

namespace SnapshotId

/-- The digits of an id: exactly five, the highest first. -/
def digits (i : SnapshotId) : List Char :=
  [10000, 1000, 100, 10, 1].map fun p => (i.number / p % 10).digitChar

/-- The text of an id. -/
def text (i : SnapshotId) : String := String.ofList i.digits

/-- The id of five ASCII digits that denote a number below 65536. -/
def ofDigits? (s : List Char) : Option SnapshotId :=
  if s.length = 5 ∧ s.all Char.isDigit then
    if h : Decimal.ofDigits s < 65536 then some ⟨Decimal.ofDigits s, h⟩ else none
  else none

/-- The id that a text denotes. -/
def parse? (s : String) : Option SnapshotId := ofDigits? s.toList

/-- What is said of a text that is no id. -/
def invalidMessage (s : String) : String := "invalid snapshot id: " ++ s.quoted

def toJson (i : SnapshotId) : Json := .string i.text

def ofJson? (j : Json) : Option SnapshotId := j.asString?.bind parse?

instance : LE SnapshotId := ⟨fun a b => a.number ≤ b.number⟩

instance (a b : SnapshotId) : Decidable (a ≤ b) := inferInstanceAs (Decidable (a.number ≤ b.number))

end SnapshotId

/-- A generation of the configuration: how many references to it are
held, and whether new requests get it. -/
structure Snapshot where
  id : SnapshotId
  refcount : Nat
  current : Bool
  deriving DecidableEq, Repr

namespace Snapshot

/-- A snapshot nobody refers to. -/
def fresh (id : SnapshotId) : Snapshot := ⟨id, 0, false⟩

def ofJson? (j : Json) : Option Snapshot := do
  let f ← Fields.of? ["id", "refcount", "current"] j
  return {
    id := ← f.required "id" SnapshotId.ofJson?
    refcount := ← f.required "refcount" (Json.asNat? (Nat.pow 2 32))
    current := ← f.required "current" Json.asBool? }

def toJson (s : Snapshot) : Json :=
  .object [("id", s.id.toJson), ("refcount", .ofNat s.refcount), ("current", .bool s.current)]

end Snapshot

end ApiGateway
