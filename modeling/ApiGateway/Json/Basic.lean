import ApiGateway.Decimal.Layout
import ApiGateway.OrderedMap
/-!
# JSON — values

A JSON value keeps the order of the members of an object. A number is an
integer, when it is written as one and fits 64 bits, or else a finite
double; the two kinds stay apart, so `1` and `1.0` are different values.
-/

namespace ApiGateway

namespace Json

/-- A JSON number: an integer between `-2 ^ 63` and `2 ^ 64 - 1`, or a
finite double. -/
inductive Number where
  | int (n : Int)
  | double (x : Binary64)
  deriving DecidableEq, Repr

/-- The double nearest to a number. -/
def Number.toBinary64 : Number → Binary64
  | .int n => .ofInt n
  | .double x => x

end Json

/-- A JSON value. -/
inductive Json where
  | null
  | bool (b : Bool)
  | number (n : Json.Number)
  | string (s : String)
  | array (elements : List Json)
  | object (members : List (String × Json))
  deriving Repr, Inhabited

namespace Json

/-- The number of an integer. -/
def ofInt (n : Int) : Json := .number (.int n)

/-- The number of a natural number. -/
def ofNat (n : Nat) : Json := .ofInt n

/-- A finite double as a number; JSON has no others, they are `null`. -/
def ofBinary64 (x : Binary64) : Json := if x.isFinite then .number (.double x) else .null

/-- The strings of a list. -/
def ofStrings (xs : List String) : Json := .array (xs.map .string)

/-- A value that may be missing, `null` if it is. -/
def ofOption {α : Type} (f : α → Json) : Option α → Json
  | none => .null
  | some a => f a

/-- The member of an object by its key. -/
def member? (j : Json) (key : String) : Option Json :=
  match j with
  | .object members => OrderedMap.get? members key
  | _ => none

/-- The text of a string. -/
def asString? : Json → Option String
  | .string s => some s
  | _ => none

def asBool? : Json → Option Bool
  | .bool b => some b
  | _ => none

def asArray? : Json → Option (List Json)
  | .array xs => some xs
  | _ => none

/-- A non-negative integer below `bound`. -/
def asNat? (bound : Nat) : Json → Option Nat
  | .number (.int n) => if 0 ≤ n ∧ n < bound then some n.toNat else none
  | _ => none

/-- The object with the repeated keys merged at every depth: a key keeps
its first place and its last value. -/
def merged : Json → Json
  | .array xs => .array (mergedElements xs)
  | .object ms => .object (OrderedMap.ofPairs (mergedMembers ms))
  | j => j
where
  mergedElements : List Json → List Json
    | [] => []
    | x :: xs => x.merged :: mergedElements xs
  mergedMembers : List (String × Json) → List (String × Json)
    | [] => []
    | (k, x) :: ms => (k, x.merged) :: mergedMembers ms

/-- Equality of values: members may come in any order, and the two
zeros among the doubles are equal. -/
def same : Json → Json → Bool
  | .null, .null => true
  | .bool a, .bool b => a == b
  | .number (.int a), .number (.int b) => a == b
  | .number (.double a), .number (.double b) => a.sameNumber b
  | .string a, .string b => a == b
  | .array xs, .array ys => sameElements xs ys
  | .object ms, .object ns => ms.length == ns.length && sameMembers ms ns
  | _, _ => false
where
  sameElements : List Json → List Json → Bool
    | [], [] => true
    | x :: xs, y :: ys => same x y && sameElements xs ys
    | _, _ => false
  sameMembers : List (String × Json) → List (String × Json) → Bool
    | [], _ => true
    | (k, x) :: ms, ns =>
      (match OrderedMap.get? ns k with
        | some y => same x y
        | none => false) && sameMembers ms ns

end Json

end ApiGateway
