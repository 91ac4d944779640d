import ApiGateway.Decimal.Reader
import ApiGateway.Text.Blank
import ApiGateway.Text.Pieces
/-!
# Rate limits — quotas

A quota is a number of requests per period, written as `100/1hour`, or
the word `unlimited`. The number of units may be left out, blanks may
stand around the parts, and case does not matter. Counts are below
`2 ^ 32` and periods below `2 ^ 64` seconds.
-/

namespace ApiGateway

/-- How many requests are allowed in a period. -/
inductive Quota where
  | unlimited
  | limited (count periodSeconds : Nat)
  deriving DecidableEq, Repr

namespace Quota

/-- The names of the units of time with their seconds. -/
def units : List (List String × Nat) :=
  [(["s", "sec", "second", "seconds"], 1), (["m", "min", "minute", "minutes"], 60),
    (["h", "hour", "hours"], 3600), (["d", "day", "days"], 86400),
    (["w", "week", "weeks"], 604800)]

/-- The seconds of a unit of time. -/
def unitSeconds? (name : String) : Option Nat :=
  (units.find? fun u => u.1.contains name).map (·.2)

/-- The seconds of a period: a number of units, one if it is left
out. -/
def period? (s : List Char) : Option Nat :=
  let lowered := Text.lower (Text.trim s)
  let (digits, unit) := Decimal.digitRun lowered
  match unitSeconds? (String.ofList (Text.trim unit)) with
  | none => none
  | some seconds =>
    let amount := if digits = [] then 1 else Decimal.ofDigits digits
    let bound := Nat.pow 2 64
    if 0 < amount ∧ amount < bound ∧ amount * seconds < bound then some (amount * seconds) else none

/-- The quota that a trimmed text denotes. -/
def parseTrimmed? (s : List Char) : Option Quota :=
  if Text.lower s = "unlimited".toList then some .unlimited
  else
    match Text.cutFirst '/' s with
    | none => none
    | some (count, period) =>
      match Decimal.count? (Nat.pow 2 32) (Text.trim count), period? period with
      | some c, some p => some (.limited c p)
      | _, _ => none

/-- The quota that a text denotes. -/
def parse? (s : String) : Option Quota := parseTrimmed? (Text.trim s.toList)

/-- What is said of a text that is no quota. -/
def invalidMessage (s : String) : String := "invalid rate limit '" ++ s.trimBlanks ++ "'"

end Quota

end ApiGateway
