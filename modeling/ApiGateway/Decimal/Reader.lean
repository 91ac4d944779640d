import ApiGateway.Decimal.Shortest
/-!
# Decimal — reading a number from text

A number in a parameter is an optional sign followed by digits with an
optional point on either side of them and an optional exponent, or one
of the words `inf`, `infinity` and `nan` in any case. It is the double
nearest to the written value; there are no other forms. A count is a
run of digits with an optional plus before them.
-/

namespace ApiGateway

namespace Decimal

/-- The value of a decimal digit. -/
def digitValue? (c : Char) : Option Nat :=
  if c.isDigit then some (c.toNat - '0'.toNat) else none

/-- The number that a run of digits denotes. -/
def ofDigits (s : List Char) : Nat :=
  s.foldl (fun n c => 10 * n + (c.toNat - '0'.toNat)) 0

/-- The digits at the start of a text, and what follows them. -/
def digitRun (s : List Char) : List Char × List Char :=
  (s.takeWhile Char.isDigit, s.dropWhile Char.isDigit)

/-- A number of digits below a bound, with an optional plus before
them. -/
def count? (bound : Nat) (s : List Char) : Option Nat :=
  let digits :=
    match s with
    | '+' :: rest => rest
    | _ => s
  if digits ≠ [] ∧ digits.all Char.isDigit ∧ ofDigits digits < bound then some (ofDigits digits)
  else none

/-- A sign at the start of a text (`true` for a minus), and what
follows it. -/
def sign (s : List Char) : Bool × List Char :=
  match s with
  | '-' :: rest => (true, rest)
  | '+' :: rest => (false, rest)
  | _ => (false, s)

/-- The double nearest to `digits * 10 ^ exponent`. Exponents so large
that every double is passed, or so small that all are missed, are not
computed with. -/
def toBinary64 (negative : Bool) (d : Decimal) : Binary64 :=
  let e : Int := d.exponent + (digitsOf d.digits).length
  if d.digits = 0 ∨ e < -400 then .ofMagnitude negative 0
  else if 400 < e then .infinity negative
  else if 0 ≤ d.exponent then .nearest negative (d.digits * Nat.pow 10 d.exponent.toNat) 1
  else .nearest negative d.digits (Nat.pow 10 (-d.exponent).toNat)

/-- An exponent part, which may be absent; `none` if it is begun and
has no digits. -/
def exponentPart (s : List Char) : Option Int :=
  match s with
  | [] => some 0
  | c :: rest =>
    if c = 'e' ∨ c = 'E' then
      let (negative, body) := sign rest
      let (digits, after) := digitRun body
      if digits = [] ∨ after ≠ [] then none
      else some (if negative then -(ofDigits digits : Int) else ofDigits digits)
    else none

/-- Digits with an optional point and an optional exponent. -/
def unsigned? (s : List Char) : Option Decimal :=
  let (whole, rest) := digitRun s
  let (fraction, tail) :=
    match rest with
    | '.' :: more => digitRun more
    | _ => ([], rest)
  if whole = [] ∧ fraction = [] then none
  else (exponentPart tail).map fun e => ⟨ofDigits (whole ++ fraction), e - fraction.length⟩

/-- The double that a text denotes. -/
def parse? (s : List Char) : Option Binary64 :=
  let (negative, body) := sign s
  let word := body.map Char.toLower
  if word = "inf".toList ∨ word = "infinity".toList then some (.infinity negative)
  else if word = "nan".toList then some .nan
  else (unsigned? body).map (toBinary64 negative)

end Decimal

end ApiGateway
