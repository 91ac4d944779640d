/-!
# Decimal — double-precision numbers by their bits

A double is its 64 bits. All arithmetic on it is exact arithmetic on
natural numbers followed by one rounding: `Binary64.nearest` is the
double nearest to a quotient, ties going to the even significand, and
products, quotients and conversions are this rounding of the exact
result.
-/

namespace ApiGateway

/-- A number in the IEEE 754 binary64 format. -/
structure Binary64 where
  bits : UInt64
  deriving DecidableEq, Repr

namespace Binary64

/-- The sign bit. -/
def isNegative (x : Binary64) : Bool := x.bits.toNat / Nat.pow 2 63 = 1

/-- The bits without the sign. -/
def magnitude (x : Binary64) : Nat := x.bits.toNat % Nat.pow 2 63

/-- The magnitude of infinity: all exponent bits set, no fraction. -/
def infiniteMagnitude : Nat := 2047 * Nat.pow 2 52

def isNaN (x : Binary64) : Bool := infiniteMagnitude < x.magnitude

def isInfinite (x : Binary64) : Bool := x.magnitude = infiniteMagnitude

def isFinite (x : Binary64) : Bool := x.magnitude < infiniteMagnitude

/-- The double of a sign and a magnitude. -/
def ofMagnitude (negative : Bool) (m : Nat) : Binary64 :=
  ⟨UInt64.ofNat (m + if negative then Nat.pow 2 63 else 0)⟩

def infinity (negative : Bool) : Binary64 := ofMagnitude negative infiniteMagnitude

def nan : Binary64 := ofMagnitude false (infiniteMagnitude + Nat.pow 2 51)

/-- Significand `m` and exponent `q` of a finite double: its size is
`m * 2 ^ q`. -/
def parts (x : Binary64) : Nat × Int :=
  let e : Nat := x.magnitude / Nat.pow 2 52
  let f : Nat := x.magnitude % Nat.pow 2 52
  if e = 0 then (f, -1074) else (f + Nat.pow 2 52, (e : Int) - 1075)

/-- The quotient `num / den` rounded to an integer, ties to even. -/
def roundedQuotient (num den : Nat) : Nat :=
  let q := num / den
  let r := num % den
  if 2 * r < den then q
  else if den < 2 * r then q + 1
  else if q % 2 = 0 then q else q + 1

/-- `num / den` divided by `2 ^ q`, as a fraction. -/
def scaled (num den : Nat) (q : Int) : Nat × Nat :=
  if 0 ≤ q then (num, den * Nat.pow 2 q.toNat) else (num * Nat.pow 2 (-q).toNat, den)

/-- The exponent of the last place of the double nearest to a positive
quotient: 53 significant bits, or the smallest exponent there is. -/
def lastPlace (num den : Nat) : Int :=
  let guess : Int := (num.log2 : Int) - (den.log2 : Int) - 52
  let (n, d) := scaled num den guess
  let q := if n < d * Nat.pow 2 52 then guess - 1 else guess
  max q (-1074)

/-- The double nearest to `num / den`; past the largest finite double
it is infinite. -/
def nearest (negative : Bool) (num den : Nat) : Binary64 :=
  if num = 0 then ofMagnitude negative 0
  else
    let q := lastPlace num den
    let (n, d) := scaled num den q
    let m : Nat := roundedQuotient n d + (q + 1074).toNat * Nat.pow 2 52
    ofMagnitude negative (min m infiniteMagnitude)

/-- The double nearest to an integer. -/
def ofInt (n : Int) : Binary64 := nearest (n < 0) n.natAbs 1

/-- The double nearest to `m * 2 ^ q / den`. -/
def ofScaled (negative : Bool) (m : Nat) (q : Int) (den : Nat) : Binary64 :=
  if 0 ≤ q then nearest negative (m * Nat.pow 2 q.toNat) den
  else nearest negative m (den * Nat.pow 2 (-q).toNat)

/-- The product of two finite doubles, rounded. -/
def mul (x y : Binary64) : Binary64 :=
  let (m, q) := x.parts
  let (n, p) := y.parts
  ofScaled (x.isNegative != y.isNegative) (m * n) (q + p) 1

/-- The quotient of two finite doubles, the second not zero, rounded. -/
def div (x y : Binary64) : Binary64 :=
  let (m, q) := x.parts
  let (n, p) := y.parts
  ofScaled (x.isNegative != y.isNegative) m (q - p) n

/-- The double with the other sign. -/
def neg (x : Binary64) : Binary64 := ofMagnitude (!x.isNegative) x.magnitude

/-- The double nearest to `10 ^ k`. -/
def powerOfTen (k : Nat) : Binary64 := nearest false (Nat.pow 10 k) 1

/-- The integer that a finite double is, if it is one. -/
def toInt? (x : Binary64) : Option Int :=
  if x.isFinite then
    let (m, q) := x.parts
    let size :=
      if 0 ≤ q then some (m * Nat.pow 2 q.toNat)
      else if m % Nat.pow 2 (-q).toNat = 0 then some (m / Nat.pow 2 (-q).toNat)
      else none
    size.map fun n => if x.isNegative then -(n : Int) else (n : Int)
  else none

/-- Numeric equality: the two zeros are equal, and no NaN equals
anything. -/
def sameNumber (x y : Binary64) : Bool :=
  !x.isNaN && !y.isNaN && (x = y || (x.magnitude = 0 && y.magnitude = 0))

end Binary64

end ApiGateway
