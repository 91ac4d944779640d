import ApiGateway.Decimal.Binary64
/-!
# Decimal — the fewest digits that read back

Every real number nearer to a double than to any other double reads
back as it. `Decimal.shortest` gives the decimal number with the fewest
digits in that interval and, among those, the one nearest to the double
itself. For each number of digits it looks at the two neighbours of the
double on the decimal grid of that many digits, in exact arithmetic.
-/

namespace ApiGateway

/-- The decimal number `digits * 10 ^ exponent`. -/
structure Decimal where
  digits : Nat
  exponent : Int
  deriving DecidableEq, Repr

namespace Decimal

/-- The decimal digits of a number; zero has one. -/
def digitsOf (n : Nat) : List Char := Nat.toDigits 10 n

/-- The double `m * 2 ^ q` between the ends of its interval, all three
as multiples of one unit. -/
structure Interval where
  low : Nat
  value : Nat
  high : Nat
  /-- The ends belong to the interval exactly when the significand is
  even. -/
  closed : Bool

/-- The interval of a double with significand `m`, in the unit
`2 ^ (q - 2)`; below a power of two the neighbour is nearer by half. -/
def intervalOf (m : Nat) (q : Int) : Interval :=
  let low := if m = Nat.pow 2 52 ∧ q ≠ -1074 then 4 * m - 1 else 4 * m - 2
  ⟨low, 4 * m, 4 * m + 2, m % 2 = 0⟩

/-- An interval in the unit `10 ^ e`: its three points over one
denominator. -/
def Interval.onGrid (i : Interval) (q e : Int) : Interval × Nat :=
  let two : Int := q - 2
  let up := Nat.pow 2 two.toNat * Nat.pow 10 (-e).toNat
  let den := Nat.pow 2 (-two).toNat * Nat.pow 10 e.toNat
  (⟨i.low * up, i.value * up, i.high * up, i.closed⟩, den)

/-- Whether the whole number `n` lies in the interval over the
denominator `den`. -/
def Interval.holds (i : Interval) (den n : Nat) : Bool :=
  if i.closed then i.low ≤ n * den && n * den ≤ i.high
  else i.low < n * den && n * den < i.high

/-- The grid point in the interval that is nearest to its value, if a
neighbour of the value lies in it. With `tieUp` a value halfway between
both goes to the larger, without it to the even one. -/
def Interval.pick (tieUp : Bool) (i : Interval) (den : Nat) : Option Nat :=
  let c := i.value / den
  let below := c ≠ 0 && i.holds den c
  let above := i.holds den (c + 1)
  if below && above then
    let left := i.value - c * den
    let right := (c + 1) * den - i.value
    if left < right then some c
    else if right < left then some (c + 1)
    else if tieUp || c % 2 = 1 then some (c + 1) else some c
  else if below then some c
  else if above then some (c + 1)
  else none

/-- The first grid with a hit, from the coarsest on: `fuel` grids
remain, the next one has the unit `10 ^ e`. -/
def firstHit (tieUp : Bool) (i : Interval) (q : Int) : Nat → Int → Option Decimal
  | 0, _ => none
  | fuel + 1, e =>
    let (g, den) := i.onGrid q e
    match g.pick tieUp den with
    | some n => some ⟨n, e⟩
    | none => firstHit tieUp i q fuel (e - 1)

/-- A number of the same value whose last digit is not zero. -/
def stripped : Nat → Nat → Int → Decimal
  | 0, n, e => ⟨n, e⟩
  | fuel + 1, n, e => if n % 10 = 0 ∧ n ≠ 0 then stripped fuel (n / 10) (e + 1) else ⟨n, e⟩

/-- The exponent of a power of ten above the positive number
`m * 2 ^ q`, at most one place too large. -/
def places (m : Nat) (q : Int) : Int :=
  if 0 ≤ q then ((digitsOf (m * Nat.pow 2 q.toNat)).length : Int)
  else
    let k := (-q).toNat
    -- 10 ^ j * m / 2 ^ k is at least one for a large enough j
    let j := k * 302 / 1000 + 1
    ((digitsOf (m * Nat.pow 10 j / Nat.pow 2 k)).length : Int) - j

/-- The decimal number of fewest digits that reads back as the finite
positive double, and the nearest of those. -/
def shortest (tieUp : Bool) (x : Binary64) : Decimal :=
  let (m, q) := x.parts
  match firstHit tieUp (intervalOf m q) q 20 (places m q) with
  | some d => stripped 20 d.digits d.exponent
  | none => ⟨0, 0⟩

end Decimal

end ApiGateway
