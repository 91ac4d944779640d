import ApiGateway.Decimal.Shortest
/-!
# Decimal — the written forms of a double

A written form is a record of decisions: from which size on an exponent
is used, and what a whole number looks like. The two forms of the
gateway are `Layout.json`, in which bodies and contexts are written,
and `Layout.plain`, in which a number becomes the text of a parameter.
-/

namespace ApiGateway

/-- How a finite double is laid out. -/
structure Layout where
  /-- The least and the greatest decimal exponent that are written by
  position; without a pair every number is. -/
  positional : Option (Int × Int)
  /-- Whether a whole number gets a point and a zero. -/
  pointZero : Bool
  /-- Whether a tie between two shortest forms goes to the larger. -/
  tieUp : Bool

namespace Layout

/-- JSON numbers: positional from `1e-5` up to below `1e16`, with a
point; otherwise an exponent with its sign. -/
def json : Layout := ⟨some (-5, 15), true, false⟩

/-- Parameter texts: never an exponent, and no point for a whole
number. -/
def plain : Layout := ⟨none, false, true⟩

/-- Digits by position: `whole` places stand before the point. -/
def byPosition (pointZero : Bool) (digits : List Char) (whole : Int) : List Char :=
  if whole ≤ 0 then
    ['0', '.'] ++ List.replicate (-whole).toNat '0' ++ digits
  else
    let w := whole.toNat
    if digits.length ≤ w then
      digits ++ List.replicate (w - digits.length) '0' ++ (if pointZero then ['.', '0'] else [])
    else digits.take w ++ ['.'] ++ digits.drop w

/-- Digits with an exponent: one digit before the point. -/
def byExponent (digits : List Char) (e : Int) : List Char :=
  digits.take 1 ++ (if digits.length ≤ 1 then [] else '.' :: digits.drop 1)
    ++ ['e', if e < 0 then '-' else '+'] ++ Decimal.digitsOf e.natAbs

/-- The text of a finite double. -/
def text (l : Layout) (x : Binary64) : List Char :=
  let size :=
    if x.magnitude = 0 then byPosition l.pointZero ['0'] 1
    else
      let d := Decimal.shortest l.tieUp x
      let digits := Decimal.digitsOf d.digits
      let e : Int := d.exponent + digits.length - 1
      match l.positional with
      | none => byPosition l.pointZero digits (e + 1)
      | some (least, greatest) =>
        if least ≤ e ∧ e ≤ greatest then byPosition l.pointZero digits (e + 1)
        else byExponent digits e
  if x.isNegative then '-' :: size else size

end Layout

end ApiGateway
