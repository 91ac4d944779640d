/-!
# URLs — labels beyond ASCII

A label with characters beyond ASCII is written with its ASCII characters
first, followed by the insertions that bring in the others, in the order
of their code points. An insertion is a number in a positional notation
of 36 digits whose last digit lies below a threshold; the thresholds
follow a bias that adapts to the sizes of the insertions before it.
-/

namespace ApiGateway

namespace Punycode

/-- The digits are the letters and then the decimal digits. -/
def digitChar (d : Nat) : Char :=
  if d < 26 then Char.ofNat ('a'.toNat + d) else Char.ofNat ('0'.toNat + (d - 26))

/-- The value of a digit, letters in either case. -/
def digitValue? (c : Char) : Option Nat :=
  if c.isLower then some (c.toNat - 'a'.toNat)
  else if c.isUpper then some (c.toNat - 'A'.toNat)
  else if c.isDigit then some (c.toNat - '0'.toNat + 26)
  else none

/-- The threshold of the digit at a position, counted in steps of 36. -/
def threshold (bias position : Nat) : Nat := min (max (position - bias) 1) 26

theorem threshold_bounds (bias position : Nat) :
    1 ≤ threshold bias position ∧ threshold bias position ≤ 26 := by
  unfold threshold; omega

/-- A number as the digits from a position on, the lowest first. -/
def digits (bias position n : Nat) : List Char :=
  let t := threshold bias position
  if n < t then [digitChar n]
  else digitChar (t + (n - t) % (36 - t)) :: digits bias (position + 36) ((n - t) / (36 - t))
termination_by n
decreasing_by
  have := threshold_bounds bias position
  exact Nat.lt_of_le_of_lt (Nat.div_le_self _ _) (by omega)

/-- The number of digits from a position on with their weights, and what
follows it. -/
def number? (bias position weight sum : Nat) : List Char → Option (Nat × List Char)
  | [] => none
  | c :: rest =>
    match digitValue? c with
    | none => none
    | some d =>
      let t := threshold bias position
      if d < t then some (sum + d * weight, rest)
      else number? bias (position + 36) (weight * (36 - t)) (sum + d * weight) rest

/-- How often a delta has to be divided by 35 to come below 456, as a
position, and what is left of it. -/
def scaledDown (delta position : Nat) : Nat × Nat :=
  if 455 < delta then scaledDown (delta / 35) (position + 36) else (delta, position)
termination_by delta
decreasing_by omega

/-- The bias after an insertion into a label that then has so many
characters. -/
def adaptedBias (delta characters : Nat) (first : Bool) : Nat :=
  let halved := if first then delta / 700 else delta / 2
  let (d, position) := scaledDown (halved + halved / characters) 0
  position + 36 * d / (d + 38)

/-- What the writer holds: the distance to the next insertion, the bias,
how many characters are in place, and the text so far. -/
structure Writer where
  delta : Nat
  bias : Nat
  placed : Nat
  text : List Char

/-- One character of the label while the code point `point` is being
inserted. -/
def Writer.pass (ascii point : Nat) (w : Writer) (c : Char) : Writer :=
  if c.toNat < point then { w with delta := w.delta + 1 }
  else if c.toNat = point then
    { delta := 0
      bias := adaptedBias w.delta (w.placed + 1) (w.placed = ascii)
      placed := w.placed + 1
      text := w.text ++ digits w.bias 36 w.delta }
  else w

/-- The insertions of the code points of a list in ascending order, each
of which is at least `next`. -/
def insertions (label : List Char) (ascii : Nat) : List Nat → Nat → Writer → Writer
  | [], _, w => w
  | point :: points, next, w =>
    let start := { w with delta := w.delta + (point - next) * (w.placed + 1) }
    let done := label.foldl (Writer.pass ascii point) start
    insertions label ascii points (point + 1) { done with delta := done.delta + 1 }

/-- Whether a character is of ASCII. -/
def isAscii (c : Char) : Bool := c.toNat < 128

/-- The written form of a label. -/
def encode (label : List Char) : List Char :=
  let ascii := label.filter isAscii
  let points := (((label.filter fun c => !isAscii c).map Char.toNat).mergeSort).eraseDups
  let head := if ascii = [] then [] else ascii ++ ['-']
  head ++ (insertions label ascii.length points 128 ⟨0, 72, ascii.length, []⟩).text

/-- The label with the insertions of a text made: `point` and `index` are
where the last one was. Every insertion takes a character of the text,
so its length bounds them. -/
def inserted? : Nat → List Char → List Char → Nat → Nat → Nat → Bool → Option (List Char)
  | _, label, [], _, _, _, _ => some label
  | 0, _, _ :: _, _, _, _, _ => none
  | fuel + 1, label, text, point, index, bias, first =>
    match number? bias 36 1 0 text with
    | none => none
    | some (delta, rest) =>
      let places := label.length + 1
      let total := index + delta
      let next := point + total / places
      let at_ := total % places
      if next.isValidChar then
        inserted? fuel (label.take at_ ++ Char.ofNat next :: label.drop at_) rest next (at_ + 1)
          (adaptedBias delta places first) false
      else none

/-- The label of a written form. -/
def decode? (text : List Char) : Option (List Char) :=
  let tail := (text.reverse.takeWhile (· ≠ '-')).reverse
  let head := text.take (text.length - tail.length - 1)
  if head.all isAscii then inserted? tail.length head tail 128 0 72 true else none

end Punycode

end ApiGateway
