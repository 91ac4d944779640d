import ApiGateway.Decimal.Reader
/-!
# Settings — socket addresses

A socket address is an IPv4 address or an IPv6 address between brackets,
followed by a colon and a port. Host names, blanks and numbers out of
range are refused. Nothing but the form of an address is looked at here.
-/

namespace ApiGateway

namespace SocketAddress

/-- The value of a hexadecimal digit. -/
def digit? (base : Nat) (c : Char) : Option Nat :=
  let value :=
    if c.isDigit then c.toNat - '0'.toNat
    else if c.isLower then c.toNat - 'a'.toNat + 10
    else if c.isUpper then c.toNat - 'A'.toNat + 10
    else base
  if value < base then some value else none

/-- What follows a number below `bound`. It has at most `most` digits, if
that is given, and leading zeros only if `zeros`. -/
def afterNumber? (base : Nat) (most : Option Nat) (zeros : Bool) (bound : Nat) (s : List Char) :
    Option (List Char) :=
  let digits := s.takeWhile fun c => (digit? base c).isSome
  let value := digits.foldl (fun n c => n * base + (digit? base c).getD 0) 0
  if digits = [] ∨ most.any (· < digits.length) ∨ bound ≤ value
      ∨ (zeros = false ∧ digits.head? = some '0' ∧ digits.length ≠ 1) then none
  else some (s.drop digits.length)

/-- What follows a character that has to stand there. -/
def after? (c : Char) : List Char → Option (List Char)
  | d :: rest => if d = c then some rest else none
  | [] => none

/-- What follows a separator, except before the first item, which has
none. -/
def afterSeparator? (c : Char) (isFirst : Bool) (s : List Char) : Option (List Char) :=
  if isFirst then some s else after? c s

/-- What follows an IPv4 address. -/
def afterIpv4? (s : List Char) : Option (List Char) :=
  let byte := afterNumber? 10 (some 3) false 256
  (byte s).bind fun s => ((after? '.' s).bind byte).bind fun s =>
    ((after? '.' s).bind byte).bind fun s => (after? '.' s).bind byte

/-- The groups of an IPv6 address at the start of a text, at most `left`
of them: how many there are, whether the last two stand as an IPv4
address, and what follows. -/
def groups : Nat → Bool → List Char → Nat × Bool × List Char
  | 0, _, s => (0, false, s)
  | left + 1, isFirst, s =>
    match (if left = 0 then none else (afterSeparator? ':' isFirst s).bind afterIpv4?) with
    | some rest => (2, true, rest)
    | none =>
      match (afterSeparator? ':' isFirst s).bind (afterNumber? 16 (some 4) true (Nat.pow 2 16)) with
      | none => (0, false, s)
      | some rest =>
        let (n, dotted, after) := groups left false rest
        (n + 1, dotted, after)

/-- What follows an IPv6 address. Where groups are left out, `::` stands
for at least one of them. -/
def afterIpv6? (s : List Char) : Option (List Char) :=
  let (n, dotted, rest) := groups 8 true s
  if n = 8 then some rest
  else if dotted then none
  else ((after? ':' rest).bind (after? ':')).map fun tail => (groups (7 - n) true tail).2.2

/-- What follows a zone after a percent sign, which may be absent. -/
def afterZone (s : List Char) : List Char :=
  ((after? '%' s).bind (afterNumber? 10 none true (Nat.pow 2 32))).getD s

/-- What follows a port. -/
def afterPort? (s : List Char) : Option (List Char) :=
  (after? ':' s).bind (afterNumber? 10 none true (Nat.pow 2 16))

/-- Whether a text is a socket address. -/
def isValid (s : List Char) : Bool :=
  match (afterIpv4? s).bind afterPort? with
  | some rest => rest = []
  | none =>
    (((after? '[' s).bind afterIpv6?).bind fun t =>
      (after? ']' (afterZone t)).bind afterPort?) = some []

end SocketAddress

end ApiGateway
