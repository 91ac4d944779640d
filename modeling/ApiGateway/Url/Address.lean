import ApiGateway.Text.Blank
import ApiGateway.Text.Pieces
/-!
# URLs — hosts that are addresses

A host whose last piece is a number is an IPv4 address: up to four
pieces, each decimal, octal or hexadecimal, of which the last fills all
the bytes that are left. A host between brackets is an IPv6 address. Both
have one written form.
-/

namespace ApiGateway

namespace Url

/-- The value of a hexadecimal digit. -/
def hexDigit? (c : Char) : Option Nat :=
  if c.isDigit then some (c.toNat - '0'.toNat)
  else if 'a' ≤ c ∧ c ≤ 'f' then some (c.toNat - 'a'.toNat + 10)
  else if 'A' ≤ c ∧ c ≤ 'F' then some (c.toNat - 'A'.toNat + 10)
  else none

/-- The number that digits denote in a base, none if one of them is no
digit of the base. -/
def numberIn? (base : Nat) (s : List Char) : Option Nat :=
  s.foldlM (fun n c => (hexDigit? c).bind fun d => if d < base then some (n * base + d) else none) 0

namespace Ipv4

/-- The number of one piece; the beginnings `0x` and `0` tell the base. -/
def piece? : List Char → Option Nat
  | [] => none
  | '0' :: 'x' :: rest => numberIn? 16 rest
  | '0' :: 'X' :: rest => numberIn? 16 rest
  | '0' :: c :: rest => numberIn? 8 (c :: rest)
  | s => numberIn? 10 s

/-- The pieces between the dots, without an empty one at the end. -/
def pieces (s : List Char) : List (List Char) :=
  let ps := Text.pieces '.' s
  if ps.length ≠ 1 ∧ ps.getLast? = some [] then ps.dropLast else ps

/-- Whether a host is an IPv4 address or else invalid: its last piece
consists of digits or is a number. -/
def isMeant (s : List Char) : Bool :=
  match (pieces s).getLast? with
  | some last => (last ≠ [] && last.all Char.isDigit) || (piece? last).isSome
  | none => false

/-- The address of its pieces' numbers: each fills one byte, the last all
that are left. -/
def ofNumbers? (numbers : List Nat) : Option Nat :=
  let leading := numbers.dropLast
  match numbers.getLast? with
  | none => none
  | some last =>
    let bound := Nat.pow 256 (4 - leading.length)
    if 4 < numbers.length ∨ leading.any (255 < ·) ∨ bound ≤ last then none
    else some (leading.zipIdx.foldl (fun n p => n + p.1 * Nat.pow 256 (3 - p.2)) last)

/-- The address that a host denotes. -/
def parse? (s : List Char) : Option Nat := ((pieces s).mapM piece?).bind ofNumbers?

/-- The address in four decimal bytes. -/
def text (address : Nat) : List Char :=
  Text.join ['.'] ([3, 2, 1, 0].map fun i => Nat.toDigits 10 (address / Nat.pow 256 i % 256))

end Ipv4

namespace Ipv6

/-- A group of one to four hexadecimal digits. -/
def group? (s : List Char) : Option Nat :=
  if s = [] ∨ 4 < s.length then none else numberIn? 16 s

/-- A decimal byte without leading zeros. -/
def byte? (s : List Char) : Option Nat :=
  if s = [] ∨ 3 < s.length ∨ (s.head? = some '0' ∧ s.length ≠ 1) then none
  else (numberIn? 10 s).bind fun n => if n < 256 then some n else none

/-- Two groups written as an IPv4 address. -/
def dotted? (s : List Char) : Option (List Nat) :=
  match (Text.pieces '.' s).mapM byte? with
  | some [a, b, c, d] => some [a * 256 + b, c * 256 + d]
  | _ => none

/-- The groups between colons; the last one may be dotted if
`mayBeDotted`. -/
def groups? (mayBeDotted : Bool) : List (List Char) → Option (List Nat)
  | [] => some []
  | [last] =>
    match group? last with
    | some g => some [g]
    | none => if mayBeDotted then dotted? last else none
  | first :: rest =>
    match group? first, groups? mayBeDotted rest with
    | some g, some gs => some (g :: gs)
    | _, _ => none

/-- The pieces between colons, none for an empty text. -/
def pieces (s : List Char) : List (List Char) := if s = [] then [] else Text.pieces ':' s

/-- The text before and after the first `::`. -/
def cutDouble : List Char → Option (List Char × List Char)
  | ':' :: ':' :: rest => some ([], rest)
  | c :: rest => (cutDouble rest).map fun p => (c :: p.1, p.2)
  | [] => none

/-- The eight groups that a text denotes; `::` stands for one group of
zeros or more. -/
def parse? (s : List Char) : Option (List Nat) :=
  match cutDouble s with
  | none =>
    (groups? true (pieces s)).bind fun gs => if gs.length = 8 then some gs else none
  | some (head, tail) =>
    match groups? false (pieces head), groups? true (pieces tail) with
    | some hs, some ts =>
      if hs.length + ts.length ≤ 7 then
        some (hs ++ List.replicate (8 - hs.length - ts.length) 0 ++ ts)
      else none
    | _, _ => none

/-- How many zeros a list begins with. -/
def zeroRun (gs : List Nat) : Nat := (gs.takeWhile (· = 0)).length

/-- Start and length of the first of the longest runs of zeros. -/
def longestRun (gs : List Nat) : Nat × Nat :=
  (List.range gs.length).foldl
    (fun best i => if best.2 < zeroRun (gs.drop i) then (i, zeroRun (gs.drop i)) else best) (0, 0)

/-- Groups with colons between them. -/
def joined (gs : List Nat) : List Char := Text.join [':'] (gs.map (Nat.toDigits 16))

/-- The address between brackets; the first of the longest runs of at
least two zeros is written as `::`. -/
def text (gs : List Nat) : List Char :=
  let (start, length) := longestRun gs
  let body :=
    if length < 2 then joined gs
    else joined (gs.take start) ++ [':', ':'] ++ joined (gs.drop (start + length))
  '[' :: body ++ [']']

end Ipv6

end Url

end ApiGateway
