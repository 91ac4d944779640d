import ApiGateway.Json.Basic
import ApiGateway.Decimal.Reader
import ApiGateway.Text.Utf8
/-!
# JSON — reading a text

Reading goes in two stages. The first, `Source.parse?`, follows the
grammar alone: it delimits strings and numbers and nests arrays and
objects, and leaves what is inside a string or a number as it is
written. The second, `Source.toJson?`, gives the value that such a tree
denotes and refuses what no value can hold: bytes that are not UTF-8,
lone surrogates, numbers past the largest double and more than 127
nested arrays and objects. A part of a text that is never looked at is
held to the grammar alone.
-/

namespace ApiGateway

namespace Json

/-- The tree of a text before its strings and numbers are read. -/
inductive Source where
  | null
  | bool (b : Bool)
  | number (written : List Char)
  /-- The bytes between the quotes, with their escapes. -/
  | string (written : List UInt8)
  | array (elements : List Source)
  | object (members : List (List UInt8 × Source))
  deriving Inhabited

/-- Arrays and objects may be nested this deep. -/
def maxDepth : Nat := 127

namespace Source

/-- Space, line feed, carriage return and tab separate the tokens. -/
def isSpace (b : UInt8) : Bool := b = 0x20 || b = 0x0A || b = 0x0D || b = 0x09

def skip (s : List UInt8) : List UInt8 := s.dropWhile isSpace

def isDigit (b : UInt8) : Bool := 0x30 ≤ b && b ≤ 0x39

def isHexDigit (b : UInt8) : Bool :=
  isDigit b || (0x41 ≤ b && b ≤ 0x46) || (0x61 ≤ b && b ≤ 0x66)

/-- The value of a hexadecimal digit. -/
def hexValue (b : UInt8) : Nat :=
  if isDigit b then b.toNat - 0x30
  else if b ≤ 0x46 then b.toNat - 0x37
  else b.toNat - 0x57

/-- Whether a letter may follow a backslash, four hexadecimal digits
apart. -/
def isEscapeLetter (b : UInt8) : Bool :=
  [0x22, 0x5C, 0x2F, 0x62, 0x66, 0x6E, 0x72, 0x74].contains b

/-- The bytes of a string up to its closing quote, and what follows the
quote. Control bytes and unknown escapes are errors. -/
def stringBody : List UInt8 → Option (List UInt8 × List UInt8)
  | [] => none
  | 0x22 :: rest => some ([], rest)
  | 0x5C :: 0x75 :: a :: b :: c :: d :: rest =>
    if isHexDigit a && isHexDigit b && isHexDigit c && isHexDigit d then
      (stringBody rest).map fun p => (0x5C :: 0x75 :: a :: b :: c :: d :: p.1, p.2)
    else none
  | 0x5C :: e :: rest =>
    if isEscapeLetter e then (stringBody rest).map fun p => (0x5C :: e :: p.1, p.2) else none
  | b :: rest =>
    if b < 0x20 ∨ b = 0x5C then none else (stringBody rest).map fun p => (b :: p.1, p.2)

/-- The digits at the start of the bytes, and what follows. -/
def digitRun (s : List UInt8) : List UInt8 × List UInt8 :=
  (s.takeWhile isDigit, s.dropWhile isDigit)

/-- An exponent of a number, which may be absent. -/
def exponentPart (s : List UInt8) : Option (List UInt8 × List UInt8) :=
  match s with
  | e :: rest =>
    if e = 0x65 ∨ e = 0x45 then
      let (sign, body) : List UInt8 × List UInt8 :=
        match rest with
        | 0x2B :: more => ([0x2B], more)
        | 0x2D :: more => ([0x2D], more)
        | _ => ([], rest)
      let (digits, after) := digitRun body
      if digits = [] then none else some (e :: sign ++ digits, after)
    else some ([], s)
  | [] => some ([], [])

/-- A fraction of a number, which may be absent. -/
def fractionPart (s : List UInt8) : Option (List UInt8 × List UInt8) :=
  match s with
  | 0x2E :: rest =>
    let (digits, after) := digitRun rest
    if digits = [] then none else some (0x2E :: digits, after)
  | _ => some ([], s)

/-- A number at the start of the bytes, as it is written, and what
follows it. A leading zero stands alone. -/
def numberBody (s : List UInt8) : Option (List Char × List UInt8) := do
  let (sign, body) : List UInt8 × List UInt8 :=
    match s with
    | 0x2D :: rest => ([0x2D], rest)
    | _ => ([], s)
  let (whole, afterWhole) := digitRun body
  match whole with
  | [] => none
  | 0x30 :: _ :: _ => none
  | _ =>
    let (fraction, afterFraction) ← fractionPart afterWhole
    let (power, rest) ← exponentPart afterFraction
    return ((sign ++ whole ++ fraction ++ power).map fun b => Char.ofNat b.toNat, rest)

/-- What follows the given bytes, if the text starts with them. -/
def expect (word : List UInt8) (s : List UInt8) : Option (List UInt8) :=
  if s.take word.length = word then some (s.drop word.length) else none

mutual

/-- A value at the start of the bytes, and what follows it. -/
def value : Nat → List UInt8 → Option (Source × List UInt8)
  | 0, _ => none
  | fuel + 1, s =>
    match skip s with
    | [] => none
    | 0x22 :: rest => (stringBody rest).map fun p => (.string p.1, p.2)
    | 0x5B :: rest =>
      match skip rest with
      | 0x5D :: after => some (.array [], after)
      | other => (elements fuel other).map fun p => (.array p.1, p.2)
    | 0x7B :: rest =>
      match skip rest with
      | 0x7D :: after => some (.object [], after)
      | other => (members fuel other).map fun p => (.object p.1, p.2)
    | 0x6E :: rest => (expect [0x75, 0x6C, 0x6C] rest).map fun r => (.null, r)
    | 0x74 :: rest => (expect [0x72, 0x75, 0x65] rest).map fun r => (.bool true, r)
    | 0x66 :: rest => (expect [0x61, 0x6C, 0x73, 0x65] rest).map fun r => (.bool false, r)
    | other => (numberBody other).map fun p => (.number p.1, p.2)

/-- The elements of an array up to its closing bracket. -/
def elements : Nat → List UInt8 → Option (List Source × List UInt8)
  | 0, _ => none
  | fuel + 1, s =>
    match value fuel s with
    | none => none
    | some (v, after) =>
      match skip after with
      | 0x2C :: rest => (elements fuel rest).map fun p => (v :: p.1, p.2)
      | 0x5D :: rest => some ([v], rest)
      | _ => none

/-- The members of an object up to its closing brace. -/
def members : Nat → List UInt8 → Option (List (List UInt8 × Source) × List UInt8)
  | 0, _ => none
  | fuel + 1, s =>
    match skip s with
    | 0x22 :: keyStart =>
      match stringBody keyStart with
      | none => none
      | some (key, afterKey) =>
        match skip afterKey with
        | 0x3A :: valueStart =>
          match value fuel valueStart with
          | none => none
          | some (v, after) =>
            match skip after with
            | 0x2C :: rest => (members fuel rest).map fun p => ((key, v) :: p.1, p.2)
            | 0x7D :: rest => some ([(key, v)], rest)
            | _ => none
        | _ => none
    | _ => none

end

/-- The tree of a whole text: one value with nothing but spaces around
it. Every step consumes a byte, so the length bounds the depth. -/
def parse? (s : List UInt8) : Option Source :=
  match value (s.length + 1) s with
  | some (v, rest) => if skip rest = [] then some v else none
  | none => none

/-- The character of an escape letter. -/
def escapeChar (b : UInt8) : UInt8 :=
  if b = 0x62 then 8
  else if b = 0x66 then 12
  else if b = 0x6E then 10
  else if b = 0x72 then 13
  else if b = 0x74 then 9
  else b

def hexUnit (a b c d : UInt8) : Nat :=
  ((hexValue a * 16 + hexValue b) * 16 + hexValue c) * 16 + hexValue d

/-- The bytes that the written bytes of a string denote. A high
surrogate has to be followed by a low one, and a low one is nowhere
else. -/
def unescape : List UInt8 → Option (List UInt8)
  | [] => some []
  | 0x5C :: 0x75 :: a :: b :: c :: d :: rest =>
    let unit := hexUnit a b c d
    if unit < 0xD800 ∨ 0xE000 ≤ unit then
      (unescape rest).map (String.utf8EncodeChar (Char.ofNat unit) ++ ·)
    else if 0xDC00 ≤ unit then none
    else
      match rest with
      | 0x5C :: 0x75 :: e :: f :: g :: h :: more =>
        let low := hexUnit e f g h
        if 0xDC00 ≤ low ∧ low < 0xE000 then
          let point := 0x10000 + (unit - 0xD800) * 0x400 + (low - 0xDC00)
          (unescape more).map (String.utf8EncodeChar (Char.ofNat point) ++ ·)
        else none
      | _ => none
  | 0x5C :: e :: rest => (unescape rest).map (escapeChar e :: ·)
  | b :: rest => (unescape rest).map (b :: ·)

/-- The text of a string. -/
def stringText? (written : List UInt8) : Option String :=
  (unescape written).bind String.ofUtf8?

/-- The significand that is kept of a run of digits: as many leading
digits as fit 64 bits, and the number of digits that are left over. -/
def significand (digits : List Char) : Nat × Nat :=
  go 0 digits
where
  go (n : Nat) : List Char → Nat × Nat
    | [] => (n, 0)
    | c :: rest =>
      let next := 10 * n + (c.toNat - '0'.toNat)
      if next < Nat.pow 2 64 then go next rest else (n, rest.length + 1)

/-- A significand scaled by a power of ten: it is rounded to a double
first, then multiplied or divided by powers of up to `10 ^ 308`, each
step rounding. `none` past the largest double. -/
def scale (significand : Nat) (exponent : Int) : Option Binary64 :=
  let x := Binary64.ofInt significand
  if 0 ≤ exponent then
    if exponent ≤ 308 then
      let y := x.mul (.powerOfTen exponent.toNat)
      if y.isFinite then some y else none
    else if significand = 0 then some x else none
  else down 4 x (-exponent).toNat
where
  down : Nat → Binary64 → Nat → Option Binary64
    | 0, x, _ => some x
    | fuel + 1, x, k =>
      if k ≤ 308 then some (x.div (.powerOfTen k))
      else if x.magnitude = 0 then some x
      else down fuel (x.div (.powerOfTen 308)) (k - 308)

/-- The number that a written number denotes, `none` past the largest
double. -/
def numberValue? (written : List Char) : Option Number :=
  let (negative, body) := Decimal.sign written
  let (whole, rest) := Decimal.digitRun body
  let (fraction, power) :=
    match rest with
    | '.' :: more => Decimal.digitRun more
    | _ => ([], rest)
  let signed (x : Binary64) : Number := .double (if negative then x.neg else x)
  if fraction = [] ∧ power = [] then
    let n := Decimal.ofDigits whole
    if negative then
      if 0 < n ∧ n ≤ Nat.pow 2 63 then some (.int (-(n : Int)))
      else
        let (kept, left) := significand whole
        (scale kept left).map signed
    else if n < Nat.pow 2 64 then some (.int n)
    else
      let (kept, left) := significand whole
      (scale kept left).map signed
  else
    let (keptWhole, leftWhole) := significand whole
    let (kept, used) :=
      if leftWhole = 0 then
        let (n, left) := significand (whole ++ fraction)
        (n, fraction.length - left)
      else fractionAfter keptWhole fraction
    let exponent : Int := (leftWhole : Int) - used
    match Decimal.exponentPart power with
    | none => none
    | some e => (scale kept (exponent + e)).map signed
where
  /-- Digits of a fraction that still fit after a whole part that did
  not. -/
  fractionAfter (n : Nat) : List Char → Nat × Nat
    | [] => (n, 0)
    | c :: rest =>
      let next := 10 * n + (c.toNat - '0'.toNat)
      if next < Nat.pow 2 64 then
        let (m, used) := fractionAfter next rest
        (m, used + 1)
      else (n, 0)

/-- The value of a tree that stands inside `depth` arrays and objects. -/
def toJson? (depth : Nat) : Source → Option Json
  | .null => some .null
  | .bool b => some (.bool b)
  | .number w => (numberValue? w).map .number
  | .string w => (stringText? w).map .string
  | .array xs => if depth < maxDepth then (elementValues (depth + 1) xs).map .array else none
  | .object ms =>
    if depth < maxDepth then
      (memberValues (depth + 1) ms).map fun vs => .object (OrderedMap.ofPairs vs)
    else none
where
  elementValues (depth : Nat) : List Source → Option (List Json)
    | [] => some []
    | x :: xs =>
      match x.toJson? depth, elementValues depth xs with
      | some v, some vs => some (v :: vs)
      | _, _ => none
  memberValues (depth : Nat) : List (List UInt8 × Source) → Option (List (String × Json))
    | [] => some []
    | (k, x) :: ms =>
      match stringText? k, x.toJson? depth, memberValues depth ms with
      | some key, some v, some vs => some ((key, v) :: vs)
      | _, _, _ => none

end Source

/-- The value of a text given by its bytes. -/
def parse? (bytes : List UInt8) : Option Json := (Source.parse? bytes).bind (Source.toJson? 0)

/-- The value of a text. -/
def ofText? (s : String) : Option Json := parse? s.utf8

end Json

end ApiGateway
