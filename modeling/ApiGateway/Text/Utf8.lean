/-!
# Text — UTF-8, strict and lossy

A byte string is read as a list of units: a character, or `none` for
each maximal ill-formed part (the longest run of bytes that begins some
well-formed sequence, or else one byte). The strict reading accepts
well-formed bytes only; the lossy one puts U+FFFD for every ill-formed
part. The reader walks the bytes once with at most one character
pending.
-/

namespace ApiGateway

namespace Utf8

/-- A character begun and not yet complete: how many continuation bytes
are due after the next one, the range the next one has to lie in, and
the bits gathered so far. -/
structure Pending where
  more : Nat
  low : UInt8
  high : UInt8
  bits : Nat

/-- What a byte means where a character may begin. -/
inductive Lead where
  | single (c : Char)
  | opens (p : Pending)
  | bad

/-- The well-formed first bytes, with the narrowed range of the second
byte where overlong forms, surrogates or code points past U+10FFFF
would begin. -/
def lead (b : UInt8) : Lead :=
  let n := b.toNat
  if n < 0x80 then .single (Char.ofNat n)
  else if n < 0xC2 then .bad
  else if n < 0xE0 then .opens ⟨0, 0x80, 0xBF, n - 0xC0⟩
  else if n = 0xE0 then .opens ⟨1, 0xA0, 0xBF, 0⟩
  else if n = 0xED then .opens ⟨1, 0x80, 0x9F, 0xD⟩
  else if n < 0xF0 then .opens ⟨1, 0x80, 0xBF, n - 0xE0⟩
  else if n = 0xF0 then .opens ⟨2, 0x90, 0xBF, 0⟩
  else if n < 0xF4 then .opens ⟨2, 0x80, 0xBF, n - 0xF0⟩
  else if n = 0xF4 then .opens ⟨2, 0x80, 0x8F, 4⟩
  else .bad

/-- The units of a byte string, given the character that is pending. -/
def unitsFrom : Option Pending → List UInt8 → List (Option Char)
  | none, [] => []
  | some _, [] => [none]
  | none, b :: rest =>
    match lead b with
    | .single c => some c :: unitsFrom none rest
    | .opens p => unitsFrom (some p) rest
    | .bad => none :: unitsFrom none rest
  | some p, b :: rest =>
    if p.low ≤ b ∧ b ≤ p.high then
      let bits := p.bits * 64 + (b.toNat - 0x80)
      match p.more with
      | 0 => some (Char.ofNat bits) :: unitsFrom none rest
      | m + 1 => unitsFrom (some ⟨m, 0x80, 0xBF, bits⟩) rest
    else
      match lead b with
      | .single c => none :: some c :: unitsFrom none rest
      | .opens q => none :: unitsFrom (some q) rest
      | .bad => none :: none :: unitsFrom none rest

/-- The characters and ill-formed parts of a byte string, in order. -/
def units (bytes : List UInt8) : List (Option Char) := unitsFrom none bytes

/-- The text of well-formed bytes, `none` for any others. -/
def decode? (bytes : List UInt8) : Option (List Char) := (units bytes).mapM id

/-- The text of any bytes, with U+FFFD for each ill-formed part. -/
def decodeLossy (bytes : List UInt8) : List Char :=
  (units bytes).map fun u => u.getD (Char.ofNat 0xFFFD)

/-- The bytes of a text. -/
def encode (s : List Char) : List UInt8 := s.flatMap String.utf8EncodeChar

end Utf8

end ApiGateway

namespace String

/-- The bytes of a string in UTF-8. -/
def utf8 (s : String) : List UInt8 := ApiGateway.Utf8.encode s.toList

/-- The string of well-formed bytes. -/
def ofUtf8? (bytes : List UInt8) : Option String := (ApiGateway.Utf8.decode? bytes).map ofList

/-- The string of any bytes, with U+FFFD for each ill-formed part. -/
def ofUtf8Lossy (bytes : List UInt8) : String := ofList (ApiGateway.Utf8.decodeLossy bytes)

end String
