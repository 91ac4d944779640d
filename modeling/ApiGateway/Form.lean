import ApiGateway.OrderedMap
import ApiGateway.Text.Pieces
import ApiGateway.Text.Utf8
/-!
# Form — pairs of a query or a form body

A query string and a form body hold pairs: they are cut at `&`, empty
pieces are skipped, and each piece is cut at its first `=`. A plus
stands for a space and `%XX` for a byte; a percent sign without two
hexadecimal digits stands for itself. Names and values are UTF-8, read
lossily. `Form.grouped` collects the values of a name that repeats.
-/

namespace ApiGateway

namespace Form

/-- The value of a hexadecimal digit. -/
def hexValue? (b : UInt8) : Option UInt8 :=
  if 0x30 ≤ b ∧ b ≤ 0x39 then some (b - 0x30)
  else if 0x41 ≤ b ∧ b ≤ 0x46 then some (b - 0x37)
  else if 0x61 ≤ b ∧ b ≤ 0x66 then some (b - 0x57)
  else none

/-- The byte of two hexadecimal digits. -/
def hexByte? (a b : UInt8) : Option UInt8 :=
  match hexValue? a, hexValue? b with
  | some x, some y => some (x * 16 + y)
  | _, _ => none

/-- The bytes with every valid `%XX` replaced by its byte. -/
def decodePercent : List UInt8 → List UInt8
  | [] => []
  | 0x25 :: a :: b :: more =>
    match hexByte? a b with
    | some v => v :: decodePercent more
    | none => 0x25 :: decodePercent (a :: b :: more)
  | c :: rest => c :: decodePercent rest

/-- The text of a name or a value. -/
def decodePiece (bytes : List UInt8) : String :=
  String.ofUtf8Lossy (decodePercent (bytes.map fun b => if b = 0x2B then 0x20 else b))

/-- The pair of one piece; without `=` the value is empty. -/
def pair (piece : List UInt8) : String × String :=
  match Text.cutFirst 0x3D piece with
  | some (name, value) => (decodePiece name, decodePiece value)
  | none => (decodePiece piece, "")

/-- The pairs of a query or a form body, in order. -/
def pairs (bytes : List UInt8) : List (String × String) :=
  ((Text.pieces 0x26 bytes).filter fun p => p ≠ []).map pair

/-- The values of every name, names in order of first appearance and
values in order. -/
def grouped (ps : List (String × String)) : OrderedMap String (List String) :=
  ps.foldl (fun m p => OrderedMap.alter m p.1 fun vs => vs.getD [] ++ [p.2]) []

/-- The grouped pairs of a query or a form body. -/
def parse (bytes : List UInt8) : OrderedMap String (List String) := grouped (pairs bytes)

end Form

end ApiGateway
