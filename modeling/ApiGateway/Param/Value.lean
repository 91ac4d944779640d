import ApiGateway.Calendar.Basic
import ApiGateway.Json.Printer
import ApiGateway.Text.Pieces
import ApiGateway.Text.Utf8
/-!
# Parameters — values

The value of a parameter, before or after it is converted to its
declared type. Every value has a rendering as JSON (`Value.toJson`) and
one as a text (`Value.text`).
-/

namespace ApiGateway

/-- The value of a parameter. -/
inductive Value where
  | bool (b : Bool)
  | number (x : Binary64)
  | string (s : String)
  | bytes (b : List UInt8)
  | date (m : Moment)
  | array (elements : List Value)
  | json (j : Json)
  deriving Inhabited

namespace Value

/-- The value of the texts given for one name: the text itself if there
is one, an array of all otherwise. -/
def ofStrings : List String → Value
  | [s] => .string s
  | ss => .array (ss.map .string)

/-- The text of a value that is a string. -/
def asString? : Value → Option String
  | .string s => some s
  | .json (.string s) => some s
  | _ => none

/-- The value as JSON: numbers that are not finite are `null`, bytes are
read as UTF-8, lossily. -/
def toJson : Value → Json
  | .bool b => .bool b
  | .number x => .ofBinary64 x
  | .string s => .string s
  | .bytes b => .string (String.ofUtf8Lossy b)
  | .date m => .string (String.ofList m.text)
  | .array es => .array (elementsJson es)
  | .json j => j
where
  elementsJson : List Value → List Json
    | [] => []
    | e :: es => e.toJson :: elementsJson es

/-- Integers below this size are written without a point or an
exponent, and without the sign of a zero. -/
def integerBound : Nat := Nat.pow 10 15

/-- The text of a number. -/
def numberText (x : Binary64) : List Char :=
  if x.isNaN then ['N', 'a', 'N']
  else if x.isInfinite then if x.isNegative then ['-', 'i', 'n', 'f'] else ['i', 'n', 'f']
  else
    match x.toInt? with
    | some n =>
      if n.natAbs < integerBound then
        (if n < 0 then ['-'] else []) ++ Decimal.digitsOf n.natAbs
      else Layout.plain.text x
    | none => Layout.plain.text x

/-- The value as a text: the elements of an array are joined with
commas, and JSON is written compactly. -/
def text : Value → String
  | .bool b => if b then "true" else "false"
  | .number x => String.ofList (numberText x)
  | .string s => s
  | .bytes b => String.ofUtf8Lossy b
  | .date m => String.ofList m.text
  | .array es => String.joined "," (elementTexts es)
  | .json (.string s) => s
  | .json j => j.render
where
  elementTexts : List Value → List String
    | [] => []
    | e :: es => e.text :: elementTexts es

end Value

end ApiGateway
