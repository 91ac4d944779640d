import ApiGateway.Json.Basic
import ApiGateway.Text.Quoted
/-!
# JSON — compact text

A value is written on one line without spaces, members in their order.
Inside a string the double quote, the backslash and the control
characters below U+0020 are escaped, five of these by a letter; all
other characters stand for themselves.
-/

namespace ApiGateway

namespace Json

/-- How one character stands inside a string. -/
def escaped (c : Char) : List Char :=
  if c = '"' ∨ c = '\\' then ['\\', c]
  else if 0x20 ≤ c.toNat then [c]
  else if c = '\n' then ['\\', 'n']
  else if c = '\r' then ['\\', 'r']
  else if c = '\t' then ['\\', 't']
  else if c.toNat = 8 then ['\\', 'b']
  else if c.toNat = 12 then ['\\', 'f']
  else ['\\', 'u', '0', '0', (c.toNat / 16).digitChar, (c.toNat % 16).digitChar]

/-- A string with its quotes. -/
def quotedString (s : String) : List Char := '"' :: s.toList.flatMap escaped ++ ['"']

/-- The text of a number. -/
def Number.text : Number → List Char
  | .int n => if n < 0 then '-' :: Decimal.digitsOf n.natAbs else Decimal.digitsOf n.natAbs
  | .double x => Layout.json.text x

/-- The compact text of a value. -/
def text : Json → List Char
  | .null => ['n', 'u', 'l', 'l']
  | .bool true => ['t', 'r', 'u', 'e']
  | .bool false => ['f', 'a', 'l', 's', 'e']
  | .number n => n.text
  | .string s => quotedString s
  | .array xs => '[' :: elementsText xs ++ [']']
  | .object ms => '\x7b' :: membersText ms ++ ['\x7d']
where
  elementsText : List Json → List Char
    | [] => []
    | [x] => x.text
    | x :: y :: xs => x.text ++ ',' :: elementsText (y :: xs)
  membersText : List (String × Json) → List Char
    | [] => []
    | [(k, x)] => quotedString k ++ ':' :: x.text
    | (k, x) :: m :: ms => quotedString k ++ ':' :: x.text ++ ',' :: membersText (m :: ms)

/-- The compact text of a value as a string. -/
def render (j : Json) : String := String.ofList j.text

end Json

end ApiGateway
