import ApiGateway.Text.Hidden
/-!
# Text — a text between double quotes

Messages show a text that may hold anything between double quotes, on
one line and in visible characters only. The double quote and the
backslash get a backslash; the null character, tab, line feed and
carriage return have letters; any other hidden character is written as
its code point in lower-case hexadecimal, as in \u{200b}.
-/

namespace ApiGateway

namespace Text

/-- The lower-case hexadecimal digits of a number, without leading
zeros. -/
def hexDigits (n : Nat) : List Char := Nat.toDigits 16 n

/-- How one character stands inside the quotes. -/
def quotedChar (c : Char) : List Char :=
  if c = '"' ∨ c = '\\' then ['\\', c]
  else if c = '\x00' then ['\\', '0']
  else if c = '\t' then ['\\', 't']
  else if c = '\n' then ['\\', 'n']
  else if c = '\r' then ['\\', 'r']
  else if isHidden c then ['\\', 'u', '\x7b'] ++ hexDigits c.toNat ++ ['\x7d']
  else [c]

/-- The text between double quotes. -/
def quoted (s : List Char) : List Char := '"' :: s.flatMap quotedChar ++ ['"']

end Text

end ApiGateway

namespace String

/-- The string between double quotes, on one line and visible. -/
def quoted (s : String) : String := ofList (ApiGateway.Text.quoted s.toList)

end String
