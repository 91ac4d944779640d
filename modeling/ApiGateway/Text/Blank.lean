/-!
# Text — blanks, and the ends of a text

A text is handled as its list of characters. Blanks are the twenty-five
characters with the Unicode property `White_Space`, a larger set than
the four that core's `Char.isWhitespace` knows. Trimming drops blanks
from one end or from both and never touches the inside.
-/

namespace ApiGateway

namespace Text

/-- The characters with the property `White_Space`. -/
def isBlank (c : Char) : Bool :=
  let n := c.toNat
  (9 ≤ n && n ≤ 13) || n == 0x20 || n == 0x85 || n == 0xA0 || n == 0x1680
    || (0x2000 ≤ n && n ≤ 0x200A) || n == 0x2028 || n == 0x2029 || n == 0x202F
    || n == 0x205F || n == 0x3000

/-- Every blank of core's class is a blank here. -/
theorem isBlank_of_isWhitespace {c : Char} (h : c.isWhitespace = true) : isBlank c = true := by
  simp only [Char.isWhitespace, Bool.or_eq_true, decide_eq_true_eq] at h
  rcases h with ((h | h) | h) | h <;> subst h <;> decide

/-- The text without its leading blanks. -/
def trimStart (s : List Char) : List Char := s.dropWhile isBlank

/-- The text without its trailing blanks. -/
def trimEnd (s : List Char) : List Char := (s.reverse.dropWhile isBlank).reverse

/-- The text without the blanks at either end. -/
def trim (s : List Char) : List Char := trimEnd (trimStart s)

/-- The ASCII letters in lower case; every other character stays. -/
def lower (s : List Char) : List Char := s.map Char.toLower

/-- The ASCII letters in upper case; every other character stays. -/
def upper (s : List Char) : List Char := s.map Char.toUpper

end Text

end ApiGateway

namespace String

/-- The string without the blanks at either end. -/
def trimBlanks (s : String) : String := ofList (ApiGateway.Text.trim s.toList)

/-- The string with its ASCII letters in lower case. -/
def asciiLower (s : String) : String := ofList (ApiGateway.Text.lower s.toList)

/-- The string with its ASCII letters in upper case. -/
def asciiUpper (s : String) : String := ofList (ApiGateway.Text.upper s.toList)

/-- Equality of strings up to the case of ASCII letters. -/
def sameAsciiCase (s t : String) : Bool := s.asciiLower == t.asciiLower

end String
