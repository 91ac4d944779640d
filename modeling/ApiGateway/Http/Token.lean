/-!
# HTTP — tokens

Methods, header names and the parts of a media type are tokens: letters,
digits and fifteen marks of ASCII.
-/

namespace ApiGateway

namespace Http

/-- The marks that may stand in a token. -/
def tokenMarks : List Char :=
  ['!', '#', '$', '%', '&', '\'', '*', '+', '-', '.', '^', '_', Char.ofNat 0x60, '|', '~']

/-- Whether a character may stand in a token. -/
def isTokenChar (c : Char) : Bool := c.isAlphanum || tokenMarks.contains c

/-- Whether a text is a token. -/
def isToken (s : String) : Bool := s ≠ "" && s.toList.all isTokenChar

end Http

end ApiGateway
