import ApiGateway.Http.Token
import ApiGateway.Text.Blank
import ApiGateway.Text.Utf8
/-!
# HTTP — headers

Headers are pairs of a name in lower case and a value of bytes, in the
order in which they came. A name may repeat; where one value is asked
for it is the first.
-/

namespace ApiGateway

namespace Http

/-- Names in lower case with their values. -/
abbrev Headers := List (String × List UInt8)

namespace Headers

/-- Whether a byte may stand in a value: any but a control byte, and
tab. -/
def isValueByte (b : UInt8) : Bool := (32 ≤ b && b ≠ 127) || b = 9

/-- Whether a byte is visible ASCII, space or tab. -/
def isTextByte (b : UInt8) : Bool := (32 ≤ b && b < 127) || b = 9

/-- A header as it is given, if it is well formed. -/
def entry? (name : String) (value : List UInt8) : Option (String × List UInt8) :=
  if isToken name ∧ value.all isValueByte then some (name.asciiLower, value) else none

/-- The values of a name, which is compared in lower case. -/
def values (h : Headers) (name : String) : List (List UInt8) :=
  (h.filter fun e => e.1 = name.asciiLower).map (·.2)

/-- The first value of a name. -/
def first? (h : Headers) (name : String) : Option (List UInt8) := (h.values name).head?

/-- Whether a name is there. -/
def has (h : Headers) (name : String) : Bool := (h.first? name).isSome

/-- A value as a text, if all its bytes are text bytes. -/
def asText? (value : List UInt8) : Option String :=
  if value.all isTextByte then String.ofUtf8? value else none

/-- The first value of a name as a text. -/
def text? (h : Headers) (name : String) : Option String := (h.first? name).bind asText?

/-- The headers with one more value of a name. -/
def add (h : Headers) (name : String) (value : List UInt8) : Headers := h ++ [(name, value)]

/-- The headers with one value of a name, in place of any others. -/
def set (h : Headers) (name : String) (value : List UInt8) : Headers :=
  (h.filter fun e => e.1 ≠ name) ++ [(name, value)]

end Headers

end Http

end ApiGateway
