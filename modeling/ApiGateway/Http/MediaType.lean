import ApiGateway.Http.Token
import ApiGateway.Text.Blank
import ApiGateway.Text.Pieces
/-!
# HTTP — media types

A media type is `type/subtype`, followed by parameters after semicolons.
The subtype may be empty where the text ends, and what follows its last
plus is its suffix. Spaces stand only before a parameter and behind a
quoted value. Everything but the values of parameters is compared in
lower case.
-/

namespace ApiGateway

/-- A media type, in lower case. -/
structure MediaType where
  kind : String
  subtype : String
  suffix : Option String
  /-- Names and raw values of the parameters, in order. -/
  parameters : List (String × String)
  deriving DecidableEq, Repr

namespace MediaType

open Http (isTokenChar)

/-- The token at the start of a text, which may be empty, and what
follows it. -/
def tokenRun (s : List Char) : List Char × List Char :=
  (s.takeWhile isTokenChar, s.dropWhile isTokenChar)

/-- A subtype cut at its last plus, unless that is its first
character. -/
def cutSuffix (s : List Char) : List Char × Option (List Char) :=
  match Text.cutLast '+' s with
  | none => (s, none)
  | some ([], _) => (s, none)
  | some (body, suffix) => (body, some suffix)

/-- Whether a character may stand between quotes. -/
def isQuotable (c : Char) : Bool := 31 < c.toNat && c.toNat ≠ 127

/-- A quoted value after its opening quote. A quote that comes at once
belongs to the value; the next one ends it. -/
def quotedValue? : List Char → Option (List Char × List Char)
  | [] => none
  | first :: rest =>
    let body := rest.takeWhile fun c => isQuotable c && c ≠ '"'
    match rest.dropWhile fun c => isQuotable c && c ≠ '"' with
    | '"' :: after => if isQuotable first then some (first :: body, after) else none
    | _ => none

/-- The value of a parameter and the text of the parameters that follow
it. A value without quotes is a token, and empty only where the text
ends. -/
def value? (s : List Char) : Option (List Char × List Char) :=
  match s with
  | '"' :: inside => do
    let (value, after) ← quotedValue? inside
    match after.dropWhile (· = ' ') with
    | [] => some (value, [])
    | ';' :: rest => some (value, rest)
    | _ => none
  | _ =>
    match tokenRun s with
    | (value, []) => some (value, [])
    | (value, ';' :: rest) => if value = [] then none else some (value, rest)
    | _ => none

/-- The parameters of a text that follows a semicolon; each takes a
character, so the length bounds them. -/
def parameters? : Nat → List Char → Option (List (String × String))
  | fuel, s =>
    match s.dropWhile (· = ' ') with
    | [] => some []
    | body =>
      match fuel, tokenRun body with
      | fuel + 1, (name, '=' :: valueStart) =>
        if name = [] then none
        else
          (value? valueStart).bind fun p =>
            (parameters? fuel p.2).map fun more =>
              ((String.ofList name).asciiLower, String.ofList p.1) :: more
      | _, _ => none

/-- How the parameters begin if the character set comes first, one space
behind the semicolon, and is UTF-8 in quotes. -/
def quotedUtf8 : List Char := " charset=\"utf-8\"".toList

/-- The parameters of a text that follows the subtype. A quoted UTF-8
that comes first is the value it stands for only if it comes alone;
with more parameters behind it, as many characters as the value has are
taken from its opening quote on. -/
def allParameters? (s : List Char) : Option (List (String × String)) :=
  (parameters? s.length s).map fun
    | (name, value) :: next :: more =>
      if Text.lower (s.take quotedUtf8.length) = quotedUtf8 then
        (name, "\"" ++ String.ofList value.toList.dropLast) :: next :: more
      else (name, value) :: next :: more
    | ps => ps

/-- The media type of type, subtype and parameters. -/
def build (kind subtype : List Char) (parameters : List (String × String)) : MediaType :=
  let (body, suffix) := cutSuffix subtype
  { kind := (String.ofList kind).asciiLower
    subtype := (String.ofList body).asciiLower
    suffix := suffix.map fun s => (String.ofList s).asciiLower
    parameters := parameters }

/-- The media type that a text denotes. -/
def parse? (s : String) : Option MediaType :=
  match tokenRun s.toList with
  | (kind, '/' :: rest) =>
    if kind = [] then none
    else
      match tokenRun rest with
      | (subtype, []) => some (build kind subtype [])
      | (subtype, ';' :: parameterText) =>
        if subtype = [] then none
        else (allParameters? parameterText).map (build kind subtype)
      | _ => none
  | _ => none

/-- The character set that the media type names: its first `charset`
parameter, in lower case. -/
def charset? (m : MediaType) : Option String :=
  (m.parameters.find? fun p => p.1 = "charset").map fun p => p.2.asciiLower

end MediaType

end ApiGateway
