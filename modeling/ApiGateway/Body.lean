import ApiGateway.Form
import ApiGateway.Http.MediaType
import ApiGateway.Param.Convert
/-!
# Bodies — the body of a request

A body is read as the first of the offered content types under which it
can be read. What a content type means is one of four kinds: JSON, text,
a form or plain bytes. Text and JSON are decoded with the character set
that the request's own content type names. An empty body is no body.
-/

namespace ApiGateway

/-- A body that has been read. -/
inductive Body where
  | json (value : Json)
  | text (s : String)
  | form (fields : OrderedMap String (List String))
  | binary (bytes : List UInt8)

namespace Body

/-- The fields of a form as an object. -/
def formJson (fields : OrderedMap String (List String)) : Json :=
  .object (OrderedMap.mapValues (fun vs => (Value.ofStrings vs).toJson) fields)

/-- The value of a form field. -/
def formField? (b : Body) (name : String) : Option Value :=
  match b with
  | form fields => (OrderedMap.get? fields name).map Value.ofStrings
  | _ => none

/-- The whole body as the value of a parameter. -/
def toValue : Body → Value
  | json j => .json j
  | text s => .string s
  | form fields => .json (formJson fields)
  | binary b => .bytes b

/-- The body as JSON. -/
def toJson (b : Body) : Json := b.toValue.toJson

/-- How a body of some content type is read. -/
inductive Kind where
  | json
  | text
  | form
  | binary
  deriving DecidableEq, Repr

/-- The kind of a content type. -/
def Kind.of (m : MediaType) : Kind :=
  if m.subtype = "json" ∨ m.suffix = some "json" then .json
  else if m.subtype = "x-www-form-urlencoded" then .form
  else if m.kind = "text" ∨ m.subtype = "xml" ∨ m.suffix = some "xml" then .text
  else .binary

/-- The character set of a text whose content type names none. -/
def defaultCharset : String := "utf-8"

/-- The character set that the request's content type names. -/
def charsetOf (contentType : Option String) : String :=
  ((contentType.bind MediaType.parse?).bind MediaType.charset?).getD defaultCharset

/-- The text of bytes in a character set; `none` if the bytes are not of
that set or the set is not supported. -/
def decodeText? (charset : String) (bytes : List UInt8) : Option String :=
  if charset = "utf-8" ∨ charset = "utf8" then String.ofUtf8? bytes
  else if charset = "us-ascii" ∨ charset = "ascii" then
    if bytes.all (· < 128) then some (String.ofList (bytes.map fun b => Char.ofNat b.toNat))
    else none
  else if charset = "iso-8859-1" ∨ charset = "latin1" then
    some (String.ofList (bytes.map fun b => Char.ofNat b.toNat))
  else none

/-- The body read as one kind. -/
def readAs? (charset : String) (bytes : List UInt8) : Kind → Option Body
  | .json => ((decodeText? charset bytes).bind Json.ofText?).map json
  | .text => (decodeText? charset bytes).map text
  | .form => some (form (Form.parse bytes))
  | .binary => some (binary bytes)

/-- The body read as one content type; `none` also if that is no content
type. -/
def readAsType? (charset : String) (bytes : List UInt8) (contentType : String) : Option Body :=
  (MediaType.parse? contentType).bind fun m => readAs? charset bytes (Kind.of m)

/-- No content type was left to try for a body that is not empty. -/
structure Unreadable where
  attempted : List String
  deriving DecidableEq, Repr

/-- What is said of it. -/
def Unreadable.message (e : Unreadable) : String :=
  "Failed to parse request body (attempted: " ++ String.joined ", " e.attempted ++ ")"

/-- The body read as the first of the content types that fits. -/
def read (bytes : List UInt8) (contentTypes : List String) (requestContentType : Option String) :
    Except Unreadable (Option Body) :=
  if bytes = [] then .ok none
  else
    match contentTypes.findSome? (readAsType? (charsetOf requestContentType) bytes) with
    | some b => .ok (some b)
    | none => .error ⟨contentTypes⟩

end Body

end ApiGateway
