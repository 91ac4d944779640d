import ApiGateway.Calendar.Reader
import ApiGateway.Json.Reader
import ApiGateway.Param.Value
import ApiGateway.Record.Parameter
/-!
# Parameters — conversion to the declared type

A declared type is known by its format, if that names a conversion, and
else by its name. Conversion never fails: a value that does not convert
is absent, except that an element of an array keeps its place as `null`.
A value without a known type stays as it is.
-/

namespace ApiGateway

/-- What a value is converted to. -/
inductive ValueType where
  | array
  | boolean
  | binary
  | byte
  | date
  | dateTime
  | number
  | object
  | password
  | string
  | file
  | unspecified
  deriving DecidableEq, Repr

namespace ValueType

/-- The type that a format names. -/
def ofFormat? (format : String) : Option ValueType :=
  if format = "binary" then some binary
  else if format = "byte" then some byte
  else if format = "date" then some date
  else if format = "date-time" ∨ format = "dateTime" then some dateTime
  else if ["double", "float", "int32", "int64", "long"].contains format then some number
  else if format = "password" then some password
  else none

/-- The type of a name; formats are names too. -/
def ofName? (name : String) : Option ValueType :=
  if name = "array" then some array
  else if name = "boolean" then some boolean
  else if name = "file" then some file
  else if name = "integer" ∨ name = "number" then some number
  else if name = "object" then some object
  else if name = "string" then some string
  else ofFormat? name

end ValueType

/-- The type that a tag declares. -/
def TypeTag.valueType (t : TypeTag) : ValueType :=
  ((t.format.bind ValueType.ofFormat?).or (t.kind.bind ValueType.ofName?)).getD .unspecified

namespace Value

/-- The pieces of a text under a format; one piece if it has no
delimiter. -/
def splitElements (format : CollectionFormat) (s : String) : List Value :=
  match format.delimiter? with
  | some d => (s.pieces d).map .string
  | none => [.string s]

/-- The elements that an array is made of. -/
def elementsOf (format : CollectionFormat) : Value → List Value
  | .array es => es
  | .json (.array js) => js.map .json
  | .string s => splitElements format s
  | .json (.string s) => splitElements format s
  | v => [v]

/-- Whether a value has elements already. -/
def hasElements : Value → Bool
  | .array _ => true
  | .json (.array _) => true
  | _ => false

/-- The value as an array, each element converted in its place. A single
value of an array that comes as repeated parameters is converted like an
element. -/
def toArray? (format : CollectionFormat) (element : Value → Option Value) (v : Value) :
    Option Value :=
  if format = .multi ∧ v.hasElements = false then element v
  else some (.array ((v.elementsOf format).map fun e => (element e).getD (.json .null)))

def toBool? : Value → Option Value
  | .bool b => some (.bool b)
  | .json (.bool b) => some (.bool b)
  | v =>
    match v.asString? with
    | none => none
    | some s =>
      if s.asciiLower = "true" then some (.bool true)
      else if s.asciiLower = "false" then some (.bool false)
      else none

def toBytes : Value → Value
  | .bytes b => .bytes b
  | v => .bytes v.text.utf8

def toDate? : Value → Option Value
  | .date m => some (.date m)
  | v => (v.asString?.bind fun s => Moment.parse? s.toList).map .date

/-- The number of a truth value. -/
def ofBool (b : Bool) : Binary64 := .ofInt (if b then 1 else 0)

/-- The number that a value denotes, which is not a number if it denotes
none. -/
def numberOf : Value → Binary64
  | .number x => x
  | .bool b => ofBool b
  | .json (.number n) => n.toBinary64
  | .json (.bool b) => ofBool b
  | v => (v.asString?.bind fun s => Decimal.parse? (Text.trim s.toList)).getD .nan

/-- A text or bytes read as JSON, or the JSON that the value is. -/
def toObject? : Value → Option Value
  | .string s => (Json.ofText? s).map .json
  | .json (.string s) => (Json.ofText? s).map .json
  | .bytes b => (Json.parse? b).map .json
  | .json j => some (.json j)
  | _ => none

/-- The value under a tag, given the conversion of its elements. -/
def convertWith (tag : TypeTag) (element : Value → Option Value) (v : Value) : Option Value :=
  match tag.valueType with
  | .array => v.toArray? (tag.collectionFormat.getD .csv) element
  | .boolean => v.toBool?
  | .binary => some v.toBytes
  | .byte => some v.toBytes
  | .date => v.toDate?
  | .dateTime => v.toDate?
  | .number => some (.number v.numberOf)
  | .object => v.toObject?
  | .password => some (.string v.text)
  | .string => some (.string v.text)
  | .file => none
  | .unspecified => some v

/-- The value converted to the type of a schema. -/
def convert? : TypeSchema → Value → Option Value
  | .plain tag, v => v.convertWith tag some
  | .withItems tag items, v => v.convertWith tag (convert? items)

end Value

/-- The declared type of a schema. -/
def TypeSchema.valueType (s : TypeSchema) : ValueType := s.tag.valueType

end ApiGateway
