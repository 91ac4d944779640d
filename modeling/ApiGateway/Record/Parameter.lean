import ApiGateway.Record.Fields
/-!
# Records — declared parameters

An operation declares its parameters: where each is read from and which
type its value has. A type is a `type` and a `format`, either of which
may decide, and for an array the way its elements are delimited and
their own type.
-/

namespace ApiGateway

/-- Where a declared parameter is read from. -/
inductive ParamLocation where
  | path
  | query
  | header
  | body
  | formData
  /-- Any other location; nothing is read from it. -/
  | other
  deriving DecidableEq, Repr

namespace ParamLocation

def name : ParamLocation → String
  | path => "path"
  | query => "query"
  | header => "header"
  | body => "body"
  | formData => "formData"
  | other => "other"

def ofName (s : String) : ParamLocation :=
  if s = "path" then path
  else if s = "query" then query
  else if s = "header" then header
  else if s = "body" then body
  else if s = "formData" then formData
  else other

/-- A location is its name, or an object with its name as the only key
and `null` under it. -/
def ofJson? : Json → Option ParamLocation
  | .string s => some (ofName s)
  | .object [(s, .null)] => some (ofName s)
  | _ => none

def toJson (l : ParamLocation) : Json := .string l.name

end ParamLocation

/-- How the elements of an array are delimited in a text. -/
inductive CollectionFormat where
  | csv
  | ssv
  | tsv
  | pipes
  /-- Not delimited: the elements come as repeated parameters. -/
  | multi
  deriving DecidableEq, Repr

namespace CollectionFormat

def name : CollectionFormat → String
  | csv => "csv"
  | ssv => "ssv"
  | tsv => "tsv"
  | pipes => "pipes"
  | multi => "multi"

def ofName? (s : String) : Option CollectionFormat :=
  if s = "csv" then some csv
  else if s = "ssv" then some ssv
  else if s = "tsv" then some tsv
  else if s = "pipes" then some pipes
  else if s = "multi" then some multi
  else none

/-- The delimiter of the format, if it has one. -/
def delimiter? : CollectionFormat → Option Char
  | csv => some ','
  | ssv => some ' '
  | tsv => some '\t'
  | pipes => some '|'
  | multi => none

/-- A format is its name, or an object with its name as the only key
and `null` under it; in a parameter an empty object may stand for that
`null`. -/
def ofJson? (inParameter : Bool) : Json → Option CollectionFormat
  | .string s => ofName? s
  | .object [(s, .null)] => ofName? s
  | .object [(s, .object [])] => if inParameter then ofName? s else none
  | _ => none

def toJson (f : CollectionFormat) : Json := .string f.name

end CollectionFormat

/-- The type of a value, the type of its elements left aside. -/
structure TypeTag where
  kind : Option String
  format : Option String
  collectionFormat : Option CollectionFormat
  deriving DecidableEq, Repr

/-- The declared type of a value, with the type of its elements if that
is declared. -/
inductive TypeSchema where
  | plain (tag : TypeTag)
  | withItems (tag : TypeTag) (items : TypeSchema)
  deriving DecidableEq, Repr

namespace TypeSchema

def tag : TypeSchema → TypeTag
  | plain t => t
  | withItems t _ => t

def items? : TypeSchema → Option TypeSchema
  | plain _ => none
  | withItems _ s => some s

def build (tag : TypeTag) : Option TypeSchema → TypeSchema
  | none => plain tag
  | some s => withItems tag s

/-- The names of the fields in their order. -/
def fieldNames : List String := ["type", "format", "collectionFormat", "items"]

/-- The type without its elements, from the fields of a schema. -/
def tagOf? (inParameter : Bool) (f : Fields) : Option TypeTag := do
  return {
    kind := ← f.optional "type" Json.asString?
    format := ← f.optional "format" Json.asString?
    collectionFormat := ← f.optional "collectionFormat" (CollectionFormat.ofJson? inParameter) }

/-- A schema is a record; the schema of the elements is one of its
fields. -/
def ofJson? (inParameter : Bool) (j : Json) : Option TypeSchema :=
  match j with
  | .object ms => do
    let f ← Fields.of? fieldNames (.object ms)
    let tag ← tagOf? inParameter f
    let items ← itemsMember inParameter ms
    return build tag items
  | .array xs => do
    let f ← Fields.of? fieldNames (.array xs)
    let tag ← tagOf? inParameter f
    let items ← itemsElement inParameter 3 xs
    return build tag items
  | _ => none
where
  /-- The schema under the key `items`. -/
  itemsMember (inParameter : Bool) : List (String × Json) → Option (Option TypeSchema)
    | [] => some none
    | (k, j) :: ms =>
      if k = "items" then
        match j with
        | .null => some none
        | _ => (ofJson? inParameter j).map some
      else itemsMember inParameter ms
  /-- The schema after so many elements. -/
  itemsElement (inParameter : Bool) : Nat → List Json → Option (Option TypeSchema)
    | _, [] => some none
    | 0, j :: _ =>
      match j with
      | .null => some none
      | _ => (ofJson? inParameter j).map some
    | n + 1, _ :: xs => itemsElement inParameter n xs

/-- The members of a schema's record. -/
def members : TypeSchema → List (String × Json)
  | plain t => tagMembers t ++ [("items", .null)]
  | withItems t s => tagMembers t ++ [("items", .object s.members)]
where
  tagMembers (t : TypeTag) : List (String × Json) :=
    [("type", .ofOption .string t.kind), ("format", .ofOption .string t.format),
      ("collectionFormat", .ofOption CollectionFormat.toJson t.collectionFormat)]

def toJson (s : TypeSchema) : Json := .object s.members

end TypeSchema

/-- A parameter that an operation declares. -/
structure Parameter where
  name : String
  location : ParamLocation
  required : Bool
  schema : TypeSchema
  deriving DecidableEq, Repr

namespace Parameter

/-- A parameter is always an object; the fields of its schema stand
beside its own. -/
def ofJson? : Json → Option Parameter
  | .object ms => do
    let f : Fields := ⟨false, ms⟩
    return {
      name := ← f.required "name" Json.asString?
      location := ← f.required "in" ParamLocation.ofJson?
      required := ← f.withDefault "required" false Json.asBool?
      schema := ← TypeSchema.ofJson? true (.object ms) }
  | _ => none

def toJson (p : Parameter) : Json :=
  .object ([("name", .string p.name), ("in", p.location.toJson), ("required", .bool p.required)]
    ++ p.schema.members)

end Parameter

end ApiGateway
