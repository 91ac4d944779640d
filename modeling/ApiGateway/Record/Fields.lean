import ApiGateway.Json.Basic
/-!
# Records — the fields of a record as they are given

A record is given as an object, whose members name the fields, or as an
array of the fields in their order. Members with other names are
ignored; an array may stop early where the fields left have a default,
and may not be longer than the record.
-/

namespace ApiGateway

/-- What is given for the fields of a record. -/
structure Fields where
  /-- Whether the fields are given by position. -/
  positional : Bool
  given : List (String × Json)

namespace Fields

variable {α : Type}

/-- The fields of a value, for a record whose fields have these names. -/
def of? (names : List String) : Json → Option Fields
  | .object members => some ⟨false, members⟩
  | .array elements =>
    if elements.length ≤ names.length then some ⟨true, names.zip elements⟩ else none
  | _ => none

/-- A field that has to be there. -/
def required (f : Fields) (name : String) (read : Json → Option α) : Option α :=
  (OrderedMap.get? f.given name).bind read

/-- A field with a default for its absence. -/
def withDefault (f : Fields) (name : String) (default : α) (read : Json → Option α) : Option α :=
  match OrderedMap.get? f.given name with
  | none => some default
  | some j => read j

/-- A value that may be `null`. -/
def orNull (read : Json → Option α) : Json → Option (Option α)
  | .null => some none
  | j => (read j).map some

/-- A field that may be absent or `null`. -/
def optional (f : Fields) (name : String) (read : Json → Option α) : Option (Option α) :=
  f.withDefault name none (orNull read)

/-- A field that may be `null`, and absent only from an object. -/
def nullable (f : Fields) (name : String) (read : Json → Option α) : Option (Option α) :=
  if f.positional then f.required name (orNull read) else f.optional name read

end Fields

namespace Json

variable {α : Type}

/-- The elements of an array, each read in turn. -/
def listOf? (read : Json → Option α) : Json → Option (List α)
  | .array xs => xs.mapM read
  | _ => none

/-- The members of an object, each value read in turn; a key that
repeats keeps its first place and its last value. -/
def mapOf? (read : Json → Option α) : Json → Option (OrderedMap String α)
  | .object ms => (ms.mapM fun p => (read p.2).map fun v => (p.1, v)).map OrderedMap.ofPairs
  | _ => none

/-- A list of values as an array. -/
def ofList (write : α → Json) (xs : List α) : Json := .array (xs.map write)

/-- An ordered map as an object. -/
def ofMap (write : α → Json) (m : OrderedMap String α) : Json :=
  .object (OrderedMap.mapValues write m)

end Json

end ApiGateway
