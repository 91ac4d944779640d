import ApiGateway.Json.Reader
/-!
# JSON — reading the parts that matter

A reader of records looks at the fields it knows and passes over the
rest. What it passes over is held to the grammar and to nothing else:
its strings and numbers may be such as no value can hold, and its depth
does not matter. A shape says where a reader looks, and
`Source.select?` is the value of a text as far as it looks. A field that
a reader knows may be given only once.
-/

namespace ApiGateway

namespace Json

/-- Where a reader looks. -/
inductive Shape where
  /-- At the whole value. -/
  | whole
  /-- At every element of an array. -/
  | listOf (element : Shape)
  /-- At every value of an object, whatever its key. -/
  | mapOf (value : Shape)
  /-- At certain members of an object, or at the elements of an array in
  their place; where `others` is set, at all other members too. -/
  | record (fields : List (String × Shape)) (others : Bool)

namespace Source

/-- The members of a record that are looked at, each with the shape of
its value. -/
def shapeOf (fields : List (String × Shape)) (others : Bool) (key : String) : Option Shape :=
  match OrderedMap.get? fields key with
  | some s => some s
  | none => if others then some .whole else none

/-- Whether one of the fields is given more than once. -/
def repeats (fields : List (String × Shape)) (members : List (String × Json)) : Bool :=
  fields.any fun f => 1 < (members.filter fun m => m.1 = f.1).length

/-- The value of a tree as far as a reader looks, inside `depth` arrays
and objects. -/
def selectAt? (depth : Nat) (shape : Shape) : Source → Option Json
  | .array xs =>
    match shape with
    | .listOf e => if depth < maxDepth then (allElements (depth + 1) e xs).map .array else none
    | .record fields _ =>
      if depth < maxDepth then (inPlace (depth + 1) (fields.map (·.2)) xs).map .array else none
    | _ => (Source.array xs).toJson? depth
  | .object ms =>
    match shape with
    | .mapOf v => if depth < maxDepth then (allMembers (depth + 1) v ms).map .object else none
    | .record fields others =>
      if depth < maxDepth then
        (someMembers (depth + 1) fields others ms).bind fun members =>
          if repeats fields members then none else some (.object (OrderedMap.ofPairs members))
      else none
    | _ => (Source.object ms).toJson? depth
  | other => other.toJson? depth
where
  allElements (depth : Nat) (shape : Shape) : List Source → Option (List Json)
    | [] => some []
    | x :: xs =>
      match x.selectAt? depth shape, allElements depth shape xs with
      | some v, some vs => some (v :: vs)
      | _, _ => none
  inPlace (depth : Nat) : List Shape → List Source → Option (List Json)
    | _, [] => some []
    | shapes, x :: xs =>
      match x.selectAt? depth (shapes.headD .whole), inPlace depth shapes.tail xs with
      | some v, some vs => some (v :: vs)
      | _, _ => none
  allMembers (depth : Nat) (shape : Shape) :
      List (List UInt8 × Source) → Option (List (String × Json))
    | [] => some []
    | (k, x) :: ms =>
      match stringText? k, x.selectAt? depth shape, allMembers depth shape ms with
      | some key, some v, some vs => some ((key, v) :: vs)
      | _, _, _ => none
  someMembers (depth : Nat) (fields : List (String × Shape)) (others : Bool) :
      List (List UInt8 × Source) → Option (List (String × Json))
    | [] => some []
    | (k, x) :: ms =>
      match stringText? k, someMembers depth fields others ms with
      | some key, some vs =>
        match shapeOf fields others key with
        | none => some vs
        | some shape =>
          match x.selectAt? depth shape with
          | some v => some ((key, v) :: vs)
          | none => none
      | _, _ => none

/-- The value of a tree as far as a reader looks. -/
def select? (shape : Shape) (s : Source) : Option Json := s.selectAt? 0 shape

end Source

/-- The value of a text as far as a reader looks. -/
def selectFrom? (shape : Shape) (bytes : List UInt8) : Option Json :=
  (Source.parse? bytes).bind (Source.select? shape)

end Json

end ApiGateway
