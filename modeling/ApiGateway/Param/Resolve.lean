import ApiGateway.Body
import ApiGateway.Call
import ApiGateway.Template.Pattern
/-!
# Parameters — the values of the declared parameters

Every declared parameter is looked up where its location says and
converted to its type; one without a value is left out. The values are
merged by name in the order of declaration (`Parameter.resolve`). A
leading plus in the name of the last parameter is dropped, and a text
found for it is cut at its slashes.
-/

namespace ApiGateway

/-- What parameters are read from. -/
structure ParamSources where
  call : Call
  /-- The capture pattern of the matched template, if there is one. -/
  pattern : Option Template.CapturePattern
  body : Option Body

namespace ParamSources

/-- The text that the path has for a placeholder, whose name may begin
with a plus. -/
def captured? (s : ParamSources) (name : String) : Option String :=
  s.pattern.bind fun p =>
    let path := s.call.path.toList
    ((p.capture? path name.toList).or (p.capture? path ('+' :: name.toList))).map String.ofList

/-- The value of a name at a location, before conversion. -/
def raw? (s : ParamSources) (name : String) : ParamLocation → Option Value
  | .path => (s.captured? name).map .string
  | .query => (OrderedMap.get? s.call.queryParameters name).map Value.ofStrings
  | .header => (s.call.header? name.asciiLower).map .string
  | .body => s.body.map Body.toValue
  | .formData => s.body.bind fun b => b.formField? name
  | .other => none

end ParamSources

namespace Parameter

/-- The converted value of a parameter. -/
def value? (p : Parameter) (s : ParamSources) : Option Value :=
  (s.raw? p.name p.location).bind (Value.convert? p.schema)

/-- A text cut at its slashes; any other value as it is. -/
def cutAtSlashes : Value → Value
  | .string s => .array ((s.pieces '/').map .string)
  | v => v

/-- The name without a leading plus, if it has one. -/
def restName? (p : Parameter) : Option String :=
  match p.name.toList with
  | '+' :: name => some (String.ofList name)
  | _ => none

/-- The name and the value that a parameter contributes; `isLast` tells
whether it is the last one declared. -/
def contribution (p : Parameter) (isLast : Bool) (v : Value) : String × Value :=
  match (if isLast then p.restName? else none) with
  | some name => (name, cutAtSlashes v)
  | none => (p.name, v)

/-- What the declared parameters contribute, in their order. -/
def contributions (s : ParamSources) : List Parameter → List (String × Value)
  | [] => []
  | p :: ps =>
    match p.value? s with
    | some v => p.contribution ps.isEmpty v :: contributions s ps
    | none => contributions s ps

/-- The values of the declared parameters by name: a name that occurs
again keeps its place and takes the later value. -/
def resolve (ps : List Parameter) (s : ParamSources) : OrderedMap String Value :=
  OrderedMap.ofPairs (contributions s ps)

end Parameter

end ApiGateway
