import ApiGateway.Record.Parameter
import ApiGateway.Text.Blank
/-!
# Records — APIs

An API is a document that declares, under URL templates, the operations
it has for HTTP methods. `ApiDocument.operation` is an operation with
everything that applies to it: the parameters shared by its template
that it does not declare itself, and the content types of the document
if it names none.
-/

namespace ApiGateway

/-- The HTTP methods that declare operations in a path item. -/
def httpMethods : List String := ["GET", "PUT", "POST", "DELETE", "OPTIONS", "HEAD", "PATCH"]

/-- Title, version and name of an API. -/
structure ApiInfo where
  title : Option String
  version : String
  name : String
  deriving DecidableEq, Repr

namespace ApiInfo

def blank : ApiInfo := ⟨none, "", ""⟩

def ofJson? (j : Json) : Option ApiInfo := do
  let f ← Fields.of? ["title", "version", "x-ibm-name"] j
  return {
    title := ← f.optional "title" Json.asString?
    version := ← f.withDefault "version" "" Json.asString?
    name := ← f.withDefault "x-ibm-name" "" Json.asString? }

def toJson (i : ApiInfo) : Json :=
  .object [("title", .ofOption .string i.title), ("version", .string i.version),
    ("x-ibm-name", .string i.name)]

end ApiInfo

/-- Whether an API answers cross-origin requests. -/
structure CorsConfig where
  enabled : Bool
  deriving DecidableEq, Repr

namespace CorsConfig

def ofJson? (j : Json) : Option CorsConfig := do
  let f ← Fields.of? ["enabled"] j
  return { enabled := ← f.withDefault "enabled" true Json.asBool? }

def toJson (c : CorsConfig) : Json := .object [("enabled", .bool c.enabled)]

end CorsConfig

/-- A property that an API defines for its assembly. -/
structure ApiProperty where
  value : Json
  description : Option String

namespace ApiProperty

def ofJson? (j : Json) : Option ApiProperty := do
  let f ← Fields.of? ["value", "description"] j
  return {
    value := ← f.withDefault "value" .null some
    description := ← f.optional "description" Json.asString? }

def toJson (p : ApiProperty) : Json :=
  .object [("value", p.value), ("description", .ofOption .string p.description)]

end ApiProperty

/-- What an API document says about its handling in the gateway. -/
structure GatewayExtension where
  cors : Option CorsConfig
  properties : OrderedMap String ApiProperty
  assembly : Option Json

namespace GatewayExtension

def blank : GatewayExtension := ⟨none, [], none⟩

def ofJson? (j : Json) : Option GatewayExtension := do
  let f ← Fields.of? ["cors", "properties", "assembly"] j
  return {
    cors := ← f.optional "cors" CorsConfig.ofJson?
    properties := ← f.withDefault "properties" [] (Json.mapOf? ApiProperty.ofJson?)
    assembly := ← f.optional "assembly" some }

def toJson (e : GatewayExtension) : Json :=
  .object [("cors", .ofOption CorsConfig.toJson e.cors),
    ("properties", .ofMap ApiProperty.toJson e.properties),
    ("assembly", .ofOption id e.assembly)]

end GatewayExtension

/-- An operation as a path item declares it. -/
structure Operation where
  operationId : Option String
  security : Option (List Json)
  parameters : List Parameter
  consumes : Option (List String)

namespace Operation

def ofJson? (j : Json) : Option Operation := do
  let f ← Fields.of? ["operationId", "security", "parameters", "consumes"] j
  return {
    operationId := ← f.optional "operationId" Json.asString?
    security := ← f.optional "security" (Json.listOf? some)
    parameters := ← f.withDefault "parameters" [] (Json.listOf? Parameter.ofJson?)
    consumes := ← f.optional "consumes" (Json.listOf? Json.asString?) }

def toJson (o : Operation) : Json :=
  .object [("operationId", .ofOption .string o.operationId),
    ("security", .ofOption .array o.security),
    ("parameters", .ofList Parameter.toJson o.parameters),
    ("consumes", .ofOption Json.ofStrings o.consumes)]

/-- The operation with one shared parameter, unless it has a parameter
of that name and location. -/
def withShared (o : Operation) (shared : Parameter) : Operation :=
  if o.parameters.any fun p => p.name = shared.name ∧ p.location = shared.location then o
  else { o with parameters := o.parameters ++ [shared] }

end Operation

/-- What is declared under one URL template: shared parameters, and the
other members, among them the operations under their methods. -/
structure PathItem where
  parameters : List Parameter
  entries : OrderedMap String Json

namespace PathItem

/-- A path item is always an object. -/
def ofJson? : Json → Option PathItem
  | .object ms => do
    let f : Fields := ⟨false, ms⟩
    return {
      parameters := ← f.withDefault "parameters" [] (Json.listOf? Parameter.ofJson?)
      entries := OrderedMap.erase ms "parameters" }
  | _ => none

def toJson (i : PathItem) : Json :=
  .object (("parameters", .ofList Parameter.toJson i.parameters) :: i.entries)

/-- The members whose key is a method, upper-cased, in their order. -/
def methodEntries (i : PathItem) : List (String × Json) :=
  i.entries.filterMap fun e =>
    let method := e.1.asciiUpper
    if httpMethods.contains method then some (method, e.2) else none

/-- The declared operations in their order, each with its method. -/
def operations? (i : PathItem) : Option (List (String × Operation)) :=
  i.methodEntries.mapM fun e => (Operation.ofJson? e.2).map fun o => (e.1, o)

/-- The operation under the first key that is the method in any case;
`none` if that operation is malformed. -/
def operation? (i : PathItem) (method : String) : Option (Option Operation) :=
  match i.entries.find? fun e => e.1.sameAsciiCase method with
  | none => some none
  | some e => (Operation.ofJson? e.2).map some

end PathItem

/-- An API document. -/
structure ApiDocument where
  info : ApiInfo
  basePath : String
  /-- Members whose key holds a slash are path items under their URL
  template; others are extensions. -/
  paths : OrderedMap String Json
  securityDefinitions : Option Json
  security : Option (List Json)
  consumes : List String
  gateway : GatewayExtension

namespace ApiDocument

def blank : ApiDocument := ⟨.blank, "", [], none, none, [], .blank⟩

def ofJson? (j : Json) : Option ApiDocument := do
  let f ← Fields.of? ["info", "basePath", "paths", "securityDefinitions", "security",
    "consumes", "x-ibm-configuration"] j
  return {
    info := ← f.withDefault "info" .blank ApiInfo.ofJson?
    basePath := ← f.withDefault "basePath" "" Json.asString?
    paths := ← f.withDefault "paths" [] (Json.mapOf? some)
    securityDefinitions := ← f.optional "securityDefinitions" some
    security := ← f.optional "security" (Json.listOf? some)
    consumes := ← f.withDefault "consumes" [] (Json.listOf? Json.asString?)
    gateway := ← f.withDefault "x-ibm-configuration" .blank GatewayExtension.ofJson? }

def toJson (d : ApiDocument) : Json :=
  .object [("info", d.info.toJson), ("basePath", .string d.basePath),
    ("paths", .object d.paths),
    ("securityDefinitions", .ofOption id d.securityDefinitions),
    ("security", .ofOption .array d.security),
    ("consumes", .ofStrings d.consumes),
    ("x-ibm-configuration", d.gateway.toJson)]

/-- An API answers cross-origin requests unless it says otherwise. -/
def corsEnabled (d : ApiDocument) : Bool :=
  match d.gateway.cors with
  | none => true
  | some c => c.enabled

/-- The URL templates in their order, each with its path item, which is
`none` if it is malformed. -/
def pathItems (d : ApiDocument) : List (String × Option PathItem) :=
  (d.paths.filter fun p => p.1.toList.contains '/').map fun p => (p.1, PathItem.ofJson? p.2)

/-- The operation with the content types of the document, if it names
none and the document does. -/
def withConsumes (d : ApiDocument) (o : Operation) : Operation :=
  if o.consumes.isNone ∧ d.consumes ≠ [] then { o with consumes := some d.consumes } else o

/-- The operation of a method under a template with everything that
applies to it, if there is one; `none` if its declaration is malformed. -/
def operation? (d : ApiDocument) (template method : String) : Option (Option Operation) :=
  match OrderedMap.get? d.paths template with
  | none => some none
  | some raw => do
    let item ← PathItem.ofJson? raw
    match ← item.operation? method with
    | none => some none
    | some own => some (some (d.withConsumes (item.parameters.foldl Operation.withShared own)))

end ApiDocument

/-- An API record. -/
structure Api where
  id : String
  document : ApiDocument

namespace Api

def ofJson? (j : Json) : Option Api := do
  let f ← Fields.of? ["id", "document"] j
  return {
    id := ← f.required "id" Json.asString?
    document := ← f.required "document" ApiDocument.ofJson? }

def toJson (a : Api) : Json := .object [("id", .string a.id), ("document", a.document.toJson)]

end Api

end ApiGateway
