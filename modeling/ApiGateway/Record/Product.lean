import ApiGateway.Record.Organization
import ApiGateway.Text.Pieces
/-!
# Records — products, their plans and their APIs

A product offers APIs under plans. It names an API as `name:version`,
cut at the last colon. A plan may restrict the APIs of its product and
has named rate limits.
-/

namespace ApiGateway

/-- Name, version and title of a product. -/
structure ProductInfo where
  name : String
  version : String
  title : Option String
  deriving DecidableEq, Repr

namespace ProductInfo

def blank : ProductInfo := ⟨"", "", none⟩

def ofJson? (j : Json) : Option ProductInfo := do
  let f ← Fields.of? ["name", "version", "title"] j
  return {
    name := ← f.withDefault "name" "" Json.asString?
    version := ← f.withDefault "version" "" Json.asString?
    title := ← f.optional "title" Json.asString? }

def toJson (i : ProductInfo) : Json :=
  .object [("name", .string i.name), ("version", .string i.version),
    ("title", .ofOption .string i.title)]

end ProductInfo

/-- An API as a product names it: `name:version`. -/
structure ProductApi where
  name : String
  deriving DecidableEq, Repr

namespace ProductApi

/-- Name and version of the API; without a colon the version is empty. -/
def nameAndVersion (a : ProductApi) : String × String :=
  match Text.cutLast ':' a.name.toList with
  | some (name, version) => (String.ofList name, String.ofList version)
  | none => (a.name, "")

def ofJson? (j : Json) : Option ProductApi := do
  let f ← Fields.of? ["name"] j
  return { name := ← f.required "name" Json.asString? }

def toJson (a : ProductApi) : Json := .object [("name", .string a.name)]

end ProductApi

/-- A named limit of a plan, such as `100/1hour`. -/
structure RateLimit where
  name : String
  value : String
  deriving DecidableEq, Repr

namespace RateLimit

def ofJson? (j : Json) : Option RateLimit := do
  let f ← Fields.of? ["name", "value"] j
  return {
    name := ← f.required "name" Json.asString?
    value := ← f.required "value" Json.asString? }

def toJson (l : RateLimit) : Json :=
  .object [("name", .string l.name), ("value", .string l.value)]

end RateLimit

/-- The text of a limit as a plan gives it under the limit's name. -/
structure RateLimitValue where
  value : String
  deriving DecidableEq, Repr

namespace RateLimitValue

def ofJson? (j : Json) : Option RateLimitValue := do
  let f ← Fields.of? ["value"] j
  return { value := ← f.required "value" Json.asString? }

def toJson (v : RateLimitValue) : Json := .object [("value", .string v.value)]

end RateLimitValue

/-- A plan of a product. -/
structure Plan where
  title : Option String
  rateLimits : OrderedMap String RateLimitValue
  /-- The keys of the product's APIs that the plan covers; all of them
  if there is no such map. -/
  apis : Option (OrderedMap String Json)

namespace Plan

/-- The limits of the plan in their order. -/
def rateLimitList (p : Plan) : List RateLimit := p.rateLimits.map fun l => ⟨l.1, l.2.value⟩

/-- Whether the plan covers the product's API with this key. -/
def covers (p : Plan) (key : String) : Bool :=
  match p.apis with
  | none => true
  | some apis => OrderedMap.contains apis key

def ofJson? (j : Json) : Option Plan := do
  let f ← Fields.of? ["title", "rate-limits", "apis"] j
  return {
    title := ← f.optional "title" Json.asString?
    rateLimits := ← f.withDefault "rate-limits" [] (Json.mapOf? RateLimitValue.ofJson?)
    apis := ← f.optional "apis" (Json.mapOf? some) }

def toJson (p : Plan) : Json :=
  .object [("title", .ofOption .string p.title),
    ("rate-limits", .ofMap RateLimitValue.toJson p.rateLimits),
    ("apis", .ofOption (.ofMap id) p.apis)]

end Plan

/-- What a product offers. -/
structure ProductDocument where
  info : ProductInfo
  plans : OrderedMap String Plan
  apis : OrderedMap String ProductApi

namespace ProductDocument

def blank : ProductDocument := ⟨.blank, [], []⟩

def ofJson? (j : Json) : Option ProductDocument := do
  let f ← Fields.of? ["info", "plans", "apis"] j
  return {
    info := ← f.withDefault "info" .blank ProductInfo.ofJson?
    plans := ← f.withDefault "plans" [] (Json.mapOf? Plan.ofJson?)
    apis := ← f.withDefault "apis" [] (Json.mapOf? ProductApi.ofJson?) }

def toJson (d : ProductDocument) : Json :=
  .object [("info", d.info.toJson), ("plans", .ofMap Plan.toJson d.plans),
    ("apis", .ofMap ProductApi.toJson d.apis)]

end ProductDocument

/-- A product of a catalog. -/
structure Product where
  id : String
  catalog : CatalogRef
  document : ProductDocument

namespace Product

def ofJson? (j : Json) : Option Product := do
  let f ← Fields.of? ["id", "catalog", "document"] j
  return {
    id := ← f.required "id" Json.asString?
    catalog := ← f.required "catalog" CatalogRef.ofJson?
    document := ← f.withDefault "document" .blank ProductDocument.ofJson? }

def toJson (p : Product) : Json :=
  .object [("id", .string p.id), ("catalog", p.catalog.toJson), ("document", p.document.toJson)]

end Product

end ApiGateway
