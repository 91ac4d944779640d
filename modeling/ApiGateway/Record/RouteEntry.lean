import ApiGateway.Record.Product
import ApiGateway.Record.Snapshot
import ApiGateway.Template.Scan
/-!
# Records — route entries

A route entry pairs one credential with one API: everything that the
gateway has to know about a caller of that API, and the URL templates of
the API with their scores, their routing patterns and their methods.
-/

namespace ApiGateway

/-- The client id of the entries for callers who present none. -/
def defaultClientId : String := "default"

/-- An operation that a template declares, with the security that
applies to it. -/
structure MethodEntry where
  method : String
  operationId : Option String
  securityDefs : Option Json
  securityReqs : Option (List Json)

namespace MethodEntry

/-- A requirement that asks for nothing. -/
def isEmptyRequirement : Json → Bool
  | .object [] => true
  | _ => false

/-- An operation is unsecured if no requirement applies to it. -/
def isUnsecured (m : MethodEntry) : Bool :=
  match m.securityReqs with
  | none => true
  | some reqs => reqs.all isEmptyRequirement

def ofJson? (j : Json) : Option MethodEntry := do
  let f ← Fields.of? ["method", "operationId", "securityDefs", "securityReqs"] j
  return {
    method := ← f.required "method" Json.asString?
    operationId := ← f.nullable "operationId" Json.asString?
    securityDefs := ← f.nullable "securityDefs" some
    securityReqs := ← f.nullable "securityReqs" (Json.listOf? some) }

def toJson (m : MethodEntry) : Json :=
  .object [("method", .string m.method), ("operationId", .ofOption .string m.operationId),
    ("securityDefs", .ofOption id m.securityDefs),
    ("securityReqs", .ofOption .array m.securityReqs)]

end MethodEntry

def Template.Score.ofJson? (j : Json) : Option Template.Score :=
  (Json.asNat? (Nat.pow 2 32) j).map .ofNat

/-- A URL template of an API, ready for matching. -/
structure RoutePath where
  path : String
  matchingScore : Template.Score
  pathRegex : String
  pathMethods : List MethodEntry

namespace RoutePath

/-- The first operation declared for the method. -/
def method? (p : RoutePath) (method : String) : Option MethodEntry :=
  p.pathMethods.find? fun m => m.method = method

def ofJson? (j : Json) : Option RoutePath := do
  let f ← Fields.of? ["path", "matching-score", "path-regex", "path-methods"] j
  return {
    path := ← f.required "path" Json.asString?
    matchingScore := ← f.required "matching-score" Template.Score.ofJson?
    pathRegex := ← f.required "path-regex" Json.asString?
    pathMethods := ← f.required "path-methods" (Json.listOf? MethodEntry.ofJson?) }

def toJson (p : RoutePath) : Json :=
  .object [("path", .string p.path), ("matching-score", .ofNat p.matchingScore),
    ("path-regex", .string p.pathRegex), ("path-methods", .ofList MethodEntry.toJson p.pathMethods)]

end RoutePath

/-- One credential and one API. -/
structure RouteEntry where
  subscriptionId : String
  clientId : String
  clientSecret : Option String
  planId : String
  planName : String
  productId : String
  productName : String
  catalogId : String
  catalogName : String
  organizationId : String
  organizationName : String
  apiId : String
  apiName : String
  apiVersion : String
  apiBasePath : String
  snapshotId : SnapshotId
  corsEnabled : Bool
  rateLimits : List RateLimit
  apiPaths : List RoutePath

namespace RouteEntry

/-- The key an entry is stored under, the same for every build of it. -/
def key (e : RouteEntry) : String := e.subscriptionId ++ "|" ++ e.clientId ++ "|" ++ e.apiId

/-- The names of the fields in their order. -/
def fieldNames : List String :=
  ["subscription-id", "client-id", "client-secret", "plan-id", "plan-name", "product-id",
    "product-name", "catalog-id", "catalog-name", "organization-id", "organization-name",
    "api-id", "api-name", "api-version", "api-base-path", "snapshot-id", "cors-enabled",
    "rate-limits", "api-paths"]

def ofJson? (j : Json) : Option RouteEntry := do
  let f ← Fields.of? fieldNames j
  return {
    subscriptionId := ← f.required "subscription-id" Json.asString?
    clientId := ← f.required "client-id" Json.asString?
    clientSecret := ← f.nullable "client-secret" Json.asString?
    planId := ← f.required "plan-id" Json.asString?
    planName := ← f.required "plan-name" Json.asString?
    productId := ← f.required "product-id" Json.asString?
    productName := ← f.required "product-name" Json.asString?
    catalogId := ← f.required "catalog-id" Json.asString?
    catalogName := ← f.required "catalog-name" Json.asString?
    organizationId := ← f.required "organization-id" Json.asString?
    organizationName := ← f.required "organization-name" Json.asString?
    apiId := ← f.required "api-id" Json.asString?
    apiName := ← f.required "api-name" Json.asString?
    apiVersion := ← f.required "api-version" Json.asString?
    apiBasePath := ← f.required "api-base-path" Json.asString?
    snapshotId := ← f.required "snapshot-id" SnapshotId.ofJson?
    corsEnabled := ← f.required "cors-enabled" Json.asBool?
    rateLimits := ← f.withDefault "rate-limits" [] (Json.listOf? RateLimit.ofJson?)
    apiPaths := ← f.required "api-paths" (Json.listOf? RoutePath.ofJson?) }

def toJson (e : RouteEntry) : Json :=
  .object [("subscription-id", .string e.subscriptionId), ("client-id", .string e.clientId),
    ("client-secret", .ofOption .string e.clientSecret), ("plan-id", .string e.planId),
    ("plan-name", .string e.planName), ("product-id", .string e.productId),
    ("product-name", .string e.productName), ("catalog-id", .string e.catalogId),
    ("catalog-name", .string e.catalogName), ("organization-id", .string e.organizationId),
    ("organization-name", .string e.organizationName), ("api-id", .string e.apiId),
    ("api-name", .string e.apiName), ("api-version", .string e.apiVersion),
    ("api-base-path", .string e.apiBasePath), ("snapshot-id", e.snapshotId.toJson),
    ("cors-enabled", .bool e.corsEnabled), ("rate-limits", .ofList RateLimit.toJson e.rateLimits),
    ("api-paths", .ofList RoutePath.toJson e.apiPaths)]

end RouteEntry

end ApiGateway
