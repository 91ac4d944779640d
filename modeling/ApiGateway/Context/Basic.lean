import ApiGateway.Body
import ApiGateway.Record.Api
import ApiGateway.Record.RouteEntry
import ApiGateway.Url.Host
/-!
# Context — what policies see of a call

A context holds what is known of one call once its operation is found:
who calls, in which environment and under which plan, the parameters and
the body, and variables that policies add. The endpoint is worked out on
first reading, and a context remembers whether that has happened. The
client's secret is part of the context and not of its JSON.
-/

namespace ApiGateway

/-- A thing with an id and a name. -/
structure NamedRef where
  id : String
  name : String
  deriving DecidableEq, Repr

namespace NamedRef

def toJson (r : NamedRef) : Json := .object [("id", .string r.id), ("name", .string r.name)]

end NamedRef

/-- Who calls. -/
structure ClientInfo where
  appId : String
  appSecret : Option String
  organization : NamedRef
  subscriptionId : String
  deriving DecidableEq, Repr

namespace ClientInfo

/-- The secret is left out. -/
def toJson (c : ClientInfo) : Json :=
  .object [("app", .object [("id", .string c.appId)]), ("org", c.organization.toJson),
    ("subscription-id", .string c.subscriptionId)]

end ClientInfo

/-- The catalog that the call came through. -/
structure EnvironmentInfo where
  path : String
  catalog : NamedRef
  organization : NamedRef
  deriving DecidableEq, Repr

namespace EnvironmentInfo

def toJson (e : EnvironmentInfo) : Json :=
  .object [("path", .string e.path), ("catalog", e.catalog.toJson), ("org", e.organization.toJson)]

end EnvironmentInfo

/-- The plan that the call is counted under. -/
structure PlanInfo where
  id : String
  name : String
  productId : String
  productName : String
  rateLimits : List RateLimit
  deriving DecidableEq, Repr

namespace PlanInfo

def toJson (p : PlanInfo) : Json :=
  .object [("id", .string p.id), ("name", .string p.name), ("product-id", .string p.productId),
    ("product-name", .string p.productName), ("rate-limits", .ofList RateLimit.toJson p.rateLimits)]

end PlanInfo

/-- The operation that is called. -/
structure OperationInfo where
  method : String
  path : String
  operationId : Option String
  deriving DecidableEq, Repr

namespace OperationInfo

def toJson (o : OperationInfo) : Json :=
  .object [("method", .string o.method), ("path", .string o.path),
    ("operationId", .ofOption .string o.operationId)]

end OperationInfo

/-- Where the call was addressed to. -/
structure Endpoint where
  scheme : String
  /-- The host as the caller named it, with its port. -/
  host : Option String
  deriving DecidableEq, Repr

namespace Endpoint

/-- The address of the endpoint, empty without a host. -/
def address (e : Endpoint) : String :=
  match e.host with
  | some h => e.scheme ++ "://" ++ h
  | none => ""

/-- The host name of the address, in its written form. -/
def hostname? (e : Endpoint) : Option String := Url.host? e.address

def toJson (e : Endpoint) : Json :=
  .object [("address", .string e.address), ("hostname", .ofOption .string e.hostname?)]

end Endpoint

/-- What policies see of a call. -/
structure Context where
  api : Api
  snapshotId : SnapshotId
  testAppEnabled : Bool
  operation : OperationInfo
  endpoint : Endpoint
  /-- Whether the endpoint has been read. -/
  endpointRead : Bool
  client : ClientInfo
  environment : EnvironmentInfo
  plan : PlanInfo
  requestMethod : String
  requestPath : String
  parameters : OrderedMap String Value
  requestBody : Option Body
  messageBody : Option Body
  /-- Variables beside those that the context itself has. -/
  bindings : OrderedMap String Json

namespace Context

/-- The context of an operation before anything of the request is in it
but its method. -/
def create (api : Api) (snapshotId : SnapshotId) (testAppEnabled : Bool) (operation : OperationInfo)
    (endpoint : Endpoint) (client : ClientInfo) (environment : EnvironmentInfo) (plan : PlanInfo) :
    Context :=
  { api := api
    snapshotId := snapshotId
    testAppEnabled := testAppEnabled
    operation := operation
    endpoint := endpoint
    endpointRead := false
    client := client
    environment := environment
    plan := plan
    requestMethod := operation.method
    requestPath := ""
    parameters := []
    requestBody := none
    messageBody := none
    bindings := [] }

/-- The assembly of the API. -/
def assembly? (c : Context) : Option Json := c.api.document.gateway.assembly

/-- The context with the body of the request, of which the message gets
its own copy. -/
def withRequestBody (c : Context) (body : Option Body) : Context :=
  { c with requestBody := body, messageBody := body }

/-- The parameters as an object. -/
def parametersJson (c : Context) : Json := .object (OrderedMap.mapValues Value.toJson c.parameters)

/-- The members that the context itself has. -/
def ownMembers (c : Context) : List (String × Json) :=
  [("_", .object [("assembly", .ofOption id c.assembly?), ("api", c.api.document.toJson)]),
    ("config-snapshot-id", c.snapshotId.toJson),
    ("test-app-enabled", .bool c.testAppEnabled),
    ("api", .object [("name", .string c.api.document.info.name),
      ("version", .string c.api.document.info.version),
      ("basePath", .string c.api.document.basePath),
      ("operation", c.operation.toJson),
      ("endpoint", c.endpoint.toJson)]),
    ("client", c.client.toJson),
    ("env", c.environment.toJson),
    ("plan", c.plan.toJson),
    ("request", .object [("verb", .string c.requestMethod), ("path", .string c.requestPath),
      ("parameters", c.parametersJson), ("body", .ofOption Body.toJson c.requestBody)]),
    ("message", .object [("body", .ofOption Body.toJson c.messageBody)])]

/-- The members with a variable, unless there is one of that name. -/
def withVariable (members : List (String × Json)) (v : String × Json) : List (String × Json) :=
  if OrderedMap.contains members v.1 then members else members ++ [v]

/-- The context as an object: its own members, and the variables whose
names are not among them. -/
def toJson (c : Context) : Json := .object (c.bindings.foldl withVariable c.ownMembers)

end Context

end ApiGateway
