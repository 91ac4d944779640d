import ApiGateway.Context.Variables
import ApiGateway.Param.Resolve
import ApiGateway.Route.Candidate
/-!
# Context — from a candidate and a call

The context of a call is put together from the candidate that was
selected for it: identity, environment and plan from the entry, the
properties of the API, the body under the content types that apply, and
the declared parameters. Only a body that cannot be read stops this; an
operation that is malformed has no parameters.
-/

namespace ApiGateway

/-- What contexts are resolved with. -/
structure ResolveSettings where
  testAppEnabled : Bool
  scheme : String

namespace Context

/-- The content type of a body when nothing names one. -/
def fallbackContentType : String := "application/octet-stream"

/-- The name of the variable for an explicit content type. -/
def contentTypeName : String := "request.content-type"

/-- The content types under which a body may be read: the explicit one
alone, else those of the operation, else the request's own. -/
def bodyContentTypes (explicit : Option String) (operation : Option Operation) (call : Call) :
    List String :=
  match explicit with
  | some t => [t]
  | none =>
    match (operation.bind fun o => o.consumes).getD [] with
    | [] => [(call.header? "content-type").getD fallbackContentType]
    | ts => ts

/-- The method that a candidate is called with. -/
def calledMethod (c : Candidate) (call : Call) : String :=
  match c.method with
  | some m => m.method
  | none => call.method

/-- The operation of a candidate, as the API's document has it. -/
def calledOperation (c : Candidate) (call : Call) (api : Api) : Option Operation :=
  (api.document.operation? c.path.path (calledMethod c call)).getD none

/-- The context with what is known before the body is read. -/
def identified (settings : ResolveSettings) (c : Candidate) (call : Call) (api : Api) : Context :=
  let e := c.entry
  let organization : NamedRef := ⟨e.organizationId, e.organizationName⟩
  { create api e.snapshotId settings.testAppEnabled
      ⟨calledMethod c call, c.path.path, c.method.bind fun m => m.operationId⟩
      ⟨settings.scheme, call.header? "host"⟩
      ⟨e.clientId, e.clientSecret, organization, e.subscriptionId⟩
      ⟨e.catalogName, ⟨e.catalogId, e.catalogName⟩, organization⟩
      ⟨e.planId, e.planName, e.productId, e.productName, e.rateLimits⟩ with
    requestMethod := call.method
    requestPath := call.path }

/-- The context with an explicit content type as a variable. -/
def withContentType (c : Context) : Option String → Context
  | some t => { c with bindings := OrderedMap.insert c.bindings contentTypeName (.string t) }
  | none => c

/-- The parameters that are declared for a candidate. -/
def declaredParameters (c : Candidate) (call : Call) (api : Api) : List Parameter :=
  match calledOperation c call api with
  | some o => o.parameters
  | none => []

/-- The capture pattern for parameters, which only parameters in the path
need; it is kept for later calls. -/
def patternFor (cache : Template.PatternCache) (params : List Parameter) (base template : String) :
    Option Template.CapturePattern × Template.PatternCache :=
  if params.any fun p => p.location = .path then
    let (pattern, cache') := cache.getOrCompile base.toList template.toList
    (some pattern, cache')
  else (none, cache)

/-- The context of a call, and the capture patterns kept by then. -/
def resolve (settings : ResolveSettings) (cache : Template.PatternCache) (c : Candidate)
    (call : Call) (api : Api) (explicit : Option String) :
    Except Body.Unreadable Context × Template.PatternCache :=
  let start := ((identified settings c call api).withContentType explicit).copyProperties
    api.document.gateway.properties
  let types := bodyContentTypes explicit (calledOperation c call api) call
  match Body.read call.body types (call.header? "content-type") with
  | .error e => (.error e, cache)
  | .ok body =>
    let params := declaredParameters c call api
    let (pattern, cache') := patternFor cache params c.entry.apiBasePath c.path.path
    (.ok { start.withRequestBody body with
        parameters := Parameter.resolve params ⟨call, pattern, body⟩ }, cache')

end Context

end ApiGateway
