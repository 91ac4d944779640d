import ApiGateway.Pattern.Notation
import ApiGateway.Store.Queue
import ApiGateway.Store.Records
import ApiGateway.Template.Pattern
/-!
# Routes — building the entries of a record

A subscription gives one entry for each of its credentials and each API
of its plan registration; APIs are found by name and version. A product
gives entries for callers without a client id: one for each of its plans
and each API of the plan that has an unsecured operation, with those
operations only. An entry brings together the subscription or plan, the
product, its catalog and the catalog's organization.
-/

namespace ApiGateway

/-- Why the entries of a record cannot be built: the first piece that is
missing or malformed. -/
inductive BuildError where
  | subscriptionNotFound (id : String)
  | productNotFound (id : String)
  | catalogNotFound (id : String)
  | apiNotFound (name version : String)
  | invalidPathItem (template : String)
  deriving DecidableEq, Repr

namespace BuildError

/-- What is said of it, where that is fixed. -/
def message? : BuildError → Option String
  | subscriptionNotFound id => some ("subscription " ++ id ++ " not found")
  | productNotFound id => some ("product " ++ id ++ " not found")
  | catalogNotFound id => some ("catalog " ++ id ++ " not found")
  | apiNotFound name version => some ("API " ++ name ++ ":" ++ version ++ " not found")
  | invalidPathItem _ => none

end BuildError

namespace Route

/-- A value, or an error for its absence. -/
def orError {ε α : Type} (e : ε) : Option α → Except ε α
  | some a => .ok a
  | none => .error e

/-! ## The templates of an API -/

/-- An operation as a route entry has it: its own security requirements,
or those of the document. -/
def methodEntry (d : ApiDocument) (method : String) (o : Operation) : MethodEntry :=
  { method := method
    operationId := o.operationId
    securityDefs := d.securityDefinitions
    securityReqs := o.security.or d.security }

/-- A template ready for matching. -/
def routePath (d : ApiDocument) (template : String) (methods : List MethodEntry) : RoutePath :=
  { path := template
    matchingScore := Template.matchingScore template.toList
    pathRegex :=
      String.ofList (Pattern.written (Template.routingPattern d.basePath.toList template.toList))
    pathMethods := methods }

/-- The operations under one template. -/
def methodEntries (d : ApiDocument) (template : String) (item : Option PathItem) :
    Except BuildError (List MethodEntry) := do
  let operations ← orError (.invalidPathItem template) (item.bind PathItem.operations?)
  return operations.map fun o => methodEntry d o.1 o.2

/-- Which operations an entry is for. -/
inductive Access where
  /-- All of them. -/
  | full
  /-- Those that are unsecured; a template without any is left out. -/
  | unsecuredOnly
  deriving DecidableEq, Repr

/-- The templates with their operations that an entry has under an
access. -/
def granted (access : Access) (template : String) (d : ApiDocument) (methods : List MethodEntry) :
    List RoutePath :=
  match access with
  | .full => [routePath d template methods]
  | .unsecuredOnly =>
    let unsecured := methods.filter MethodEntry.isUnsecured
    if unsecured = [] then [] else [routePath d template unsecured]

/-- The templates of an API in the order of its document. -/
def routePaths (access : Access) (d : ApiDocument) : Except BuildError (List RoutePath) := do
  let paths ← d.pathItems.mapM fun p => do
    return granted access p.1 d (← methodEntries d p.1 p.2)
  return paths.flatten

/-! ## Entries -/

/-- What all entries of one plan have in common. -/
structure PlanScope where
  subscriptionId : String
  planId : String
  planName : String
  product : Product
  catalog : Catalog
  rateLimits : List RateLimit

/-- The entry of a plan for one credential and one API. -/
def entry (s : SnapshotId) (scope : PlanScope) (credential : Credential) (api : Api)
    (paths : List RoutePath) : RouteEntry :=
  { subscriptionId := scope.subscriptionId
    clientId := credential.clientId
    clientSecret := credential.clientSecret
    planId := scope.planId
    planName := scope.planName
    productId := scope.product.id
    productName := scope.product.document.info.name
    catalogId := scope.catalog.id
    catalogName := scope.catalog.name
    organizationId := scope.catalog.organization.id
    organizationName := scope.catalog.organization.name
    apiId := api.id
    apiName := api.document.info.name
    apiVersion := api.document.info.version
    apiBasePath := api.document.basePath
    snapshotId := s
    corsEnabled := api.document.corsEnabled
    rateLimits := scope.rateLimits
    apiPaths := paths }

/-- A product and its catalog. -/
def productAndCatalog (r : Records) (s : SnapshotId) (id : String) :
    Except BuildError (Product × Catalog) := do
  let product ← orError (.productNotFound id) (r.product? s id)
  let catalog ← orError (.catalogNotFound product.catalog.id) (r.catalog? s product.catalog.id)
  return (product, catalog)

/-- An API by name and version, with its templates. It is the one that
stands first in the collection. -/
def apiWithPaths (r : Records) (s : SnapshotId) (access : Access) (name version : String) :
    Except BuildError (Api × List RoutePath) := do
  let api ← orError (.apiNotFound name version) (r.findApi? s name version 0)
  return (api, ← routePaths access api.document)

/-! ## Subscriptions -/

/-- What the entries of a subscription have in common; the limits are
those of the product's plan of that name. -/
def subscriptionScope (u : Subscription) (product : Product) (catalog : Catalog) : PlanScope :=
  { subscriptionId := u.id
    planId := u.planRegistration.plan.id
    planName := u.planRegistration.plan.name
    product := product
    catalog := catalog
    rateLimits :=
      match OrderedMap.get? product.document.plans u.planRegistration.plan.name with
      | some plan => plan.rateLimitList
      | none => [] }

/-- The entries of a subscription: credential by credential, and for each
API by API. -/
def subscriptionEntries (r : Records) (s : SnapshotId) (id : String) :
    Except BuildError (List RouteEntry) := do
  let u ← orError (.subscriptionNotFound id) (r.subscription? s id)
  let (product, catalog) ← productAndCatalog r s u.planRegistration.product.id
  let apis ← u.planRegistration.apis.mapM fun a =>
    apiWithPaths r s .full a.document.info.name a.document.info.version
  let scope := subscriptionScope u product catalog
  return u.application.credentials.flatMap fun c => apis.map fun a => entry s scope c a.1 a.2

/-! ## Products -/

/-- The credential of the entries for callers who present none. -/
def defaultCredential : Credential := ⟨defaultClientId, none⟩

/-- What the entries of a product's plan have in common. -/
def planScope (product : Product) (catalog : Catalog) (planName : String) (plan : Plan) :
    PlanScope :=
  { subscriptionId := "product:" ++ product.id ++ ":" ++ planName
    planId := product.document.info.name ++ ":" ++ product.document.info.version ++ ":" ++ planName
    planName := planName
    product := product
    catalog := catalog
    rateLimits := plan.rateLimitList }

/-- The pairs of a plan and an API that it covers, plan by plan. -/
def offers (product : Product) : List ((String × Plan) × ProductApi) :=
  product.document.plans.flatMap fun plan =>
    (product.document.apis.filter fun a => plan.2.covers a.1).map fun a => (plan, a.2)

/-- The entry of one plan and one API, if the API has an unsecured
operation. -/
def offerEntry (r : Records) (s : SnapshotId) (product : Product) (catalog : Catalog)
    (offer : (String × Plan) × ProductApi) : Except BuildError (Option RouteEntry) := do
  let (name, version) := offer.2.nameAndVersion
  let (api, paths) ← apiWithPaths r s .unsecuredOnly name version
  let scope := planScope product catalog offer.1.1 offer.1.2
  return if paths = [] then none else some (entry s scope defaultCredential api paths)

/-- The entries of the offers up to the first that fails, and the error
there. -/
def offerEntries (r : Records) (s : SnapshotId) (product : Product) (catalog : Catalog) :
    List ((String × Plan) × ProductApi) → List RouteEntry × Option BuildError
  | [] => ([], none)
  | o :: os =>
    match offerEntry r s product catalog o with
    | .error e => ([], some e)
    | .ok built =>
      let (more, failure) := offerEntries r s product catalog os
      (built.toList ++ more, failure)

/-! ## Handling events -/

/-- What became of a build: the entries that were stored, and the error
that ended it. -/
structure Built where
  entries : List RouteEntry
  failure : Option BuildError

/-- The entries, or the error that ended the build. -/
def Built.result (b : Built) : Except BuildError (List RouteEntry) :=
  match b.failure with
  | none => .ok b.entries
  | some e => .error e

/-- The build for a subscription: nothing is built unless every API is
found. -/
def buildSubscription (r : Records) (s : SnapshotId) (id : String) : Built :=
  match subscriptionEntries r s id with
  | .ok entries => ⟨entries, none⟩
  | .error e => ⟨[], some e⟩

/-- The build for a product: entries are stored one by one, so those
before a failure stay. -/
def buildProduct (r : Records) (s : SnapshotId) (id : String) : Built :=
  match productAndCatalog r s id with
  | .error e => ⟨[], some e⟩
  | .ok (product, catalog) =>
    let (entries, failure) := offerEntries r s product catalog (offers product)
    ⟨entries, failure⟩

/-- The build for an event. -/
def build (r : Records) : IndexEvent → Built
  | .subscription s id => buildSubscription r s id
  | .product s id => buildProduct r s id

/-- The records with entries stored, in their order. -/
def putEntries (r : Records) (entries : List RouteEntry) : Records :=
  entries.foldl Records.putRouteEntry r

/-- An event handled: the records with what was built stored. -/
def handle (r : Records) (e : IndexEvent) : Built × Records :=
  let built := build r e
  (built, putEntries r built.entries)

end Route

end ApiGateway
