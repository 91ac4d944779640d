import ApiGateway.Record.Api
/-!
# Records — subscriptions

A subscription gives an application, with its credentials, access to
the APIs of a plan of a product. Its plan registration lists those APIs
by name and version.
-/

namespace ApiGateway

/-- A client id, with the secret that goes with it if there is one. -/
structure Credential where
  clientId : String
  clientSecret : Option String
  deriving DecidableEq, Repr

namespace Credential

def ofJson? (j : Json) : Option Credential := do
  let f ← Fields.of? ["client-id", "client-secret"] j
  return {
    clientId := ← f.required "client-id" Json.asString?
    clientSecret := ← f.optional "client-secret" Json.asString? }

def toJson (c : Credential) : Json :=
  .object [("client-id", .string c.clientId), ("client-secret", .ofOption .string c.clientSecret)]

end Credential

/-- An application that subscribes. -/
structure Application where
  id : String
  title : Option String
  credentials : List Credential
  deriving DecidableEq, Repr

namespace Application

def ofJson? (j : Json) : Option Application := do
  let f ← Fields.of? ["id", "title", "app-credentials"] j
  return {
    id := ← f.required "id" Json.asString?
    title := ← f.optional "title" Json.asString?
    credentials := ← f.withDefault "app-credentials" [] (Json.listOf? Credential.ofJson?) }

def toJson (a : Application) : Json :=
  .object [("id", .string a.id), ("title", .ofOption .string a.title),
    ("app-credentials", .ofList Credential.toJson a.credentials)]

end Application

/-- A plan as a registration names it. -/
structure PlanRef where
  id : String
  name : String
  title : Option String
  deriving DecidableEq, Repr

namespace PlanRef

def ofJson? (j : Json) : Option PlanRef := do
  let f ← Fields.of? ["id", "name", "title"] j
  return {
    id := ← f.required "id" Json.asString?
    name := ← f.withDefault "name" "" Json.asString?
    title := ← f.optional "title" Json.asString? }

def toJson (p : PlanRef) : Json :=
  .object [("id", .string p.id), ("name", .string p.name), ("title", .ofOption .string p.title)]

end PlanRef

/-- A product as a registration names it. -/
structure ProductRef where
  id : String
  deriving DecidableEq, Repr

namespace ProductRef

def ofJson? (j : Json) : Option ProductRef := do
  let f ← Fields.of? ["id"] j
  return { id := ← f.required "id" Json.asString? }

def toJson (p : ProductRef) : Json := .object [("id", .string p.id)]

end ProductRef

/-- The part of an API document that a registration carries. -/
structure ApiRefDocument where
  info : ApiInfo
  deriving DecidableEq, Repr

namespace ApiRefDocument

def ofJson? (j : Json) : Option ApiRefDocument := do
  let f ← Fields.of? ["info"] j
  return { info := ← f.required "info" ApiInfo.ofJson? }

def toJson (d : ApiRefDocument) : Json := .object [("info", d.info.toJson)]

end ApiRefDocument

/-- An API as a registration names it: by the name and version in its
info, whatever its id. -/
structure ApiRef where
  id : Option String
  document : ApiRefDocument
  deriving DecidableEq, Repr

namespace ApiRef

def ofJson? (j : Json) : Option ApiRef := do
  let f ← Fields.of? ["id", "document"] j
  return {
    id := ← f.optional "id" Json.asString?
    document := ← f.required "document" ApiRefDocument.ofJson? }

def toJson (a : ApiRef) : Json :=
  .object [("id", .ofOption .string a.id), ("document", a.document.toJson)]

end ApiRef

/-- The plan of a product that is subscribed to. -/
structure PlanRegistration where
  id : String
  plan : PlanRef
  product : ProductRef
  apis : List ApiRef
  deriving DecidableEq, Repr

namespace PlanRegistration

def ofJson? (j : Json) : Option PlanRegistration := do
  let f ← Fields.of? ["id", "plan", "product", "apis"] j
  return {
    id := ← f.required "id" Json.asString?
    plan := ← f.required "plan" PlanRef.ofJson?
    product := ← f.required "product" ProductRef.ofJson?
    apis := ← f.withDefault "apis" [] (Json.listOf? ApiRef.ofJson?) }

def toJson (r : PlanRegistration) : Json :=
  .object [("id", .string r.id), ("plan", r.plan.toJson), ("product", r.product.toJson),
    ("apis", .ofList ApiRef.toJson r.apis)]

end PlanRegistration

/-- A subscription of an application to a plan. -/
structure Subscription where
  id : String
  application : Application
  planRegistration : PlanRegistration
  deriving DecidableEq, Repr

namespace Subscription

def ofJson? (j : Json) : Option Subscription := do
  let f ← Fields.of? ["id", "application", "plan-registration"] j
  return {
    id := ← f.required "id" Json.asString?
    application := ← f.required "application" Application.ofJson?
    planRegistration := ← f.required "plan-registration" PlanRegistration.ofJson? }

def toJson (s : Subscription) : Json :=
  .object [("id", .string s.id), ("application", s.application.toJson),
    ("plan-registration", s.planRegistration.toJson)]

end Subscription

end ApiGateway
