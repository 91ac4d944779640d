import ApiGateway.Record.Fields
/-!
# Records — organizations and catalogs

A catalog belongs to an organization and carries its record; a product
names its catalog by a reference.
-/

namespace ApiGateway

/-- An organization that provides APIs. -/
structure Organization where
  id : String
  name : String
  deriving DecidableEq, Repr

namespace Organization

def ofJson? (j : Json) : Option Organization := do
  let f ← Fields.of? ["id", "name"] j
  return {
    id := ← f.required "id" Json.asString?
    name := ← f.withDefault "name" "" Json.asString? }

def toJson (o : Organization) : Json :=
  .object [("id", .string o.id), ("name", .string o.name)]

end Organization

/-- A catalog together with the organization it belongs to. -/
structure Catalog where
  id : String
  name : String
  title : Option String
  organization : Organization
  deriving DecidableEq, Repr

namespace Catalog

def ofJson? (j : Json) : Option Catalog := do
  let f ← Fields.of? ["id", "name", "title", "organization"] j
  return {
    id := ← f.required "id" Json.asString?
    name := ← f.withDefault "name" "" Json.asString?
    title := ← f.optional "title" Json.asString?
    organization := ← f.required "organization" Organization.ofJson? }

def toJson (c : Catalog) : Json :=
  .object [("id", .string c.id), ("name", .string c.name),
    ("title", .ofOption .string c.title), ("organization", c.organization.toJson)]

end Catalog

/-- A catalog as a product names it. -/
structure CatalogRef where
  id : String
  name : String
  deriving DecidableEq, Repr

namespace CatalogRef

def ofJson? (j : Json) : Option CatalogRef := do
  let f ← Fields.of? ["id", "name"] j
  return {
    id := ← f.required "id" Json.asString?
    name := ← f.withDefault "name" "" Json.asString? }

def toJson (c : CatalogRef) : Json :=
  .object [("id", .string c.id), ("name", .string c.name)]

end CatalogRef

end ApiGateway
