import ApiGateway.Json.Shape
import ApiGateway.Record.Opaque
import ApiGateway.Record.Product
import ApiGateway.Record.Subscription
/-!
# Records — what their readers look at

The shapes of the records that are read from files. A shape names the
fields that the reader of the record knows, with the shapes of records
inside records; everything that is kept as it is, and every plain field,
is looked at as a whole.
-/

namespace ApiGateway

open Json (Shape)

/-- A record of plain fields. -/
def plainShape (names : List String) : Shape := .record (names.map fun n => (n, .whole)) false

namespace Catalog

def shape : Shape :=
  .record [("id", .whole), ("name", .whole), ("title", .whole),
    ("organization", plainShape ["id", "name"])] false

end Catalog

namespace ApiInfo

def shape : Shape := plainShape ["title", "version", "x-ibm-name"]

end ApiInfo

namespace ApiDocument

def shape : Shape :=
  .record [("info", ApiInfo.shape), ("basePath", .whole), ("paths", .whole),
    ("securityDefinitions", .whole), ("security", .whole), ("consumes", .whole),
    ("x-ibm-configuration", .record [("cors", plainShape ["enabled"]),
      ("properties", .mapOf (plainShape ["value", "description"])), ("assembly", .whole)] false)]
    false

end ApiDocument

namespace Api

def shape : Shape := .record [("id", .whole), ("document", ApiDocument.shape)] false

end Api

namespace Product

def shape : Shape :=
  .record [("id", .whole), ("catalog", plainShape ["id", "name"]),
    ("document", .record [("info", plainShape ["name", "version", "title"]),
      ("plans", .mapOf (.record [("title", .whole), ("rate-limits", .mapOf (plainShape ["value"])),
        ("apis", .whole)] false)),
      ("apis", .mapOf (plainShape ["name"]))] false)] false

end Product

namespace Subscription

def shape : Shape :=
  .record [("id", .whole),
    ("application", .record [("id", .whole), ("title", .whole),
      ("app-credentials", .listOf (plainShape ["client-id", "client-secret"]))] false),
    ("plan-registration", .record [("id", .whole), ("plan", plainShape ["id", "name", "title"]),
      ("product", plainShape ["id"]),
      ("apis", .listOf (.record [("id", .whole),
        ("document", .record [("info", ApiInfo.shape)] false)] false))] false)] false

end Subscription

namespace OpaqueRecord

/-- All members of an opaque record are kept. -/
def shape : Shape := .record [("id", .whole)] true

end OpaqueRecord

end ApiGateway
