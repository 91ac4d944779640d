import ApiGateway.Record.Fields
/-!
# Records — records kept as they are

TLS profiles and registries are stored and deleted and otherwise not
looked at: of such a record only the id has a meaning, and everything
else is kept in its order.
-/

namespace ApiGateway

/-- A record of which only the id matters. -/
structure OpaqueRecord where
  id : String
  /-- Every other member of the record. -/
  document : List (String × Json)

namespace OpaqueRecord

/-- An opaque record is always an object. -/
def ofJson? : Json → Option OpaqueRecord
  | .object ms => do
    let id ← (OrderedMap.get? ms "id").bind Json.asString?
    return ⟨id, OrderedMap.erase ms "id"⟩
  | _ => none

def toJson (r : OpaqueRecord) : Json := .object (("id", .string r.id) :: r.document)

end OpaqueRecord

end ApiGateway
