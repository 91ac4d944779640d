import ApiGateway.Form
import ApiGateway.Gateway.Basic
/-!
# Gateway — the listener for snapshots

Others that work with the records of a snapshot take references to it
over HTTP: `/current` gives one to the current snapshot, and `/release`
takes one back. Both are read-only to HTTP, so `GET` and `HEAD` are
their methods.
-/

namespace ApiGateway

namespace Store

/-- The answer with a snapshot, or with an empty object if it is gone. -/
def snapshotAnswer (s : Option Snapshot) : Http.Response :=
  let value :=
    match s with
    | some row => row.toJson
    | none => .object []
  .json 200 (.object [("snapshot", value)])

/-- What is said when there is no current snapshot. -/
def noCurrentMessage : String := "no current snapshot"

/-- The answer with a new reference to the current snapshot. There is no
answer to a request that is cut off because the snapshot is full. -/
def answerCurrent (s : Store) : Option Http.Response × Store :=
  match s.acquire? with
  | some (row, s') => (some (snapshotAnswer (some row)), s')
  | none => (if s.snapshots.isFull then none else some (.failure 404 noCurrentMessage), s)

/-- The values of `id` in a query. -/
def idsOf (query : Option String) : List String :=
  ((Form.pairs (query.getD "").utf8).filter fun p => p.1 = "id").map (·.2)

/-- What is said of a query that does not have exactly one `id`. -/
def queryMessage (problem : String) : String :=
  "Failed to deserialize query string: " ++ problem ++ " field \x60id\x60"

/-- The answer to a reference that is given back. -/
def answerRelease (s : Store) (query : Option String) : Http.Response × Store :=
  match idsOf query with
  | [] => (.text 400 (queryMessage "missing"), s)
  | [id] =>
    match SnapshotId.parse? id with
    | none => (.failure 400 (SnapshotId.invalidMessage id), s)
    | some id =>
      let (released, s') := s.release id
      (snapshotAnswer released.row?, s')
  | _ => (.text 400 (queryMessage "duplicate"), s)

/-- The answer to a method that is not allowed. -/
def methodNotAllowed : Http.Response := (Http.Response.empty 405).withHeader "allow" "GET,HEAD".utf8

/-- Whether a method is allowed. -/
def isAllowed (method : String) : Bool := method = "GET" || method = "HEAD"

/-- The answer to a request before its method has a say in it. -/
def answerRequest (s : Store) (r : Http.Request) : Option Http.Response × Store :=
  if r.target.path = "/current" then
    if isAllowed r.method then s.answerCurrent else (some methodNotAllowed, s)
  else if r.target.path = "/release" then
    if isAllowed r.method then
      let (answer, s') := s.answerRelease r.target.query
      (some answer, s')
    else (some methodNotAllowed, s)
  else (some (.empty 404), s)

/-- The answer to a request as it goes out. -/
def respond (s : Store) (r : Http.Request) : Option Http.Response × Store :=
  let (answer, s') := s.answerRequest r
  (answer.map fun a => a.forMethod r.method, s')

end Store

end ApiGateway
