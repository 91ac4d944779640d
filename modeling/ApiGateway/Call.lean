import ApiGateway.Form
import ApiGateway.Http.Request
/-!
# Calls — requests as routing sees them

A call is a request with its method in upper case and its path put
together from the path's non-empty pieces. The credentials of the caller
are two query parameters or, in their place, two headers.
-/

namespace ApiGateway

/-- The non-empty pieces of a path. -/
def pathPieces (path : List Char) : List (List Char) :=
  (Text.pieces '/' path).filter fun p => p ≠ []

/-- The path with exactly one slash before each of its pieces; without
any piece it is the root. -/
def normalizedPath (path : List Char) : List Char :=
  if pathPieces path = [] then ['/'] else (pathPieces path).flatMap fun p => '/' :: p

/-- A request as routing sees it. -/
structure Call where
  /-- The method in upper case. -/
  method : String
  /-- The normalized path. -/
  path : String
  query : Option String
  headers : Http.Headers
  body : List UInt8

namespace Call

/-- The query parameter and the header that name the client. -/
def clientIdQuery : String := "client_id"

def clientIdHeader : String := "x-ibm-client-id"

/-- The query parameter and the header with the client's secret. -/
def clientSecretQuery : String := "client_secret"

def clientSecretHeader : String := "x-ibm-client-secret"

def ofRequest (r : Http.Request) : Call :=
  { method := r.method.asciiUpper
    path := String.ofList (normalizedPath r.target.path.toList)
    query := r.target.query
    headers := r.headers
    body := r.body }

/-- The query parameters in order of appearance, each with all its
values. -/
def queryParameters (c : Call) : OrderedMap String (List String) :=
  match c.query with
  | none => []
  | some q => Form.parse q.utf8

/-- The first value of a header, if it is a text. -/
def header? (c : Call) (name : String) : Option String := c.headers.text? name

/-- The first value of a query parameter, or else of a header. -/
def credential? (c : Call) (query header : String) : Option String :=
  match (OrderedMap.get? c.queryParameters query).bind List.head? with
  | some v => some v
  | none => c.header? header

/-- The client id that the caller presents. -/
def clientId? (c : Call) : Option String := c.credential? clientIdQuery clientIdHeader

/-- The client secret that the caller presents. -/
def clientSecret? (c : Call) : Option String := c.credential? clientSecretQuery clientSecretHeader

end Call

end ApiGateway
