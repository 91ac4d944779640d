import ApiGateway.Http.Header
import ApiGateway.Http.Status
import ApiGateway.Json.Printer
/-!
# HTTP — responses

An answer is a status, headers and a body. Every error of the gateway has
the same JSON form with the status, its phrase and a text, so that what is
missing cannot be told from what is not allowed. Cross-origin answers
name the caller's origin.
-/

namespace ApiGateway

namespace Http

/-- An answer to a request. -/
structure Response where
  status : Nat
  headers : Headers
  body : List UInt8
  deriving DecidableEq, Repr

namespace Response

/-- An answer without a body. -/
def empty (status : Nat) : Response := ⟨status, [], []⟩

/-- An answer with a JSON value. -/
def json (status : Nat) (value : Json) : Response :=
  ⟨status, [("content-type", "application/json".utf8)], value.render.utf8⟩

/-- An answer with a text. -/
def text (status : Nat) (s : String) : Response :=
  ⟨status, [("content-type", "text/plain; charset=utf-8".utf8)], s.utf8⟩

/-- The JSON of an error. -/
def failureJson (status : Nat) (information : String) : Json :=
  .object [("httpCode", .string (String.ofList (Decimal.digitsOf status))),
    ("httpMessage", .string (statusPhrase status)), ("moreInformation", .string information)]

/-- An error with more information on it. -/
def failure (status : Nat) (information : String) : Response :=
  json status (failureJson status information)

/-- The answer with one value of a header, in place of any others. -/
def withHeader (r : Response) (name : String) (value : List UInt8) : Response :=
  { r with headers := r.headers.set name value }

/-- The origin that a cross-origin answer names: that of the request, or
any. -/
def allowedOrigin (request : Headers) : List UInt8 := (request.first? "origin").getD "*".utf8

/-- The answer as one that the origin of the request may read. -/
def withAllowedOrigin (r : Response) (request : Headers) : Response :=
  r.withHeader "access-control-allow-origin" (allowedOrigin request)

/-- The answer with the methods that are allowed, if they can stand in a
header. -/
def withAllowedMethods (r : Response) (methods : String) : Response :=
  if methods.utf8.all Headers.isValueByte then
    r.withHeader "access-control-allow-methods" methods.utf8
  else r

/-- The answer with the headers that the request asks for, all of
them. -/
def withAllowedHeaders (r : Response) (request : Headers) : Response :=
  match request.first? "access-control-request-headers" with
  | some v => r.withHeader "access-control-allow-headers" v
  | none => r

/-- The answer to a preflight. -/
def preflight (methods : String) (request : Headers) : Response :=
  (((empty 200).withAllowedMethods methods).withAllowedHeaders request).withAllowedOrigin request

/-- The answer without its body. -/
def withoutBody (r : Response) : Response := { r with body := [] }

/-- The answer as it goes out to a method: `HEAD` gets no body, and
neither does `CONNECT` if all went well. -/
def forMethod (r : Response) (method : String) : Response :=
  if method = "HEAD" ∨ (method = "CONNECT" ∧ isSuccess r.status) then r.withoutBody else r

end Response

end Http

end ApiGateway
