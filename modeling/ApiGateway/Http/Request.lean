import ApiGateway.Http.Header
import ApiGateway.Http.Target
/-!
# HTTP — requests

A request is a method, a target, headers and a body. It is read part by
part, and the first part that is malformed is what is reported.
-/

namespace ApiGateway

namespace Http

/-- A well-formed request. -/
structure Request where
  method : String
  target : Target
  headers : Headers
  body : List UInt8

/-- The part of a request that is malformed. -/
inductive RequestError where
  | method
  | target
  | header
  deriving DecidableEq, Repr

namespace Request

/-- The request of its parts as they are given. -/
def read (method target : String) (headers : List (String × List UInt8)) (body : List UInt8) :
    Except RequestError Request :=
  if ¬isToken method then .error .method
  else
    match Target.parse? target with
    | none => .error .target
    | some t =>
      match headers.mapM fun h => Headers.entry? h.1 h.2 with
      | none => .error .header
      | some hs => .ok ⟨method, t, hs, body⟩

end Request

end Http

end ApiGateway
