import ApiGateway.Context.Basic
import ApiGateway.Text.Pieces
/-!
# Context — variables

Policies read the context by dotted names and add variables to it. The
identity of the call is frozen: `client`, `env` and `plan` and everything
in them, and the body of the request. The properties of an API become
variables unless the context or a variable already has the name.
-/

namespace ApiGateway

namespace Context

/-- The names that the context itself has; no property takes them. -/
def reservedRoots : List String :=
  ["_", "api", "client", "config-snapshot-id", "env", "message", "plan", "request",
    "test-app-enabled"]

/-- The names under which nothing can be written. -/
def frozenRoots : List String := ["client", "env", "plan"]

/-- The name up to its first dot. -/
def root (name : String) : String := (name.pieces '.').headD name

/-- Whether a name is frozen. -/
def isFrozen (name : String) : Bool :=
  frozenRoots.contains (root name) || name = "request.body"
    || "request.body.".toList.isPrefixOf name.toList

/-- A frozen name was to be written. -/
structure ReadOnly where
  name : String
  deriving DecidableEq, Repr

/-- What is said of it. -/
def ReadOnly.message (e : ReadOnly) : String := "context variable '" ++ e.name ++ "' is read-only"

/-- The context with a variable written, unless its name is frozen. -/
def setVariable (c : Context) (name : String) (value : Json) : Except ReadOnly Context :=
  if isFrozen name then .error ⟨name⟩
  else .ok { c with bindings := OrderedMap.insert c.bindings name value }

/-- The context with one property as a variable. -/
def copyProperty (c : Context) (p : String × ApiProperty) : Context :=
  if reservedRoots.contains p.1 ∨ OrderedMap.contains c.bindings p.1 then c
  else { c with bindings := OrderedMap.insert c.bindings p.1 p.2.value }

/-- The context with properties as variables, in their order. -/
def copyProperties (c : Context) (ps : OrderedMap String ApiProperty) : Context :=
  ps.foldl copyProperty c

/-- The value that a path of keys leads to, through objects only. -/
def follow : Json → List String → Option Json
  | j, [] => some j
  | j, key :: path => (j.member? key).bind fun v => follow v path

/-- The name of the client's secret, which is not in the JSON. -/
def secretName : String := "client.app.secret"

/-- The value of a name: a variable of that name, the client's secret, or
what the name's pieces lead to. -/
def valueOf? (c : Context) (name : String) : Option Json :=
  match OrderedMap.get? c.bindings name with
  | some v => some v
  | none =>
    if name = secretName then c.client.appSecret.map .string
    else follow c.toJson (name.pieces '.')

/-- Whether the value of a name is looked for in the JSON, for which the
endpoint is read. -/
def readsJson (c : Context) (name : String) : Bool :=
  !OrderedMap.contains c.bindings name && name ≠ secretName

/-- The context after its endpoint was read. -/
def afterReading (c : Context) : Context := { c with endpointRead := true }

/-- The value of a name, and the context after it was looked for. -/
def lookUp (c : Context) (name : String) : Option Json × Context :=
  (c.valueOf? name, if c.readsJson name then c.afterReading else c)

end Context

end ApiGateway
