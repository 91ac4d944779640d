import ApiGateway.Gateway.Basic
/-!
# Gateway — the listener for calls

Around the answer to a call stand the limits that every request is held
to: its time, the length of its body and the form of its path. A call
that finds no snapshot waits for one, as long as the settings allow;
while it waits, the events in the queue are handled. Every answer bears
the id of its request, which is the caller's own if it sent one.
-/

namespace ApiGateway

namespace Gateway

/-- The header with the id of a request. -/
def requestIdHeader : String := "x-request-id"

/-- The length that a request declares for its body. -/
def declaredLength? (h : Http.Headers) : Option Nat :=
  (h.text? "content-length").bind fun t => Decimal.count? (Nat.pow 2 64) t.toList

/-- How long the body of a request may be: no longer than the request
itself declares. -/
def bodyLimit (g : Gateway) (h : Http.Headers) : Nat :=
  match declaredLength? h with
  | some n => min n g.settings.gateway.maxBodySize
  | none => g.settings.gateway.maxBodySize

/-- Whether a request declares a body that is too long. -/
def declaresTooMuch (g : Gateway) (h : Http.Headers) : Bool :=
  match declaredLength? h with
  | some n => g.settings.gateway.maxBodySize < n
  | none => false

/-- The time for a call in milliseconds. -/
def timeLimit (g : Gateway) : Nat := g.settings.timeouts.requestSeconds * 1000

/-- The gateway after a call has waited. -/
def afterWaiting (g : Gateway) (milliseconds : Nat) : Gateway :=
  if 0 < milliseconds then { g with store := g.store.settle } else g

/-- An attempt to find a snapshot; another one may have more success. -/
def snapshotAttempt (g : Gateway) : Retry.Outcome Unit Unit :=
  if g.store.snapshots.current?.isSome then .done () else .passing ()

/-- The answer to a call, which may have to wait for a snapshot and is
given up when its time is over. -/
def answerInTime (g : Gateway) (call : Call) : Option Http.Response × Gateway :=
  match Retry.runWithin g.settings.snapshotRetry (fun _ => g.snapshotAttempt) g.timeLimit with
  | none => (some (.empty 408), g.afterWaiting g.timeLimit)
  | some series => (g.afterWaiting series.waited).answer call

/-- The answer to a request that is held to the limits: time, declared
length, path, length. -/
def handle (g : Gateway) (r : Http.Request) : Option Http.Response × Gateway :=
  if g.timeLimit = 0 then (some (.empty 408), g)
  else if g.declaresTooMuch r.headers then (some (.text 413 "length limit exceeded"), g)
  else if r.target.path.toList.head? ≠ some '/' then (some (.empty 404), g)
  else if g.bodyLimit r.headers < r.body.length then
    (some (.failure 413 "request body too large"), g)
  else g.answerInTime (Call.ofRequest r)

/-- The request with an id, which is added if it has none. -/
def withId (r : Http.Request) (fresh : List UInt8) : Http.Request :=
  if r.headers.has requestIdHeader then r
  else { r with headers := r.headers.add requestIdHeader fresh }

/-- An answer as it goes out to a request. -/
def outgoing (fresh : List UInt8) (r : Http.Request) (answer : Http.Response) : Http.Response :=
  (answer.forMethod r.method).withHeader requestIdHeader
    ((r.headers.first? requestIdHeader).getD fresh)

/-- The answer to a request as it goes out, unless the request is cut off;
`fresh` is the id of a request that has none. -/
def respond (g : Gateway) (fresh : List UInt8) (r : Http.Request) :
    Option Http.Response × Gateway :=
  let (answer, g') := g.handle (withId r fresh)
  (answer.map (outgoing fresh r), g')

end Gateway

end ApiGateway
