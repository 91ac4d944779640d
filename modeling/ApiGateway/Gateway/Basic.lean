import ApiGateway.Context.Resolve
import ApiGateway.Http.Response
import ApiGateway.RateLimit.Buckets
import ApiGateway.Settings.Basic
import ApiGateway.Store.Loader
/-!
# Gateway — serving a call from one snapshot

A call is served from the snapshot that it has a reference to. Its
candidate is selected among the entries that its caller may use; a
preflight is answered at once, and any other call is counted under the
limits of its plan before its context is resolved. The answer is that
context. A caller for whom nothing is selected learns the same whatever
the reason.
-/

namespace ApiGateway

/-- The state of a gateway. -/
structure Gateway where
  settings : Settings
  store : Store
  buckets : Buckets
  patterns : Template.PatternCache

namespace Gateway

/-- A gateway that has served no call. -/
def start (settings : Settings) (store : Store) : Gateway := ⟨settings, store, [], []⟩

/-- What contexts are resolved with. -/
def resolveSettings (g : Gateway) : ResolveSettings :=
  ⟨g.settings.gateway.testAppEnabled, g.settings.gateway.scheme⟩

/-- The context of a call, and the gateway with the capture patterns that
are kept. -/
def resolve (g : Gateway) (c : Candidate) (call : Call) (api : Api) (explicit : Option String) :
    Except Body.Unreadable Context × Gateway :=
  let (context, patterns) := Context.resolve g.resolveSettings g.patterns c call api explicit
  (context, { g with patterns := patterns })

/-- A call is counted under the limits of an entry, unless limits are not
enforced. -/
def checkLimits (g : Gateway) (e : RouteEntry) : Buckets.Verdict × Gateway :=
  if g.settings.rateLimit.enabled then
    let (verdict, buckets) := g.buckets.check e.planId e.clientId e.rateLimits
    (verdict, { g with buckets := buckets })
  else (.admitted, g)

/-- A context as an answer. If the entry answers cross-origin requests
and the call names its origin, the answer allows it. -/
def echo (e : RouteEntry) (call : Call) (context : Context) : Http.Response :=
  let answer := Http.Response.json 200 context.toJson
  if e.corsEnabled && call.headers.has "origin" then answer.withAllowedOrigin call.headers
  else answer

/-- The answer to a call that its limits admit. -/
def serveAdmitted (g : Gateway) (snapshot : SnapshotId) (c : Candidate) (call : Call) :
    Http.Response × Gateway :=
  match g.store.records.api? snapshot c.entry.apiId with
  | none => (.failure 500 "internal error", g)
  | some api =>
    match g.resolve c call api none with
    | (.error e, g') => (.failure 400 e.message, g')
    | (.ok context, g') => (echo c.entry call context, g')

/-- The answer to a call with its candidate. -/
def serveSelected (g : Gateway) (snapshot : SnapshotId) (c : Candidate) (call : Call) :
    Http.Response × Gateway :=
  match c.method with
  | none => (.preflight c.allowMethods call.headers, g)
  | some _ =>
    match g.checkLimits c.entry with
    | (.exceeded limit, g') => (.failure 429 (Buckets.exceededMessage limit), g')
    | (.admitted, g') => g'.serveAdmitted snapshot c call

/-- The candidates for a call in a snapshot. -/
def candidates (g : Gateway) (snapshot : SnapshotId) (call : Call) : List Candidate :=
  Candidate.find call.method call.path (g.store.records.visibleEntries snapshot call.clientId?)

/-- The candidate that is selected for a call in a snapshot. -/
def selected? (g : Gateway) (snapshot : SnapshotId) (call : Call) : Option Candidate :=
  Candidate.select? (g.candidates snapshot call) call.clientSecret?

/-- The answer to a call from a snapshot. -/
def serve (g : Gateway) (snapshot : SnapshotId) (call : Call) : Http.Response × Gateway :=
  match g.selected? snapshot call with
  | none => (.failure 404 Candidate.noMatchMessage, g)
  | some c => g.serveSelected snapshot c call

/-- The gateway after a reference to a snapshot was given back. -/
def release (g : Gateway) (snapshot : SnapshotId) : Gateway :=
  { g with store := (g.store.release snapshot).2 }

/-- What a call is told that gets no reference: that there is no snapshot.
If there is one, but it is full, the call is cut off and told nothing. -/
def turnedAway? (g : Gateway) : Option Http.Response :=
  if g.store.snapshots.isFull then none else some (.failure 503 "no configuration available")

/-- The answer to a call from the current snapshot, to which the call has
a reference while it is served. A call that is cut off has none. -/
def answer (g : Gateway) (call : Call) : Option Http.Response × Gateway :=
  match g.store.acquire? with
  | none => (g.turnedAway?, g)
  | some (lease, store) =>
    let (response, g') := Gateway.serve { g with store := store } lease.id call
    (some response, g'.release lease.id)

end Gateway

end ApiGateway
