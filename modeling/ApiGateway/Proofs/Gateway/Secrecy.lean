import ApiGateway.Proofs.Gateway.Answers
import ApiGateway.Proofs.Gateway.RequestId
import ApiGateway.Proofs.Records.Mapped
import ApiGateway.Proofs.Text.Bytes
/-!
# Gateway — what callers without a secret learn of secrets

The secret of an entry goes a long way: it is listed with the entry, taken
into the candidate and from there into the context of the call. It is read in
one place only, where a caller presents a secret of its own. So whatever
stands behind a caller without one does the same when all secrets are
erased: the search for candidates (`find_withoutSecrets`), the choice among them
(`selected?_withoutSecrets`), the context (`resolve_withoutSecret`) with its
JSON (`toJson_withoutSecret`), the limits, the answer and the reference given
back (`answer_withoutSecrets`).

Two gateways that are alike but for secrets (`Alike`) are the same when the
secrets are erased. So they give such a caller the same answer and are
alike afterwards (`Alike.respond`), for as many requests as it likes
(`Alike.respondAll`). Entries that are built while a request waits have the
same secrets in both.

What a body shows besides is the context of its call (`body_respond`). So it
depends on the id of the request where an operation takes that id, and on
the capture patterns that are kept (`bodies_tell_more`).
-/

namespace ApiGateway

/-! ## Erasing secrets -/

/-- The entry without its secret. -/
def RouteEntry.withoutSecret (e : RouteEntry) : RouteEntry := { e with clientSecret := none }

/-- The records with no secret in any entry. -/
def Records.withoutSecrets (r : Records) : Records :=
  { r with routeEntries := OrderedMap.mapValues RouteEntry.withoutSecret r.routeEntries }

/-- The store with no secret in any entry. -/
def Store.withoutSecrets (s : Store) : Store := { s with records := s.records.withoutSecrets }

/-- The gateway with no secret in any entry. -/
def Gateway.withoutSecrets (g : Gateway) : Gateway := { g with store := g.store.withoutSecrets }

/-- The candidate with an entry without a secret. -/
def Candidate.withoutSecret (c : Candidate) : Candidate := { c with entry := c.entry.withoutSecret }

/-- The context without the client's secret. -/
def Context.withoutSecret (c : Context) : Context :=
  { c with client := { c.client with appSecret := none } }

namespace Records

variable {r : Records} {s : SnapshotId}

theorem withoutSecrets_idem (r : Records) : r.withoutSecrets.withoutSecrets = r.withoutSecrets := by
  simp only [withoutSecrets, OrderedMap.mapValues, List.map_map]
  rfl

/-- Erasing secrets changes which entries a caller sees by their secrets
only. -/
theorem visibleEntries_withoutSecrets (r : Records) (s : SnapshotId) (client : Option String) :
    r.withoutSecrets.visibleEntries s client =
      (r.visibleEntries s client).map RouteEntry.withoutSecret :=
  Collection.filter_mapValues _ _ _ _

theorem putRouteEntry_withoutSecrets (r : Records) (e : RouteEntry) :
    (r.putRouteEntry e).withoutSecrets = r.withoutSecrets.putRouteEntry e.withoutSecret :=
  congrArg (fun c => { r with routeEntries := c })
    (Collection.put_mapValues RouteEntry.withoutSecret r.routeEntries e.snapshotId e.key e).symm

theorem purge_withoutSecrets (r : Records) (s : SnapshotId) :
    r.withoutSecrets.purge s = (r.purge s).withoutSecrets :=
  congrArg (fun c => { r.purge s with routeEntries := c })
    (Collection.purge_mapValues RouteEntry.withoutSecret r.routeEntries s)

end Records

/-! ## The search for candidates -/

namespace Candidate

/-- A search with no secret in any entry. -/
def Search.withoutSecrets (b : Search) : Search := ⟨b.threshold, b.tied.map withoutSecret⟩

theorem accept_withoutSecrets (b : Search) (c : Candidate) :
    b.withoutSecrets.accept c.withoutSecret = (b.accept c).withoutSecrets := by
  have hscore : c.withoutSecret.score = c.score := rfl
  have hthreshold : b.withoutSecrets.threshold = b.threshold := rfl
  rw [Search.accept, Search.accept, hscore, hthreshold]
  split
  · rfl
  · split
    · rfl
    · simp only [Search.withoutSecrets, List.map_append, List.map_cons, List.map_nil]

theorem visitEntry_withoutSecrets (read : PatternReader) (method target : String) (b : Search)
    (e : RouteEntry) :
    Search.visitEntry read method target b.withoutSecrets e.withoutSecret =
      (Search.visitEntry read method target b e).withoutSecrets := by
  refine List.foldl_hom Search.withoutSecrets fun b t => ?_
  rw [Search.visit, Search.visit]
  split
  · have hcors : e.withoutSecret.corsEnabled = e.corsEnabled := rfl
    rw [hcors]
    split
    · rfl
    · exact accept_withoutSecrets b (ofPath e t.2 t.1 method)
  · rfl

/-- **The search for candidates does not look at secrets.** -/
theorem find_withoutSecrets (method target : String) (entries : List RouteEntry)
    (read : PatternReader) :
    find method target (entries.map RouteEntry.withoutSecret) read =
      (find method target entries read).map withoutSecret := by
  have hfold : ∀ b : Search,
      entries.foldl (fun b e => Search.visitEntry read method.asciiUpper target b e.withoutSecret)
        b.withoutSecrets =
      (entries.foldl (Search.visitEntry read method.asciiUpper target) b).withoutSecrets :=
    fun _ => List.foldl_hom Search.withoutSecrets fun b e =>
      visitEntry_withoutSecrets read method.asciiUpper target b e
  rw [find, find, List.foldl_map]
  exact congrArg Search.tied (hfold Search.start)

end Candidate

/-! ## The context -/

namespace Context

/-- **The JSON of a context does not tell the secret.** -/
theorem toJson_withoutSecret (c : Context) : c.withoutSecret.toJson = c.toJson := rfl

theorem copyProperties_withoutSecret (c : Context) (ps : OrderedMap String ApiProperty) :
    c.withoutSecret.copyProperties ps = (c.copyProperties ps).withoutSecret := by
  refine List.foldl_hom withoutSecret fun c p => ?_
  have hbindings : c.withoutSecret.bindings = c.bindings := rfl
  rw [copyProperty, copyProperty, hbindings]
  split
  · rfl
  · rfl

/-- **A context is resolved the same**, but for the secret in it. -/
theorem resolve_withoutSecret (settings : ResolveSettings) (cache : Template.PatternCache)
    (c : Candidate) (call : Call) (api : Api) (explicit : Option String) :
    resolve settings cache c.withoutSecret call api explicit =
      ((resolve settings cache c call api explicit).1.map withoutSecret,
        (resolve settings cache c call api explicit).2) := by
  have hstart : ((identified settings c.withoutSecret call api).withContentType explicit) =
      ((identified settings c call api).withContentType explicit).withoutSecret := by
    cases explicit <;> rfl
  have hoperation : calledOperation c.withoutSecret call api = calledOperation c call api := rfl
  have hparams : declaredParameters c.withoutSecret call api = declaredParameters c call api := rfl
  rw [resolve, resolve, hstart, copyProperties_withoutSecret, hoperation, hparams]
  cases Body.read call.body (bodyContentTypes explicit (calledOperation c call api) call)
      (call.header? "content-type") with
  | error e => rfl
  | ok body => rfl

end Context

/-! ## The store -/

namespace Store

variable {s : Store}

theorem withoutSecrets_idem (s : Store) : s.withoutSecrets.withoutSecrets = s.withoutSecrets :=
  congrArg (fun r => { s with records := r }) s.records.withoutSecrets_idem

theorem acquire?_withoutSecrets (s : Store) :
    s.withoutSecrets.acquire? = s.acquire?.map fun r => (r.1, r.2.withoutSecrets) := by
  have hsnapshots : s.withoutSecrets.snapshots = s.snapshots := rfl
  rw [acquire?, acquire?, hsnapshots, Option.map_map]
  rfl

theorem release_withoutSecrets (s : Store) (id : SnapshotId) :
    (s.withoutSecrets.release id).2 = (s.release id).2.withoutSecrets := by
  have hdrop : s.withoutSecrets.dropRow id =
      ((s.dropRow id).1, (s.dropRow id).2.withoutSecrets) := rfl
  rw [release, release, hdrop]
  rcases s.dropRow id with ⟨_ | row | row | _, s'⟩
  · rfl
  · rfl
  · rfl
  · exact congrArg (fun r => { s'.purge id with records := r })
      (s'.records.purge_withoutSecrets id)

/-- **What is built has the secrets of the subscriptions**, whatever secrets
the stored entries have. -/
theorem complete_withoutSecrets (s : Store) (e : IndexEvent) :
    (s.complete e).withoutSecrets = (s.withoutSecrets.complete e).withoutSecrets := by
  have hput : ∀ (entries : List RouteEntry) (r : Records),
      (Route.putEntries r entries).withoutSecrets =
        (Route.putEntries r.withoutSecrets entries).withoutSecrets := by
    intro entries
    induction entries with
    | nil => exact fun r => r.withoutSecrets_idem.symm
    | cons e entries ih =>
      intro r
      have hone : (r.withoutSecrets.putRouteEntry e).withoutSecrets =
          (r.putRouteEntry e).withoutSecrets := by
        rw [Records.putRouteEntry_withoutSecrets, Records.putRouteEntry_withoutSecrets,
          r.withoutSecrets_idem]
      calc (Route.putEntries (r.putRouteEntry e) entries).withoutSecrets
          = (Route.putEntries (r.putRouteEntry e).withoutSecrets entries).withoutSecrets := ih _
        _ = (Route.putEntries (r.withoutSecrets.putRouteEntry e).withoutSecrets
              entries).withoutSecrets := by rw [hone]
        _ = (Route.putEntries (r.withoutSecrets.putRouteEntry e) entries).withoutSecrets :=
            (ih _).symm
  have hbuild : Route.build s.withoutSecrets.records e = Route.build s.records e :=
    Route.build_withEntries s.records _ e
  have hrecords : (Route.handle s.records e).2.withoutSecrets =
      (Route.handle s.withoutSecrets.records e).2.withoutSecrets := by
    rw [Route.handle, Route.handle, hbuild]
    exact hput _ _
  exact congrArg (fun r => { s with records := r, queue := s.queue.complete }) hrecords

/-- Handling all events that wait gives the same, but for secrets. -/
theorem settle_withoutSecrets (s : Store) :
    s.settle.withoutSecrets = s.withoutSecrets.settle.withoutSecrets := by
  have hall : ∀ (events : List IndexEvent) (s : Store),
      (events.foldl complete s).withoutSecrets =
        (events.foldl complete s.withoutSecrets).withoutSecrets := by
    intro events
    induction events with
    | nil => exact fun s => s.withoutSecrets_idem.symm
    | cons e events ih =>
      intro s
      calc (events.foldl complete (s.complete e)).withoutSecrets
          = (events.foldl complete (s.complete e).withoutSecrets).withoutSecrets := ih _
        _ = (events.foldl complete
              (s.withoutSecrets.complete e).withoutSecrets).withoutSecrets := by
            rw [complete_withoutSecrets]
        _ = (events.foldl complete (s.withoutSecrets.complete e)).withoutSecrets := (ih _).symm
  exact hall s.queue.waiting { s with queue := { s.queue with waiting := [] } }

end Store

/-! ## The answer to a call -/

namespace Gateway

variable {g g' : Gateway} {call : Call}

theorem selected?_withoutSecrets (g : Gateway) (s : SnapshotId)
    (hnone : call.clientSecret? = none) :
    g.withoutSecrets.selected? s call = (g.selected? s call).map Candidate.withoutSecret := by
  have hentries : g.withoutSecrets.store.records.visibleEntries s call.clientId? =
      (g.store.records.visibleEntries s call.clientId?).map RouteEntry.withoutSecret :=
    Records.visibleEntries_withoutSecrets _ _ _
  rw [selected?, selected?, candidates, candidates, hentries, Candidate.find_withoutSecrets, hnone,
    Candidate.select?, Candidate.select?, List.head?_map]

theorem checkLimits_withoutSecrets (g : Gateway) (e : RouteEntry) :
    g.withoutSecrets.checkLimits e.withoutSecret =
      ((g.checkLimits e).1, (g.checkLimits e).2.withoutSecrets) := by
  have hsettings : g.withoutSecrets.settings = g.settings := rfl
  rw [checkLimits, checkLimits, hsettings]
  split
  · rfl
  · rfl

theorem resolve_withoutSecrets (g : Gateway) (c : Candidate) (call : Call) (api : Api)
    (explicit : Option String) :
    g.withoutSecrets.resolve c.withoutSecret call api explicit =
      ((g.resolve c call api explicit).1.map Context.withoutSecret,
        (g.resolve c call api explicit).2.withoutSecrets) := by
  have hsettings : g.withoutSecrets.resolveSettings = g.resolveSettings := rfl
  have hpatterns : g.withoutSecrets.patterns = g.patterns := rfl
  rw [resolve, resolve, hsettings, hpatterns, Context.resolve_withoutSecret]
  rfl

theorem serveAdmitted_withoutSecrets (g : Gateway) (s : SnapshotId) (c : Candidate) (call : Call) :
    g.withoutSecrets.serveAdmitted s c.withoutSecret call =
      ((g.serveAdmitted s c call).1, (g.serveAdmitted s c call).2.withoutSecrets) := by
  have hapi : g.withoutSecrets.store.records.api? s c.withoutSecret.entry.apiId =
      g.store.records.api? s c.entry.apiId := rfl
  rw [serveAdmitted, serveAdmitted, hapi]
  cases g.store.records.api? s c.entry.apiId with
  | none => rfl
  | some api =>
    simp only [resolve_withoutSecrets]
    obtain ⟨outcome, g'⟩ := g.resolve c call api none
    cases outcome with
    | error e => rfl
    | ok context =>
      have hecho : echo c.withoutSecret.entry call context.withoutSecret =
          echo c.entry call context := by
        rw [echo, echo, Context.toJson_withoutSecret]
        rfl
      exact Prod.ext hecho rfl

theorem serveSelected_withoutSecrets (g : Gateway) (s : SnapshotId) (c : Candidate) (call : Call) :
    g.withoutSecrets.serveSelected s c.withoutSecret call =
      ((g.serveSelected s c call).1, (g.serveSelected s c call).2.withoutSecrets) := by
  have hmethod : c.withoutSecret.method = c.method := rfl
  have hentry : c.withoutSecret.entry = c.entry.withoutSecret := rfl
  rw [serveSelected, serveSelected, hmethod, hentry]
  cases c.method with
  | none => rfl
  | some m =>
    simp only [checkLimits_withoutSecrets]
    obtain ⟨verdict, g'⟩ := g.checkLimits c.entry
    cases verdict with
    | exceeded limit => rfl
    | admitted => exact serveAdmitted_withoutSecrets g' s c call

theorem serve_withoutSecrets (g : Gateway) (s : SnapshotId) (hnone : call.clientSecret? = none) :
    g.withoutSecrets.serve s call = ((g.serve s call).1, (g.serve s call).2.withoutSecrets) := by
  rw [serve, serve, selected?_withoutSecrets g s hnone]
  cases g.selected? s call with
  | none => rfl
  | some c => exact serveSelected_withoutSecrets g s c call

/-- **A call without a secret is answered the same when all secrets are
erased.** -/
theorem answer_withoutSecrets (g : Gateway) (hnone : call.clientSecret? = none) :
    g.withoutSecrets.answer call = ((g.answer call).1, (g.answer call).2.withoutSecrets) := by
  have hstore : g.withoutSecrets.store = g.store.withoutSecrets := rfl
  have haway : g.withoutSecrets.turnedAway? = g.turnedAway? := rfl
  rw [answer, answer, hstore, Store.acquire?_withoutSecrets, haway]
  cases g.store.acquire? with
  | none => rfl
  | some r =>
    obtain ⟨lease, store⟩ := r
    have hserve : Gateway.serve { g.withoutSecrets with store := store.withoutSecrets } lease.id
        call = _ := serve_withoutSecrets { g with store := store } lease.id hnone
    simp only [Option.map_some, hserve]
    refine Prod.ext rfl ?_
    exact congrArg (fun s => { (Gateway.serve { g with store := store } lease.id call).2 with
      store := s }) (Store.release_withoutSecrets _ _)

/-! ## Gateways that are alike but for secrets -/

/-- **Two gateways are alike but for secrets** if they are the same when the
secrets of the stored entries are erased. -/
def Alike (g g' : Gateway) : Prop := g.withoutSecrets = g'.withoutSecrets

theorem Alike.settings_eq (h : Alike g g') : g.settings = g'.settings :=
  (congrArg Gateway.settings h : g.withoutSecrets.settings = g'.withoutSecrets.settings)

theorem Alike.snapshots_eq (h : Alike g g') : g.store.snapshots = g'.store.snapshots :=
  congrArg (fun g => g.store.snapshots) h

theorem Alike.buckets_eq (h : Alike g g') : g.buckets = g'.buckets :=
  (congrArg Gateway.buckets h : g.withoutSecrets.buckets = g'.withoutSecrets.buckets)

/-- Two outcomes are alike: the same answer, from gateways that are alike
but for secrets. -/
structure AlikeOutcomes (x y : Option Http.Response × Gateway) : Prop where
  answer : x.1 = y.1
  state : Alike x.2 y.2

theorem Alike.answer (h : Alike g g') (hnone : call.clientSecret? = none) :
    AlikeOutcomes (g.answer call) (g'.answer call) := by
  have hanswer := answer_withoutSecrets g hnone
  have hanswer' := answer_withoutSecrets g' hnone
  have hsame := hanswer.symm.trans ((congrArg (·.answer call) h).trans hanswer')
  obtain ⟨hresponse, hstate⟩ := Prod.mk.inj hsame
  exact ⟨hresponse, hstate⟩

theorem Alike.afterWaiting (h : Alike g g') (milliseconds : Nat) :
    Alike (g.afterWaiting milliseconds) (g'.afterWaiting milliseconds) := by
  unfold Gateway.afterWaiting
  split
  · have hstore : g.store.withoutSecrets = g'.store.withoutSecrets := congrArg Gateway.store h
    have hsettled : g.store.settle.withoutSecrets = g'.store.settle.withoutSecrets := by
      rw [Store.settle_withoutSecrets, hstore, ← Store.settle_withoutSecrets]
    have hrest : { g.withoutSecrets with store := g'.store.settle.withoutSecrets } =
        { g'.withoutSecrets with store := g'.store.settle.withoutSecrets } :=
      congrArg (fun g : Gateway => { g with store := g'.store.settle.withoutSecrets }) h
    have hsame : { g.withoutSecrets with store := g.store.settle.withoutSecrets } =
        { g'.withoutSecrets with store := g'.store.settle.withoutSecrets } := hsettled ▸ hrest
    exact hsame
  · exact h

theorem Alike.answerInTime (h : Alike g g') (hnone : call.clientSecret? = none) :
    AlikeOutcomes (g.answerInTime call) (g'.answerInTime call) := by
  have hattempt : g.snapshotAttempt = g'.snapshotAttempt := by
    rw [snapshotAttempt, snapshotAttempt, h.snapshots_eq]
  have htime : g.timeLimit = g'.timeLimit := by rw [timeLimit, timeLimit, h.settings_eq]
  rw [Gateway.answerInTime, Gateway.answerInTime, hattempt, htime, h.settings_eq]
  split
  · exact ⟨rfl, h.afterWaiting _⟩
  · exact (h.afterWaiting _).answer hnone

/-- **A request without a secret is answered alike.** -/
theorem Alike.handle (h : Alike g g') {r : Http.Request}
    (hnone : (Call.ofRequest r).clientSecret? = none) :
    AlikeOutcomes (g.handle r) (g'.handle r) := by
  have htime : g.timeLimit = g'.timeLimit := by rw [timeLimit, timeLimit, h.settings_eq]
  have hdeclared : g.declaresTooMuch r.headers = g'.declaresTooMuch r.headers := by
    rw [declaresTooMuch, declaresTooMuch, h.settings_eq]
  have hlimit : g.bodyLimit r.headers = g'.bodyLimit r.headers := by
    rw [bodyLimit, bodyLimit, h.settings_eq]
  rw [Gateway.handle, Gateway.handle, htime, hdeclared, hlimit]
  split
  · exact ⟨rfl, h⟩
  · split
    · exact ⟨rfl, h⟩
    · split
      · exact ⟨rfl, h⟩
      · split
        · exact ⟨rfl, h⟩
        · exact h.answerInTime hnone

/-- **A request without a secret goes out alike**, whatever id it is given. -/
theorem Alike.respond (h : Alike g g') {r : Http.Request}
    (hnone : (Call.ofRequest r).clientSecret? = none) (id : List UInt8) :
    AlikeOutcomes (g.respond id r) (g'.respond id r) := by
  have hsecret : (Call.ofRequest (withId r id)).clientSecret? = none :=
    (call_withId r id).clientSecret?.trans hnone
  have hhandle := h.handle hsecret
  exact ⟨congrArg (Option.map (outgoing id r)) hhandle.answer, hhandle.state⟩

/-- The answers to requests that come one after the other, each with the id
that it is given if it has none. -/
def respondAll (g : Gateway) : List (List UInt8 × Http.Request) → List (Option Http.Response)
  | [] => []
  | (id, r) :: rs => (g.respond id r).1 :: respondAll (g.respond id r).2 rs

/-- **No number of requests without a secret tells one secret from another.** -/
theorem Alike.respondAll (h : Alike g g') {rs : List (List UInt8 × Http.Request)}
    (hnone : ∀ r ∈ rs, (Call.ofRequest r.2).clientSecret? = none) :
    g.respondAll rs = g'.respondAll rs := by
  induction rs generalizing g g' with
  | nil => rfl
  | cons r rs ih =>
    have hfirst := h.respond (hnone r List.mem_cons_self) r.1
    have hrest := ih hfirst.state fun r' hr' => hnone r' (List.mem_cons_of_mem r hr')
    rw [Gateway.respondAll, Gateway.respondAll, hfirst.answer, hrest]

/-- **Secrets do not show in the answers to callers that present none.** Let
two gateways be the same but for the secrets of the stored entries, and let
a request present no secret. Under any generated id both give the same
answer, or both give none. Under two generated ids the answers have the same
status and the same headers but for the id, and the same body unless the
operation that is called takes the id as a parameter. Either way the tables
of snapshots and the limits are the same afterwards, and the gateways still
differ in secrets only. -/
theorem secrets_kept (g g' : Gateway) (halike : Alike g g') (r : Http.Request)
    (hnone : (Call.ofRequest r).clientSecret? = none) :
    (∀ id, (g.respond id r).1 = (g'.respond id r).1) ∧
    ∀ id id',
      (g.respond id r).1.map Http.Response.status = (g'.respond id' r).1.map Http.Response.status ∧
      (g.respond id r).1.map otherHeaders = (g'.respond id' r).1.map otherHeaders ∧
      (g.IdUnread (Call.ofRequest r) →
        (g.respond id r).1.map Http.Response.body =
          (g'.respond id' r).1.map Http.Response.body) ∧
      (g.respond id r).2.store.snapshots = (g'.respond id' r).2.store.snapshots ∧
      (g.respond id r).2.buckets = (g'.respond id' r).2.buckets ∧
      Alike (g.respond id r).2 (g'.respond id' r).2 := by
  refine ⟨fun id => (halike.respond hnone id).answer, fun id id' => ?_⟩
  -- from one id to the other in the first gateway, and then to the second gateway
  obtain ⟨hstatus, hheaders, hbody, hstate⟩ := respond_sameButId g r id id'
  have hother := halike.respond hnone id'
  have hafter : Alike (g.respond id r).2 (g'.respond id' r).2 :=
    (congrArg withoutSecrets hstate).trans hother.state
  rw [← hother.answer]
  exact ⟨hstatus, hheaders, hbody, hafter.snapshots_eq, hafter.buckets_eq, hafter⟩

/-- The gateway with another secret in all entries. -/
def withSecret (g : Gateway) (secret : String) : Gateway :=
  { g with store := g.store.withRecords fun r =>
    { r with routeEntries :=
      OrderedMap.mapValues (fun e => { e with clientSecret := some secret }) r.routeEntries } }

theorem alike_withSecret (g : Gateway) (secret : String) : Alike g (g.withSecret secret) := by
  have hentries : OrderedMap.mapValues RouteEntry.withoutSecret g.store.records.routeEntries =
      OrderedMap.mapValues RouteEntry.withoutSecret
        (g.withSecret secret).store.records.routeEntries := by
    simp only [OrderedMap.mapValues, withSecret, Store.withRecords, List.map_map]
    rfl
  exact congrArg (fun c => { g with store := g.store.withRecords fun r =>
    { r with routeEntries := c } }) hentries

/-- A caller of the peaks that presents no secret is served under an entry
with a secret, and would be answered the same if it were another one, with
whatever id. -/
theorem secrets_kept_of_peaks :
    let g := peaksGateway ⟨1, by decide⟩
    let r : Http.Request := ⟨"GET", ⟨"/v1/peaks/highest", some "client_id=k"⟩, [], []⟩
    (g.selected? ⟨1, by decide⟩ (Call.ofRequest r)).any
      (fun c => c.entry.clientSecret = some "secret") = true ∧
    ((g.withSecret "other").selected? ⟨1, by decide⟩ (Call.ofRequest r)).any
      (fun c => c.entry.clientSecret = some "other") = true ∧
    (∀ id, (g.respond id r).1 = ((g.withSecret "other").respond id r).1) ∧
    ∀ id id', (g.respond id r).1.map Http.Response.body =
      ((g.withSecret "other").respond id' r).1.map Http.Response.body := by
  intro g r
  have hnone : (Call.ofRequest r).clientSecret? = none := by decide +kernel
  obtain ⟨hsame, hrest⟩ :=
    secrets_kept g (g.withSecret "other") (alike_withSecret g "other") r hnone
  -- the operation that is selected takes no parameters
  have hbare : ∀ c, g.selected? ⟨1, by decide⟩ (Call.ofRequest r) = some c →
      ∀ api, g.store.records.api? ⟨1, by decide⟩ c.entry.apiId = some api →
        Context.declaredParameters c (Call.ofRequest r) api = [] := by
    have hall : (g.selected? ⟨1, by decide⟩ (Call.ofRequest r)).all (fun c =>
        (g.store.records.api? ⟨1, by decide⟩ c.entry.apiId).all fun api =>
          (Context.declaredParameters c (Call.ofRequest r) api).isEmpty) = true := by
      decide +kernel
    intro c hc api hapi
    rw [hc, Option.all_some, hapi, Option.all_some, List.isEmpty_iff] at hall
    exact hall
  have hunread : g.IdUnread (Call.ofRequest r) := by
    rintro row hrow c hc api hapi p hp
    obtain rfl := Option.some.inj hrow
    rw [hbare c hc api hapi] at hp
    cases hp
  exact ⟨by decide +kernel, by decide +kernel, hsame, fun id id' => (hrest id id').2.2.1 hunread⟩

/-! ## What else a body depends on -/

variable {row : Snapshot} {s : SnapshotId}

/-- The context that a call is answered with, if it comes to that. -/
def context? (g : Gateway) (s : SnapshotId) (call : Call) : Option Context :=
  (g.selected? s call).bind fun c =>
    match c.method, g.checkLimits c.entry with
    | some _, (.admitted, g') =>
      (g'.store.records.api? s c.entry.apiId).bind fun api =>
        (g'.resolve c call api none).1.toOption
    | _, _ => none

theorem body_echo (e : RouteEntry) (call : Call) (context : Context) :
    (echo e call context).body = Utf8.encode context.toJson.text := by
  have hjson : (Http.Response.json 200 context.toJson).body = Utf8.encode context.toJson.text := by
    simp only [Http.Response.json, Json.render, String.utf8, String.toList_ofList]
  unfold echo
  split
  · exact hjson
  · exact hjson

/-- **A call that comes to a context is answered with its JSON.** -/
theorem body_serve {context : Context} (h : g.context? s call = some context) :
    (g.serve s call).1.body = Utf8.encode context.toJson.text := by
  obtain ⟨c, hc, h⟩ := Option.bind_eq_some_iff.1 h
  unfold serve serveSelected serveAdmitted
  rw [hc]
  dsimp only
  split at h
  · next m g' hm hlimits =>
    obtain ⟨api, hapi, h⟩ := Option.bind_eq_some_iff.1 h
    simp only [hm, hlimits, hapi]
    rcases hr : g'.resolve c call api none with ⟨e | context', g''⟩
    · rw [hr] at h
      cases h
    · rw [hr] at h
      obtain rfl := Option.some.inj h
      exact body_echo _ _ _
  · cases h

/-- So is a request, if its method does not do without a body. -/
theorem body_respond {r : Http.Request} {id : List UInt8} (hget : r.method = "GET")
    (hrow : g.store.snapshots.current? = some row)
    (hroom : row.refcount < SnapshotTable.mostReferences) (hr : Admitted g (withId r id))
    (h : (g.context? row.id (Call.ofRequest (withId r id))).isSome = true) :
    (g.respond id r).1.map Http.Response.body =
      ((g.context? row.id (Call.ofRequest (withId r id))).map (·.toJson.text)).map
        Utf8.encode := by
  have hbody : ∀ x : Http.Response, (outgoing id r x).body = x.body := fun x => by
    have hmethod : (outgoing id r x).body = (x.forMethod r.method).body := rfl
    rw [hmethod, hget]
    rfl
  have hanswer : (g.respond id r).1 = (g.answer (Call.ofRequest (withId r id))).1.map
      (outgoing id r) := by
    rw [respond, handle_eq_answer hrow hr]
  obtain ⟨context, h⟩ := Option.isSome_iff_exists.1 h
  rw [hanswer, answer_eq_serve hrow hroom, Option.map_some, Option.map_some, hbody, body_serve h,
    h, Option.map_some, Option.map_some]

/-- A gateway with a subscription to an API whose operation takes a piece of
the path and the id of the request. -/
def tenantGateway (s : SnapshotId) : Gateway :=
  let parameter (name location : String) : Json :=
    .object [("name", .string name), ("in", .string location)]
  .start .default
    { Store.empty with
      records := .after [.catalog s ⟨"c", "sandbox", none, ⟨"o", "acme"⟩⟩,
        .api s ⟨"a", { ApiDocument.blank with
          info := ⟨none, "1.0.0", "climbs"⟩
          paths := [("/{tenant}/peaks", .object [("get", .object [("parameters",
            .array [parameter "tenant" "path", parameter "x-request-id" "header"])])])] }⟩,
        .product s ⟨"p", ⟨"c", ""⟩, .blank⟩,
        .subscription s ⟨"u", ⟨"app", none, [⟨"k", some "secret"⟩]⟩,
          ⟨"r", ⟨"g", "gold", none⟩, ⟨"p"⟩, [⟨none, ⟨⟨none, "1.0.0", "climbs"⟩⟩⟩]⟩⟩,
        .indexed (.subscription s "u")]
      snapshots := [(s, ⟨s, 1, true⟩)] }

/-- That gateway when it keeps the pattern of a template that has the same
path under another base path. -/
def misledGateway (s : SnapshotId) : Gateway :=
  { tenantGateway s with
    patterns :=
      (Template.PatternCache.getOrCompile [] "/{tenant}".toList "/peaks".toList).2 }

/-- **Equal stores do not make for equal bodies.** A caller without a secret
is shown the id that was generated for its request where the operation
takes it; and with one id it is shown different parameters by gateways that
differ in the patterns they keep. -/
theorem bodies_tell_more :
    let g := tenantGateway ⟨1, by decide⟩
    let g' := misledGateway ⟨1, by decide⟩
    let r : Http.Request := ⟨"GET", ⟨"/acme/peaks", some "client_id=k"⟩, [], []⟩
    (Call.ofRequest r).clientSecret? = none ∧
    (g.respond "a".utf8 r).1.map Http.Response.body ≠
      (g.respond "b".utf8 r).1.map Http.Response.body ∧
    g'.settings = g.settings ∧ g'.store = g.store ∧ g'.buckets = g.buckets ∧
    (g.respond "a".utf8 r).1.map Http.Response.body ≠
      (g'.respond "a".utf8 r).1.map Http.Response.body := by
  intro g g' r
  have hrow : g.store.snapshots.current? = some ⟨⟨1, by decide⟩, 1, true⟩ := rfl
  have hroom : 1 < SnapshotTable.mostReferences := by decide
  have ha : Admitted g (withId r "a".utf8) :=
    ⟨by decide +kernel, by decide +kernel, by decide +kernel, Nat.zero_le _⟩
  have hb : Admitted g (withId r "b".utf8) :=
    ⟨by decide +kernel, by decide +kernel, by decide +kernel, Nat.zero_le _⟩
  have ha' : Admitted g' (withId r "a".utf8) :=
    ⟨by decide +kernel, by decide +kernel, by decide +kernel, Nat.zero_le _⟩
  -- texts that differ are encoded by bytes that differ
  have hencode := Option.map_injective Utf8.encode_injective
  refine ⟨by decide +kernel, ?_, rfl, rfl, rfl, ?_⟩
  · rw [body_respond rfl hrow hroom ha (by decide +kernel),
      body_respond rfl hrow hroom hb (by decide +kernel)]
    exact hencode.ne (by decide +kernel)
  · rw [body_respond rfl hrow hroom ha (by decide +kernel),
      body_respond (g := g') rfl hrow hroom ha' (by decide +kernel)]
    exact hencode.ne (by decide +kernel)

end Gateway

end ApiGateway
