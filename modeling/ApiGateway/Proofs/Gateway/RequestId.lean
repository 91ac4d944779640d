import ApiGateway.Proofs.Gateway.Answers
import ApiGateway.Proofs.Gateway.Handling
import ApiGateway.Proofs.Snapshots.Rows
/-!
# Gateway — what the id of a request makes a difference to

A request without an id is given one. Two calls that differ in that header
only (`Call.SameButId`) are selected for, counted and refused alike, and
the gateway keeps the same of both (`serve_sameButId`). Their answers have the
same status and the same headers. Only an operation that declares the
header as a parameter has the id in its context, and so in the body of the
answer; if the one that is called does not (`Gateway.IdUnread`), the bodies
are the same as well. `respond_sameButId` says so of the answers as they go
out.
-/

namespace ApiGateway

/-- An upper-case name is lowered at once. -/
theorem asciiLower_asciiLower (s : String) : s.asciiLower.asciiLower = s.asciiLower := by
  have hchar : ∀ c : Char, c.toLower.toLower = c.toLower := fun c => by
    unfold Char.toLower
    grind
  rw [String.asciiLower, String.asciiLower, String.toList_ofList, Text.lower, Text.lower,
    List.map_map]
  exact congrArg String.ofList (List.map_congr_left fun c _ => hchar c)

namespace Http

/-- Two lists of headers have the same values under every other name than
that of the id. -/
def Headers.SameButId (h h' : Headers) : Prop :=
  ∀ name : String, name.asciiLower ≠ Gateway.requestIdHeader → h.values name = h'.values name

namespace Headers

variable {h h' : Headers} {name : String}

/-- A header that is added has no part in the values of other names. -/
theorem values_add_of_ne (h : Headers) {added : String} (v : List UInt8)
    (hname : name.asciiLower ≠ added) : (h.add added v).values name = h.values name := by
  have hother : ¬ added = name.asciiLower := fun he => hname he.symm
  simp [values, add, hother]

theorem sameButId_add (h : Headers) (id : List UInt8) :
    SameButId (h.add Gateway.requestIdHeader id) h :=
  fun _ hname => values_add_of_ne h id hname

theorem SameButId.first? (hs : SameButId h h') (hname : name.asciiLower ≠ Gateway.requestIdHeader) :
    h.first? name = h'.first? name := by
  rw [Headers.first?, Headers.first?, hs name hname]

theorem SameButId.text? (hs : SameButId h h') (hname : name.asciiLower ≠ Gateway.requestIdHeader) :
    h.text? name = h'.text? name := by
  rw [Headers.text?, Headers.text?, hs.first? hname]

end Headers

namespace Response

/-- The answer to a preflight does not depend on the id. -/
theorem preflight_sameButId {h h' : Headers} (hs : h.SameButId h') (methods : String) :
    preflight methods h = preflight methods h' := by
  have horigin : h.first? "origin" = h'.first? "origin" := hs.first? (by decide)
  have hrequested : h.first? "access-control-request-headers" =
      h'.first? "access-control-request-headers" := hs.first? (by decide)
  simp only [preflight, withAllowedHeaders, withAllowedOrigin, allowedOrigin, horigin, hrequested]

/-- An allowed origin, of answers with the same status and headers. -/
theorem withAllowedOrigin_congr {x y : Response} (hstatus : x.status = y.status)
    (hheaders : x.headers = y.headers) (request : Headers) :
    (x.withAllowedOrigin request).status = (y.withAllowedOrigin request).status ∧
      (x.withAllowedOrigin request).headers = (y.withAllowedOrigin request).headers :=
  ⟨hstatus, congrArg (·.set "access-control-allow-origin" (allowedOrigin request)) hheaders⟩

/-- What goes out to a method, of answers with the same status and headers. -/
theorem forMethod_congr {x y : Response} (hstatus : x.status = y.status)
    (hheaders : x.headers = y.headers) (method : String) :
    (x.forMethod method).status = (y.forMethod method).status ∧
      (x.forMethod method).headers = (y.forMethod method).headers ∧
      (x.body = y.body → (x.forMethod method).body = (y.forMethod method).body) := by
  rw [forMethod, forMethod, hstatus]
  by_cases hbare : method = "HEAD" ∨ (method = "CONNECT" ∧ isSuccess y.status)
  · rw [if_pos hbare, if_pos hbare]
    exact ⟨hstatus, hheaders, fun _ => rfl⟩
  · rw [if_neg hbare, if_neg hbare]
    exact ⟨hstatus, hheaders, id⟩

end Response

end Http

/-- **Two calls that differ in the id of their requests only.** -/
structure Call.SameButId (c c' : Call) : Prop where
  method : c.method = c'.method
  path : c.path = c'.path
  query : c.query = c'.query
  body : c.body = c'.body
  headers : c.headers.SameButId c'.headers

/-- The operation that a call is for does not take the id of the request
as a parameter. -/
def Context.IdUnread (c : Candidate) (call : Call) (api : Api) : Prop :=
  ∀ p ∈ declaredParameters c call api, p.location = .header →
    p.name.asciiLower ≠ Gateway.requestIdHeader

/-- The operation that is selected for a call in a snapshot, if there is
any, does not take the id. -/
def Gateway.IdUnreadIn (g : Gateway) (s : SnapshotId) (call : Call) : Prop :=
  ∀ c, g.selected? s call = some c → ∀ api, g.store.records.api? s c.entry.apiId = some api →
    Context.IdUnread c call api

/-- Nor does the one that is selected in the current snapshot. -/
def Gateway.IdUnread (g : Gateway) (call : Call) : Prop :=
  ∀ row, g.store.snapshots.current? = some row → g.IdUnreadIn row.id call

variable {call call' : Call}

namespace Call.SameButId

theorem header? (h : SameButId call call') {name : String}
    (hname : name.asciiLower ≠ Gateway.requestIdHeader) : call.header? name = call'.header? name :=
  h.headers.text? hname

theorem queryParameters (h : SameButId call call') :
    call.queryParameters = call'.queryParameters := by
  rw [Call.queryParameters, Call.queryParameters, h.query]

theorem credential? (h : SameButId call call') (query : String) {header : String}
    (hname : header.asciiLower ≠ Gateway.requestIdHeader) :
    call.credential? query header = call'.credential? query header := by
  rw [Call.credential?, Call.credential?, h.queryParameters, h.header? hname]

theorem clientId? (h : SameButId call call') : call.clientId? = call'.clientId? :=
  h.credential? _ (by decide)

theorem clientSecret? (h : SameButId call call') : call.clientSecret? = call'.clientSecret? :=
  h.credential? _ (by decide)

end Call.SameButId

/-! ## Parameters and contexts -/

/-- A parameter that does not take the id has the same value. -/
theorem Parameter.value?_sameButId (h : Call.SameButId call call') {p : Parameter}
    (hp : p.location = .header → p.name.asciiLower ≠ Gateway.requestIdHeader)
    (pattern : Option Template.CapturePattern) (body : Option Body) :
    p.value? ⟨call, pattern, body⟩ = p.value? ⟨call', pattern, body⟩ := by
  have hraw : (⟨call, pattern, body⟩ : ParamSources).raw? p.name p.location =
      (⟨call', pattern, body⟩ : ParamSources).raw? p.name p.location := by
    cases hl : p.location with
    | path => simp only [ParamSources.raw?, ParamSources.captured?, h.path]
    | query => simp only [ParamSources.raw?, h.queryParameters]
    | header =>
      have hname : p.name.asciiLower.asciiLower ≠ Gateway.requestIdHeader := by
        rw [asciiLower_asciiLower]
        exact hp hl
      simp only [ParamSources.raw?, h.header? hname]
    | body => rfl
    | formData => rfl
    | other => rfl
  rw [Parameter.value?, Parameter.value?, hraw]

theorem Parameter.contributions_sameButId (h : Call.SameButId call call') {ps : List Parameter}
    (hps : ∀ p ∈ ps, p.location = .header → p.name.asciiLower ≠ Gateway.requestIdHeader)
    (pattern : Option Template.CapturePattern) (body : Option Body) :
    contributions ⟨call, pattern, body⟩ ps = contributions ⟨call', pattern, body⟩ ps := by
  induction ps with
  | nil => rfl
  | cons p ps ih =>
    have hrest := ih fun q hq => hps q (List.mem_cons_of_mem p hq)
    rw [contributions, contributions, hrest,
      value?_sameButId h (hps p List.mem_cons_self) pattern body]

/-- The context with other values of its parameters. -/
def Context.withParameters (c : Context) (ps : OrderedMap String Value) : Context :=
  { c with parameters := ps }

/-- The parameters that are declared depend on the method only. -/
theorem Context.declaredParameters_sameButId (h : Call.SameButId call call') (c : Candidate)
    (api : Api) : declaredParameters c call api = declaredParameters c call' api := by
  rw [declaredParameters, declaredParameters, calledOperation, calledOperation, calledMethod,
    calledMethod, h.method]

/-- **Contexts of such calls differ in their parameters only**, and not even
there unless one of them takes the id. -/
theorem Context.resolve_sameButId (h : Call.SameButId call call') (settings : ResolveSettings)
    (cache : Template.PatternCache) (c : Candidate) (api : Api) :
    (∃ e, resolve settings cache c call api none = (.error e, cache) ∧
      resolve settings cache c call' api none = (.error e, cache)) ∨
    ∃ context cache' ps, resolve settings cache c call api none = (.ok context, cache') ∧
      resolve settings cache c call' api none = (.ok (context.withParameters ps), cache') ∧
      (IdUnread c call api → ps = context.parameters) := by
  have hmethod : calledMethod c call = calledMethod c call' := by
    rw [calledMethod, calledMethod, h.method]
  have hoperation : calledOperation c call api = calledOperation c call' api := by
    rw [calledOperation, calledOperation, hmethod]
  have hparams := declaredParameters_sameButId h c api
  have hcontent : call.header? "content-type" = call'.header? "content-type" :=
    h.header? (by decide)
  have hhost : call.header? "host" = call'.header? "host" := h.header? (by decide)
  have hstart : identified settings c call api = identified settings c call' api := by
    simp only [identified, hmethod, hhost, h.method, h.path]
  have htypes : bodyContentTypes none (calledOperation c call api) call =
      bodyContentTypes none (calledOperation c call' api) call' := by
    simp only [bodyContentTypes, hoperation, hcontent]
  rw [resolve, resolve, hstart, htypes, hcontent, hparams, h.body]
  cases Body.read call'.body (bodyContentTypes none (calledOperation c call' api) call')
      (call'.header? "content-type") with
  | error e => exact Or.inl ⟨e, rfl, rfl⟩
  | ok body =>
    refine Or.inr ⟨_, _, _, rfl, rfl, fun hunread => ?_⟩
    rw [IdUnread, hparams] at hunread
    exact congrArg OrderedMap.ofPairs
      (Parameter.contributions_sameButId h hunread _ body).symm

/-! ## The answer -/

namespace Gateway

variable {g : Gateway} {P : Prop}

/-- **Two outcomes that differ in the body at most**, and not even there
under a condition: the gateway, the status and the headers are the same. -/
structure SameButBody (P : Prop) (x y : Http.Response × Gateway) : Prop where
  status : x.1.status = y.1.status
  headers : x.1.headers = y.1.headers
  body : P → x.1.body = y.1.body
  state : x.2 = y.2

theorem SameButBody.refl (x : Http.Response × Gateway) : SameButBody P x x :=
  ⟨rfl, rfl, fun _ => rfl, rfl⟩

theorem sameButBody_of_eq {x y : Http.Response × Gateway} (h : x = y) : SameButBody P x y :=
  h ▸ .refl x

/-- The status and the headers of an answer do not tell the context. -/
theorem echo_withParameters (e : RouteEntry) (call : Call) (context : Context)
    (ps : OrderedMap String Value) :
    (echo e call context).status = (echo e call (context.withParameters ps)).status ∧
      (echo e call context).headers = (echo e call (context.withParameters ps)).headers := by
  have hstatus : (Http.Response.json 200 context.toJson).status =
      (Http.Response.json 200 (context.withParameters ps).toJson).status := rfl
  have hheaders : (Http.Response.json 200 context.toJson).headers =
      (Http.Response.json 200 (context.withParameters ps).toJson).headers := rfl
  unfold echo
  by_cases hcors : (e.corsEnabled && call.headers.has "origin") = true
  · simp only [if_pos hcors]
    exact Http.Response.withAllowedOrigin_congr hstatus hheaders call.headers
  · simp only [if_neg hcors]
    exact ⟨hstatus, hheaders⟩

theorem echo_sameButId (h : Call.SameButId call call') (e : RouteEntry) (context : Context) :
    echo e call context = echo e call' context := by
  have horigin : call.headers.first? "origin" = call'.headers.first? "origin" :=
    h.headers.first? (by decide)
  have hhas : call.headers.has "origin" = call'.headers.has "origin" := by
    rw [Http.Headers.has, Http.Headers.has, horigin]
  rw [echo, echo, hhas, Http.Response.withAllowedOrigin, Http.Response.withAllowedOrigin,
    Http.Response.allowedOrigin, Http.Response.allowedOrigin, horigin]

theorem serveAdmitted_sameButId (h : Call.SameButId call call') (g : Gateway) (s : SnapshotId)
    (c : Candidate) :
    SameButBody (∀ api, g.store.records.api? s c.entry.apiId = some api →
      Context.IdUnread c call api) (g.serveAdmitted s c call) (g.serveAdmitted s c call') := by
  unfold serveAdmitted
  cases hapi : g.store.records.api? s c.entry.apiId with
  | none => exact .refl _
  | some api =>
    rcases Context.resolve_sameButId h g.resolveSettings g.patterns c api with
      ⟨e, hr, hr'⟩ | ⟨context, cache, ps, hr, hr', hps⟩
    · simp only [resolve, hr, hr']
      exact .refl _
    · simp only [resolve, hr, hr']
      rw [echo_sameButId h c.entry context]
      obtain ⟨hstatus, hheaders⟩ := echo_withParameters c.entry call' context ps
      refine ⟨hstatus, hheaders, fun hunread => ?_, rfl⟩
      rw [hps (hunread api rfl)]
      rfl

theorem serveSelected_sameButId (h : Call.SameButId call call') (g : Gateway) (s : SnapshotId)
    (c : Candidate) :
    SameButBody (∀ api, g.store.records.api? s c.entry.apiId = some api →
      Context.IdUnread c call api) (g.serveSelected s c call) (g.serveSelected s c call') := by
  unfold serveSelected
  cases c.method with
  | none => exact sameButBody_of_eq (by rw [Http.Response.preflight_sameButId h.headers])
  | some m =>
    have hstore := g.store_checkLimits c.entry
    rcases hlimits : g.checkLimits c.entry with ⟨_ | limit, g'⟩
    · rw [hlimits] at hstore
      have hadmitted := serveAdmitted_sameButId h g' s c
      rw [show g'.store = g.store from hstore] at hadmitted
      exact hadmitted
    · exact .refl _

/-- The same candidate is selected. -/
theorem selected?_sameButId (h : Call.SameButId call call') (g : Gateway) (s : SnapshotId) :
    g.selected? s call = g.selected? s call' := by
  rw [selected?, selected?, candidates, candidates, h.method, h.path, h.clientId?,
    h.clientSecret?]

/-- **Serving a call makes no more of the id than its body shows.** -/
theorem serve_sameButId (h : Call.SameButId call call') (g : Gateway) (s : SnapshotId) :
    SameButBody (g.IdUnreadIn s call) (g.serve s call) (g.serve s call') := by
  unfold serve
  rw [← selected?_sameButId h g s]
  cases hc : g.selected? s call with
  | none => exact .refl _
  | some c =>
    have hserve := serveSelected_sameButId h g s c
    exact ⟨hserve.status, hserve.headers, fun hunread => hserve.body (hunread c hc), hserve.state⟩

/-- **Two outcomes of calls, of which the answers differ in the body at
most**; or both calls are cut off. -/
inductive SameOutcome (P : Prop) : Option Http.Response × Gateway →
    Option Http.Response × Gateway → Prop where
  | same (x : Option Http.Response × Gateway) : SameOutcome P x x
  | answered {x y : Http.Response × Gateway} : SameButBody P x y →
      SameOutcome P (some x.1, x.2) (some y.1, y.2)

theorem answer_sameButId (h : Call.SameButId call call') (g : Gateway) :
    SameOutcome (g.IdUnread call) (g.answer call) (g.answer call') := by
  unfold answer
  rw [Store.acquire?]
  cases ha : g.store.snapshots.acquire? with
  | none => exact .same _
  | some r =>
    obtain ⟨lease, t⟩ := r
    obtain ⟨row, hrow, -, hlease, -⟩ := SnapshotTable.acquire?_eq_some_iff.1 ha
    have hid : lease.id = row.id := by rw [hlease]
    let g' : Gateway := { g with store := { g.store with snapshots := t } }
    have hserve := serve_sameButId h g' lease.id
    have hsame : SameButBody (g.IdUnread call)
        ((g'.serve lease.id call).1, (g'.serve lease.id call).2.release lease.id)
        ((g'.serve lease.id call').1, (g'.serve lease.id call').2.release lease.id) := by
      refine ⟨hserve.status, hserve.headers, fun hunread => hserve.body ?_,
        congrArg (·.release lease.id) hserve.state⟩
      -- the reference that the call has taken changes nothing about what it is for
      rw [hid]
      exact hunread row hrow
    exact .answered hsame

/-- Without a snapshot all calls come to the same. -/
theorem answer_eq_of_not_current (hrow : g.store.snapshots.current? = none) (call call' : Call) :
    g.answer call = g.answer call' := by
  rw [answer, answer, Store.acquire?, SnapshotTable.acquire?, hrow]
  rfl

theorem answerInTime_sameButId (h : Call.SameButId call call') (htime : g.timeLimit ≠ 0) :
    SameOutcome (g.IdUnread call) (g.answerInTime call) (g.answerInTime call') := by
  cases hrow : g.store.snapshots.current? with
  | some row =>
    obtain ⟨series, hseries, hwaited⟩ := runWithin_snapshotAttempt hrow htime
    have hnow : ∀ call, g.answerInTime call = g.answer call := fun call => by
      rw [answerInTime, hseries]
      simp only [hwaited, afterWaiting, Nat.lt_irrefl, if_false]
    rw [hnow, hnow]
    exact answer_sameButId h g
  | none =>
    have hnone : ∀ ms, (g.afterWaiting ms).store.snapshots.current? = none := fun ms => by
      unfold afterWaiting
      split
      · rw [Store.snapshots_settle, hrow]
      · exact hrow
    unfold answerInTime
    split
    · exact .same _
    · next series _ =>
      rw [answer_eq_of_not_current (hnone _) call call']
      exact .same _

theorem handle_sameButId (g : Gateway) {r r' : Http.Request} (hmethod : r.method = r'.method)
    (htarget : r.target = r'.target) (hbody : r.body = r'.body)
    (hheaders : r.headers.SameButId r'.headers) :
    SameOutcome (g.IdUnread (Call.ofRequest r)) (g.handle r) (g.handle r') := by
  have hlength : declaredLength? r.headers = declaredLength? r'.headers := by
    rw [declaredLength?, declaredLength?, hheaders.text? (by decide)]
  have hdeclared : g.declaresTooMuch r.headers = g.declaresTooMuch r'.headers := by
    rw [declaresTooMuch, declaresTooMuch, hlength]
  have hlimit : g.bodyLimit r.headers = g.bodyLimit r'.headers := by
    rw [bodyLimit, bodyLimit, hlength]
  have hcall : Call.SameButId (Call.ofRequest r) (Call.ofRequest r') :=
    ⟨congrArg String.asciiUpper hmethod,
      congrArg (fun t : Http.Target => String.ofList (normalizedPath t.path.toList)) htarget,
      congrArg Http.Target.query htarget, hbody, hheaders⟩
  rw [handle, handle, hdeclared, hlimit, htarget, hbody]
  split
  · exact .same _
  · next htime =>
    split
    · exact .same _
    · split
      · exact .same _
      · split
        · exact .same _
        · exact answerInTime_sameButId hcall htime

/-- A request that is given an id stays the same but for that. -/
theorem headers_withId (r : Http.Request) (id : List UInt8) :
    (withId r id).headers.SameButId r.headers := by
  unfold withId
  split
  · exact fun _ _ => rfl
  · exact Http.Headers.sameButId_add r.headers id

theorem withId_eq (r : Http.Request) (id : List UInt8) :
    withId r id = { r with headers := (withId r id).headers } := by
  unfold withId
  split <;> rfl

theorem call_withId (r : Http.Request) (id : List UInt8) :
    Call.SameButId (Call.ofRequest (withId r id)) (Call.ofRequest r) := by
  rw [withId_eq]
  exact ⟨rfl, rfl, rfl, rfl, headers_withId r id⟩

/-- The headers of an answer but for the id of its request. -/
def otherHeaders (r : Http.Response) : Http.Headers :=
  r.headers.filter fun h => h.1 ≠ requestIdHeader

theorem otherHeaders_withHeader (r : Http.Response) (id : List UInt8) :
    otherHeaders (r.withHeader requestIdHeader id) = otherHeaders r := by
  simp [otherHeaders, Http.Response.withHeader, Http.Headers.set, List.filter_filter]

/-- What an operation takes does not depend on the id that the call has. -/
theorem idUnread_congr (h : Call.SameButId call call') (hunread : g.IdUnread call') :
    g.IdUnread call := by
  intro row hrow c hc api hapi
  rw [Context.IdUnread, Context.declaredParameters_sameButId h]
  exact hunread row hrow c (selected?_sameButId h g row.id ▸ hc) api hapi

/-- **What goes out depends on a generated id in one header only**, unless the
operation that is called takes the id as a parameter, whose context then
shows it in the body. -/
theorem respond_sameButId (g : Gateway) (r : Http.Request) (id id' : List UInt8) :
    (g.respond id r).1.map Http.Response.status = (g.respond id' r).1.map Http.Response.status ∧
      (g.respond id r).1.map otherHeaders = (g.respond id' r).1.map otherHeaders ∧
      (g.IdUnread (Call.ofRequest r) →
        (g.respond id r).1.map Http.Response.body = (g.respond id' r).1.map Http.Response.body) ∧
      (g.respond id r).2 = (g.respond id' r).2 := by
  have hheaders : (withId r id).headers.SameButId (withId r id').headers := fun name hname =>
    (headers_withId r id name hname).trans (headers_withId r id' name hname).symm
  have h : SameOutcome (g.IdUnread (Call.ofRequest (withId r id))) (g.handle (withId r id))
      (g.handle (withId r id')) := by
    rw [withId_eq r id, withId_eq r id']
    exact handle_sameButId g rfl rfl rfl hheaders
  unfold respond
  revert h
  generalize g.handle (withId r id) = x
  generalize g.handle (withId r id') = y
  intro h
  cases h with
  | same x =>
    obtain ⟨answer, g'⟩ := x
    cases answer with
    | none => exact ⟨rfl, rfl, fun _ => rfl, rfl⟩
    | some answer =>
      refine ⟨rfl, congrArg some ?_, fun _ => rfl, rfl⟩
      exact (otherHeaders_withHeader _ _).trans (otherHeaders_withHeader _ _).symm
  | @answered x y hsame =>
    obtain ⟨hstatus, hother, hbody⟩ :=
      Http.Response.forMethod_congr hsame.status hsame.headers r.method
    refine ⟨congrArg some hstatus, congrArg some ?_, fun hunread => congrArg some ?_, hsame.state⟩
    · calc otherHeaders (outgoing id r x.1)
          = otherHeaders (x.1.forMethod r.method) := otherHeaders_withHeader _ _
        _ = otherHeaders (y.1.forMethod r.method) := by rw [otherHeaders, hother, otherHeaders]
        _ = otherHeaders (outgoing id' r y.1) := (otherHeaders_withHeader _ _).symm
    · exact hbody (hsame.body (idUnread_congr (call_withId r id) hunread))

end Gateway

end ApiGateway
