import ApiGateway.Gateway.Listener
import ApiGateway.Proofs.Route.Choice
/-!
# Gateway — what a call is answered with

A call that finds a snapshot is answered from it at once
(`handle_eq_answer`), and the reference that it holds meanwhile makes no
difference to the answer (`answer_eq_serve`); only where that reference
cannot be counted there is no answer (`answer_of_full`). The status of the
answer
tells whether a slot suits the call: it is 404 exactly if none does, since
whatever comes of a candidate has another one (`serveSelected_status`).
An answer to a preflight is told from all others by its empty body
(`serveSelected_preflight_iff`). `answers_exact` puts this together with
what is chosen.
-/

namespace ApiGateway

namespace Http

namespace Response

/-! ## Bodies -/

/-- An answer with a JSON object has a body. -/
theorem body_json_object_ne_nil (status : Nat) (ms : List (String × Json)) :
    (json status (.object ms)).body ≠ [] := by
  have hopen : String.utf8EncodeChar '\x7b' ≠ [] := by decide
  have hbody : (json status (.object ms)).body =
      String.utf8EncodeChar '\x7b' ++ Utf8.encode (Json.text.membersText ms ++ ['\x7d']) := by
    simp [json, Json.render, Json.text, String.utf8, Utf8.encode]
  rw [hbody]
  exact List.append_ne_nil_of_left_ne_nil hopen _

theorem body_failure_ne_nil (status : Nat) (information : String) :
    (failure status information).body ≠ [] := body_json_object_ne_nil status _

/-- The answer to a preflight has no body. -/
theorem preflight_bare (methods : String) (request : Headers) :
    (preflight methods request).status = 200 ∧ (preflight methods request).body = [] := by
  have hmethods : ((empty 200).withAllowedMethods methods).status = 200 ∧
      ((empty 200).withAllowedMethods methods).body = [] := by
    unfold withAllowedMethods
    split
    · exact ⟨rfl, rfl⟩
    · exact ⟨rfl, rfl⟩
  unfold preflight withAllowedHeaders
  split
  · exact hmethods
  · exact hmethods

end Response

end Http

namespace Gateway

variable {g : Gateway} {s : SnapshotId} {c : Candidate} {call : Call} {row : Snapshot}

/-! ## What comes of a candidate -/

/-- An answer with a body and a status other than that of a call for which
nothing is selected. -/
def IsReply (response : Http.Response) : Prop := response.status ≠ 404 ∧ response.body ≠ []

theorem isReply_failure {status : Nat} (h : status ≠ 404) (information : String) :
    IsReply (.failure status information) :=
  ⟨h, Http.Response.body_failure_ne_nil status information⟩

theorem isReply_echo (e : RouteEntry) (call : Call) (context : Context) :
    IsReply (echo e call context) := by
  have hjson : IsReply (Http.Response.json 200 context.toJson) :=
    ⟨show 200 ≠ 404 by decide, Http.Response.body_json_object_ne_nil 200 _⟩
  unfold echo
  split
  · exact hjson
  · exact hjson

theorem isReply_serveAdmitted (g : Gateway) (s : SnapshotId) (c : Candidate) (call : Call) :
    IsReply (g.serveAdmitted s c call).1 := by
  unfold serveAdmitted
  split
  · exact isReply_failure (by decide) _
  · split
    · exact isReply_failure (by decide) _
    · exact isReply_echo _ _ _

/-- **A candidate with an operation gets a reply**, whatever the limits,
the records and the body of the call. -/
theorem isReply_serveSelected {m : MethodEntry} (hm : c.method = some m) :
    IsReply (g.serveSelected s c call).1 := by
  unfold serveSelected
  rw [hm]
  split
  · contradiction
  · split
    · exact isReply_failure (by decide) _
    · exact isReply_serveAdmitted _ _ _ _

theorem serveSelected_of_none (hm : c.method = none) :
    (g.serveSelected s c call).1 = .preflight c.allowMethods call.headers := by
  unfold serveSelected
  rw [hm]

/-- No candidate comes to the status of a call for which nothing is
selected. -/
theorem status_serveSelected (g : Gateway) (s : SnapshotId) (c : Candidate) (call : Call) :
    (g.serveSelected s c call).1.status ≠ 404 := by
  cases hm : c.method with
  | some m => exact (isReply_serveSelected hm).1
  | none =>
    rw [serveSelected_of_none hm, (Http.Response.preflight_bare _ _).1]
    decide

/-- **The answer is one to a preflight exactly if the candidate has no
operation.** -/
theorem serveSelected_preflight_iff :
    (∃ methods, (g.serveSelected s c call).1 = .preflight methods call.headers) ↔
      c.method = none := by
  constructor
  · rintro ⟨methods, h⟩
    cases hm : c.method with
    | none => rfl
    | some m =>
      have hreply : IsReply (g.serveSelected s c call).1 := isReply_serveSelected hm
      rw [h] at hreply
      exact absurd (Http.Response.preflight_bare _ _).2 hreply.2
  · exact fun hm => ⟨_, serveSelected_of_none hm⟩

/-! ## The reference that is held meanwhile -/

/-- The gateway with another table of snapshots. -/
def withSnapshots (g : Gateway) (t : SnapshotTable) : Gateway :=
  { g with store := { g.store with snapshots := t } }

theorem checkLimits_withSnapshots (g : Gateway) (t : SnapshotTable) (e : RouteEntry) :
    (g.withSnapshots t).checkLimits e =
      ((g.checkLimits e).1, (g.checkLimits e).2.withSnapshots t) := by
  unfold checkLimits
  rw [show (g.withSnapshots t).settings = g.settings from rfl,
    show (g.withSnapshots t).buckets = g.buckets from rfl]
  split
  · rfl
  · rfl

theorem serveAdmitted_withSnapshots (g : Gateway) (t : SnapshotTable) (s : SnapshotId)
    (c : Candidate) (call : Call) :
    ((g.withSnapshots t).serveAdmitted s c call).1 = (g.serveAdmitted s c call).1 := by
  unfold serveAdmitted
  rw [show (g.withSnapshots t).store.records = g.store.records from rfl]
  cases g.store.records.api? s c.entry.apiId with
  | none => rfl
  | some api =>
    have hresolve : (g.withSnapshots t).resolve c call api none =
        ((g.resolve c call api none).1, (g.resolve c call api none).2.withSnapshots t) := rfl
    simp only [hresolve]
    obtain ⟨outcome, g'⟩ := g.resolve c call api none
    cases outcome with
    | error e => rfl
    | ok context => rfl

/-- What comes of a candidate does not depend on the references to
snapshots. -/
theorem serveSelected_withSnapshots (g : Gateway) (t : SnapshotTable) (s : SnapshotId)
    (c : Candidate) (call : Call) :
    ((g.withSnapshots t).serveSelected s c call).1 = (g.serveSelected s c call).1 := by
  unfold serveSelected
  cases c.method with
  | none => rfl
  | some m =>
    rw [checkLimits_withSnapshots]
    obtain ⟨verdict, g'⟩ := g.checkLimits c.entry
    cases verdict with
    | exceeded limit => rfl
    | admitted => exact serveAdmitted_withSnapshots g' t s c call

theorem serve_withSnapshots (g : Gateway) (t : SnapshotTable) (s : SnapshotId) (call : Call) :
    ((g.withSnapshots t).serve s call).1 = (g.serve s call).1 := by
  unfold serve
  rw [show (g.withSnapshots t).selected? s call = g.selected? s call from rfl]
  cases g.selected? s call with
  | none => rfl
  | some c => exact serveSelected_withSnapshots g t s c call

/-- **A call is answered from the current snapshot**, whatever references
there are to it, as long as there can be one more. -/
theorem answer_eq_serve (hrow : g.store.snapshots.current? = some row)
    (hroom : row.refcount < SnapshotTable.mostReferences) (call : Call) :
    (g.answer call).1 = some (g.serve row.id call).1 := by
  obtain ⟨lease, t, hacquire, hid⟩ : ∃ lease t, g.store.acquire? =
      some (lease, { g.store with snapshots := t }) ∧ lease.id = row.id := by
    rw [Store.acquire?, SnapshotTable.acquire?, hrow]
    dsimp only
    rw [SnapshotTable.countUp?_of_lt hroom]
    exact ⟨_, _, rfl, rfl⟩
  have hserve := serve_withSnapshots g t row.id call
  rw [← hserve, ← hid, answer, hacquire]
  rfl

/-- **A call is cut off** if there can be no more references to the current
snapshot. -/
theorem answer_of_full (hrow : g.store.snapshots.current? = some row)
    (hfull : SnapshotTable.mostReferences ≤ row.refcount) (call : Call) :
    (g.answer call).1 = none := by
  have hnone : SnapshotTable.countUp? row.refcount = none := SnapshotTable.countUp?_eq_none.2 hfull
  have hacquire : g.store.acquire? = none := by
    rw [Store.acquire?, SnapshotTable.acquire?, hrow]
    dsimp only
    rw [hnone, Option.map_none, Option.map_none]
  have hisFull : g.store.snapshots.isFull = true := by
    rw [SnapshotTable.isFull, hrow, Option.any_some, hnone, Option.isNone_none]
  rw [answer, hacquire, turnedAway?, if_pos hisFull]

/-- **The status tells whether something is selected.** -/
theorem status_serve_eq_404_iff :
    (g.serve s call).1.status = 404 ↔ g.selected? s call = none := by
  unfold serve
  cases h : g.selected? s call with
  | none => exact ⟨fun _ => rfl, fun _ => rfl⟩
  | some c => exact ⟨fun h => absurd h (status_serveSelected g s c call), nofun⟩

/-! ## Requests within the limits -/

/-- A request is within the limits that stand around the answer to a
call: it has time, its body is no longer than it may be, and it has a
path. -/
structure Admitted (g : Gateway) (r : Http.Request) : Prop where
  time : g.timeLimit ≠ 0
  declared : g.declaresTooMuch r.headers = false
  path : r.target.path.toList.head? = some '/'
  length : r.body.length ≤ g.bodyLimit r.headers

/-- The first attempt finds a snapshot that is there, without waiting. -/
theorem runWithin_snapshotAttempt (hrow : g.store.snapshots.current? = some row)
    (htime : g.timeLimit ≠ 0) :
    ∃ series, Retry.runWithin g.settings.snapshotRetry (fun _ => g.snapshotAttempt) g.timeLimit =
      some series ∧ series.waited = 0 := by
  have hattempt : g.snapshotAttempt = .done () := by
    rw [snapshotAttempt, hrow]
    rfl
  have hwaited : (Retry.run g.settings.snapshotRetry fun _ => g.snapshotAttempt).waited = 0 := by
    rw [Retry.run]
    cases max g.settings.snapshotRetry.maxAttempts 1 - 1 with
    | zero => rfl
    | succ n =>
      rw [Retry.attempts, hattempt]
      rfl
  refine ⟨_, ?_, hwaited⟩
  rw [Retry.runWithin_eq, hwaited, if_pos (Nat.pos_of_ne_zero htime)]

/-- **A request within the limits is answered as a call**, at once if
there is a current snapshot. -/
theorem handle_eq_answer (hrow : g.store.snapshots.current? = some row) {r : Http.Request}
    (h : Admitted g r) : g.handle r = g.answer (Call.ofRequest r) := by
  obtain ⟨series, hseries, hwaited⟩ := runWithin_snapshotAttempt hrow h.time
  have hlength : ¬ g.bodyLimit r.headers < r.body.length := Nat.not_lt.2 h.length
  rw [handle, if_neg h.time, if_neg (by rw [h.declared]; decide), if_neg (not_not.2 h.path),
    if_neg hlength, answerInTime, hseries]
  simp only [hwaited, afterWaiting, Nat.lt_irrefl, if_false]

/-! ## What the answer is -/

open Route

/-- **What comes of a call that is served from a snapshot.** -/
theorem serve_exact (hkeyed : Keyed g.store.records.routeEntries) (call : Call) :
    ((g.serve s call).1.status = 404 ↔ ∀ t, ¬ Suits g.store.records s call t) ∧
    ((∃ t, Suits g.store.records s call t) →
      ∃ t, Chosen g.store.records s call t ∧ t.entry.snapshotId = s ∧
        (g.serve s call).1 = (g.serveSelected s (t.candidate call.method.asciiUpper) call).1 ∧
        ((∃ methods, (g.serve s call).1 = .preflight methods call.headers) ↔
          (t.candidate call.method.asciiUpper).method = none)) := by
  have hnone : g.selected? s call = none ↔ ∀ t, ¬ Suits g.store.records s call t :=
    select?_eq_none_iff hkeyed
  refine ⟨status_serve_eq_404_iff.trans hnone, fun hsuits => ?_⟩
  cases hselected : g.selected? s call with
  | none =>
    obtain ⟨t, ht⟩ := hsuits
    exact absurd ht (hnone.1 hselected t)
  | some c =>
    obtain ⟨t, ht, rfl⟩ := (select?_eq_some_iff hkeyed).1 hselected
    have hserve : (g.serve s call).1 =
        (g.serveSelected s (t.candidate call.method.asciiUpper) call).1 := by
      rw [serve, hselected]
    have hstored := hkeyed.mem_iff.2 ht.suits.serves.stored
    refine ⟨t, ht, (hkeyed.own _ _ _ hstored).1, hserve, ?_⟩
    rw [hserve]
    exact serveSelected_preflight_iff

/-- **What a call is answered with, exactly.** Let a snapshot be current
and the entries be stored under their keys; the limits, the references and
all else may be as they are. A call has an answer unless the snapshot has
as many references as can be counted. It is answered with 404 exactly if
no slot suits it. Otherwise the first of those that do is chosen: its entry
belongs to the snapshot and the caller, its pattern matches the path, it
declares the method or answers the preflight, none of a lower score does,
and it has the secret that the caller presents. The answer is what comes
of its candidate, and it is one to a preflight exactly if the candidate
has no operation. A request within the limits around the gateway gets this
answer. -/
theorem answers_exact (hrow : g.store.snapshots.current? = some row)
    (hkeyed : Keyed g.store.records.routeEntries) (call : Call) :
    ((g.answer call).1 = none ↔ Nat.pow 2 32 - 1 ≤ row.refcount) ∧
    (∀ response, (g.answer call).1 = some response →
      (response.status = 404 ↔ ∀ t, ¬ Suits g.store.records row.id call t) ∧
      ((∃ t, Suits g.store.records row.id call t) →
        ∃ t, Chosen g.store.records row.id call t ∧ t.entry.snapshotId = row.id ∧
          response = (g.serveSelected row.id (t.candidate call.method.asciiUpper) call).1 ∧
          ((∃ methods, response = .preflight methods call.headers) ↔
            (t.candidate call.method.asciiUpper).method = none))) ∧
    ∀ r : Http.Request, Admitted g r → g.handle r = g.answer (Call.ofRequest r) := by
  rcases Nat.lt_or_ge row.refcount SnapshotTable.mostReferences with hroom | hfull
  · have hanswer := answer_eq_serve hrow hroom call
    refine ⟨iff_of_false ?_ (Nat.not_le.2 hroom), fun response hresponse => ?_,
      fun r hr => handle_eq_answer hrow hr⟩
    · rw [hanswer]
      exact nofun
    · rw [hanswer] at hresponse
      obtain rfl := Option.some.inj hresponse
      exact serve_exact hkeyed call
  · have hnone := answer_of_full hrow hfull call
    refine ⟨iff_of_true hnone hfull, fun response hresponse => ?_,
      fun r hr => handle_eq_answer hrow hr⟩
    rw [hnone] at hresponse
    cases hresponse

/-- **A call that cannot be counted has no answer**, not even that nothing
is selected for it. -/
theorem unanswered_when_full :
    ¬ ∀ (g : Gateway) (row : Snapshot) (call : Call), g.store.snapshots.current? = some row →
      Keyed g.store.records.routeEntries →
      ((∃ response, (g.answer call).1 = some response ∧ response.status = 404) ↔
        ∀ t, ¬ Suits g.store.records row.id call t) := by
  intro h
  let row : Snapshot := ⟨⟨1, by decide⟩, Nat.pow 2 32 - 1, true⟩
  let g : Gateway := .start .default { Store.empty with snapshots := [(row.id, row)] }
  let call : Call := ⟨"GET", "/v1/peaks", none, [], []⟩
  have hkeyed : Keyed g.store.records.routeEntries := keyed_after []
  have hunsuited : ∀ t, ¬ Suits g.store.records row.id call t := fun t ht => by
    have hstored := hkeyed.mem_iff.2 ht.serves.stored
    exact absurd hstored List.not_mem_nil
  obtain ⟨response, hresponse, -⟩ := (h g row call rfl hkeyed).2 hunsuited
  rw [answer_of_full rfl (Nat.le_refl _)] at hresponse
  cases hresponse

/-! ## A call that is served -/

/-- A gateway with a subscription that is indexed, to an API with two
templates that have a path in common. -/
def peaksGateway (s : SnapshotId) : Gateway :=
  .start .default
    { Store.empty with
      records := .after [.catalog s ⟨"c", "sandbox", none, ⟨"o", "acme"⟩⟩,
        .api s ⟨"a", { ApiDocument.blank with
          info := ⟨none, "1.0.0", "climbs"⟩
          basePath := "/v1"
          paths := [("/peaks/\x7bname\x7d", .object [("get", .object [])]),
            ("/peaks/highest", .object [("get", .object [])])] }⟩,
        .product s ⟨"p", ⟨"c", ""⟩, .blank⟩,
        .subscription s ⟨"u", ⟨"app", none, [⟨"k", some "secret"⟩]⟩,
          ⟨"r", ⟨"g", "gold", none⟩, ⟨"p"⟩, [⟨none, ⟨⟨none, "1.0.0", "climbs"⟩⟩⟩]⟩⟩,
        .indexed (.subscription s "u")]
      snapshots := [(s, ⟨s, 1, true⟩)] }

/-- A call for that path with the credential of the subscription. -/
def highestPeak : Call :=
  ⟨"GET", "/v1/peaks/highest", some "client_id=k&client_secret=secret", [], []⟩

/-- The call is served under the subscription. -/
theorem highestPeak_chosen :
    ∃ t, Chosen (peaksGateway ⟨1, by decide⟩).store.records ⟨1, by decide⟩ highestPeak t ∧
      t.entry.clientSecret = some "secret" := by
  have hrow : (peaksGateway ⟨1, by decide⟩).store.snapshots.current? =
      some ⟨⟨1, by decide⟩, 1, true⟩ := rfl
  obtain ⟨hcut, hanswered, -⟩ := answers_exact hrow (keyed_after _) highestPeak
  have hroom : ¬ Nat.pow 2 32 - 1 ≤ 1 := by decide
  obtain ⟨response, hresponse⟩ := Option.ne_none_iff_exists'.1 (mt hcut.1 hroom)
  obtain ⟨hmissing, hserved⟩ := hanswered response hresponse
  have hselected : ((peaksGateway ⟨1, by decide⟩).selected? ⟨1, by decide⟩ highestPeak).isSome =
      true := by decide +kernel
  have hfound : response.status ≠ 404 := by
    rw [answer_eq_serve hrow (Nat.not_le.1 hroom)] at hresponse
    obtain rfl := Option.some.inj hresponse
    rw [Ne, status_serve_eq_404_iff]
    exact Option.isSome_iff_ne_none.1 hselected
  obtain ⟨t, ht, -⟩ := hserved (not_forall_not.1 fun hnone => hfound (hmissing.2 hnone))
  exact ⟨t, ht, ht.suits.secret "secret" (by decide +kernel)⟩

end Gateway

end ApiGateway
