import ApiGateway.Proofs.Gateway.Answers
import ApiGateway.Proofs.Gateway.Handling
import ApiGateway.Proofs.Loading.Steps
/-!
# Gateway — what a request leaves behind

A request takes a reference to the current snapshot and gives it back,
whatever becomes of it in between. None of its exits touches the store
(`store_serve`), so the reference goes back into the table that it was
taken from, and the table is as it was (`answer_of_current`). The only thing
that a request spends is one check of its limits, and that only if a
candidate with an operation was selected for it (`Charged`): a request that
is turned away before that, or that is a preflight, costs nothing
(`spends_serve`).

While a request waits for a snapshot, the index may handle events; with
nothing of that kind going on the store is left exactly as it was.
-/

namespace ApiGateway

namespace Gateway

variable {g : Gateway} {s : SnapshotId} {c : Candidate} {call : Call} {e : RouteEntry}

/-! ## What serving leaves alone -/

theorem store_serveAdmitted (g : Gateway) (s : SnapshotId) (c : Candidate) (call : Call) :
    (g.serveAdmitted s c call).2.store = g.store := by
  unfold serveAdmitted
  split
  · rfl
  · next api _ =>
    have hresolve : (g.resolve c call api none).2.store = g.store := rfl
    split
    · next g' h => rwa [h] at hresolve
    · next g' h => rwa [h] at hresolve

theorem store_serveSelected (g : Gateway) (s : SnapshotId) (c : Candidate) (call : Call) :
    (g.serveSelected s c call).2.store = g.store := by
  have hlimits := g.store_checkLimits c.entry
  unfold serveSelected
  split
  · rfl
  · split
    · next g' h => rwa [h] at hlimits
    · next g' h =>
      rw [h] at hlimits
      exact (store_serveAdmitted g' s c call).trans hlimits

/-- **No exit touches the store.** -/
theorem store_serve (g : Gateway) (s : SnapshotId) (call : Call) :
    (g.serve s call).2.store = g.store := by
  unfold serve
  split
  · rfl
  · exact store_serveSelected g s _ call

/-! ## What serving spends -/

/-- The buckets after a check for an entry. -/
def afterCheck (b : Buckets) (e : RouteEntry) : Buckets :=
  (b.check e.planId e.clientId e.rateLimits).2

theorem buckets_serveAdmitted (g : Gateway) (s : SnapshotId) (c : Candidate) (call : Call) :
    (g.serveAdmitted s c call).2.buckets = g.buckets := by
  unfold serveAdmitted
  split
  · rfl
  · next api _ =>
    have hresolve : (g.resolve c call api none).2.buckets = g.buckets := rfl
    split
    · next g' h => rwa [h] at hresolve
    · next g' h => rwa [h] at hresolve

theorem buckets_checkLimits (g : Gateway) (e : RouteEntry) :
    (g.checkLimits e).2.buckets =
      if g.settings.rateLimit.enabled then afterCheck g.buckets e else g.buckets := by
  unfold checkLimits
  split
  · rfl
  · rfl

/-- A candidate costs one check if it has an operation and limits are
enforced, and nothing otherwise. -/
theorem buckets_serveSelected (g : Gateway) (s : SnapshotId) (c : Candidate) (call : Call) :
    (g.serveSelected s c call).2.buckets =
      if c.method.isSome ∧ g.settings.rateLimit.enabled then afterCheck g.buckets c.entry
      else g.buckets := by
  have hlimits := g.buckets_checkLimits c.entry
  unfold serveSelected
  split
  · next h => rw [h, if_neg fun h => Bool.noConfusion h.1]
  · next m h =>
    have hcost : (g.checkLimits c.entry).2.buckets =
        if c.method.isSome ∧ g.settings.rateLimit.enabled then afterCheck g.buckets c.entry
        else g.buckets := by
      rw [hlimits, h]
      exact if_congr (by simp) rfl rfl
    split
    · next g' hg => rwa [hg] at hcost
    · next g' hg =>
      rw [hg] at hcost
      exact (buckets_serveAdmitted g' s c call).trans hcost

/-- A call is counted under an entry: the entry of the candidate that is
selected for it and has an operation, with limits enforced. -/
structure CountedUnder (g : Gateway) (s : SnapshotId) (call : Call) (e : RouteEntry) : Prop where
  enabled : g.settings.rateLimit.enabled = true
  selected : ∃ c m, g.selected? s call = some c ∧ c.method = some m ∧ c.entry = e

/-- What is spent of the buckets is one check for the entry that something is
counted under, and nothing if it is counted under none. -/
def Spends (b b' : Buckets) (counted : RouteEntry → Prop) : Prop :=
  (∀ e, counted e → b' = afterCheck b e) ∧ ((∀ e, ¬ counted e) → b' = b)

/-- **A call costs one check of the limits that it is counted under, or
nothing.** -/
theorem spends_serve (g : Gateway) (s : SnapshotId) (call : Call) :
    Spends g.buckets (g.serve s call).2.buckets (g.CountedUnder s call) := by
  unfold serve
  cases hc : g.selected? s call with
  | none =>
    refine ⟨fun e he => ?_, fun _ => rfl⟩
    obtain ⟨c, m, hc', -⟩ := he.selected
    rw [hc] at hc'
    cases hc'
  | some c =>
    have hcost := g.buckets_serveSelected s c call
    refine ⟨fun e he => ?_, fun hnone => ?_⟩
    · obtain ⟨c', m, hc', hm, rfl⟩ := he.selected
      obtain rfl := Option.some.inj (hc.symm.trans hc')
      exact hcost.trans (if_pos ⟨by rw [hm]; rfl, he.enabled⟩)
    · refine hcost.trans (if_neg fun h => ?_)
      obtain ⟨m, hm⟩ := Option.isSome_iff_exists.1 h.1
      exact hnone c.entry ⟨h.2, c, m, hc, hm, rfl⟩

/-! ## The reference given back -/

/-- Every row is referred to, and its count has room for one more. -/
def Countable (t : SnapshotTable) : Prop :=
  ∀ row ∈ OrderedMap.values t, 1 ≤ row.refcount ∧ row.refcount < Nat.pow 2 32 - 1

/-- **A call that finds a snapshot leaves the store as it was**, and spends
what serving it from that snapshot spends. -/
theorem answer_of_current (hkeyed : g.store.snapshots.Keyed)
    (hcounts : Countable g.store.snapshots) {row : Snapshot}
    (hrow : g.store.snapshots.current? = some row) (call : Call) :
    (g.answer call).2.store = g.store ∧
      Spends g.buckets (g.answer call).2.buckets (g.CountedUnder row.id call) := by
  have hroom : row.refcount < SnapshotTable.mostReferences :=
    (hcounts row (List.mem_of_find?_eq_some hrow)).2
  obtain ⟨lease, t, ha⟩ : ∃ lease t, g.store.snapshots.acquire? = some (lease, t) :=
    ⟨_, _, SnapshotTable.acquire?_eq_some_iff.2 ⟨row, hrow, hroom, rfl, rfl⟩⟩
  obtain ⟨row', hrow', hid, hrelease⟩ :=
    hkeyed.release_acquire (fun row hmem => (hcounts row hmem).1) ha
  obtain rfl := Option.some.inj (hrow.symm.trans hrow')
  -- the call is served while the table has one reference more
  have hanswer : (g.answer call).2 =
      ((g.withSnapshots t).serve lease.id call).2.release lease.id := by
    rw [answer, Store.acquire?, ha]
    rfl
  have hserve : ((g.withSnapshots t).serve lease.id call).2.store =
      { g.store with snapshots := t } := store_serve _ _ _
  rw [hanswer]
  refine ⟨?_, ?_⟩
  · rw [release, hserve, Store.release, Store.dropRow]
    simp only [hrelease]
  · rw [hid]
    -- what the call is counted under does not depend on the references
    obtain ⟨hspent, hunspent⟩ := spends_serve (g.withSnapshots t) row.id call
    exact ⟨fun e he => hspent e ⟨he.enabled, he.selected⟩,
      fun hnone => hunspent fun e he => hnone e ⟨he.enabled, he.selected⟩⟩

/-- A call that finds no snapshot changes nothing. -/
theorem answer_of_not_current (hrow : g.store.snapshots.current? = none) (call : Call) :
    (g.answer call).2 = g := by
  rw [answer, Store.acquire?, SnapshotTable.acquire?, hrow]
  rfl

/-! ## Every exit of a request -/

/-- A request that waits has events handled meanwhile, if anything. -/
theorem afterWaiting_cases (g : Gateway) (milliseconds : Nat) :
    g.afterWaiting milliseconds = g ∨
      g.afterWaiting milliseconds = { g with store := g.store.settle } := by
  unfold afterWaiting
  split
  · exact Or.inr rfl
  · exact Or.inl rfl

/-- Without a snapshot the time goes by until the request is given up. -/
theorem answerInTime_of_not_current (hrow : g.store.snapshots.current? = none) (call : Call) :
    (g.answerInTime call).2 = g ∨
      (g.answerInTime call).2 = { g with store := g.store.settle } := by
  have hanswer : ∀ ms, ((g.afterWaiting ms).answer call).2 = g.afterWaiting ms := by
    intro ms
    refine answer_of_not_current ?_ call
    rcases g.afterWaiting_cases ms with h | h
    · rw [h, hrow]
    · rw [h, Store.snapshots_settle, hrow]
  unfold answerInTime
  split
  · exact g.afterWaiting_cases _
  · rw [hanswer]
    exact g.afterWaiting_cases _

/-- **A request that is not within the limits around the gateway changes
nothing**; any other is answered in its time. -/
theorem handle_cases (g : Gateway) (r : Http.Request) :
    (¬ Admitted g r ∧ (g.handle r).2 = g) ∨
      (Admitted g r ∧ g.handle r = g.answerInTime (Call.ofRequest r)) := by
  unfold handle
  split
  · next h => exact Or.inl ⟨fun ha => ha.time h, rfl⟩
  · next htime =>
    split
    · next h => exact Or.inl ⟨fun ha => Bool.noConfusion (ha.declared.symm.trans h), rfl⟩
    · next hdeclared =>
      split
      · next h => exact Or.inl ⟨fun ha => h ha.path, rfl⟩
      · next hpath =>
        split
        · next h => exact Or.inl ⟨fun ha => absurd ha.length (Nat.not_le.2 h), rfl⟩
        · next hlength =>
          exact Or.inr ⟨⟨htime, Bool.eq_false_iff.2 hdeclared, not_not.1 hpath,
            Nat.not_lt.1 hlength⟩, rfl⟩

/-- A request is charged to an entry: it is within the limits around the
gateway, a snapshot is current, and the call is counted under the entry. -/
structure Charged (g : Gateway) (r : Http.Request) (e : RouteEntry) : Prop where
  admitted : Admitted g r
  counted : ∃ row, g.store.snapshots.current? = some row ∧
    g.CountedUnder row.id (Call.ofRequest r) e

/-- **Every exit restores the state.** Whatever the store, the limits and the
table, and by whichever exit a request leaves: the table is as it was, with
every count and in the same order; so is the whole store, but for the
events that are handled while a request waits for a snapshot in vain; and
nothing is spent but one check for the entry that the request is charged to,
if there is one. -/
theorem restored_by_every_exit (g : Gateway) (r : Http.Request)
    (hkeyed : g.store.snapshots.Keyed) (hcounts : Countable g.store.snapshots) :
    (g.handle r).2.store.snapshots = g.store.snapshots ∧
    (g.store.queue.waiting = [] ∨ g.store.snapshots.current?.isSome = true →
      (g.handle r).2.store = g.store) ∧
    ((g.handle r).2.store = g.store ∨ (g.handle r).2.store = g.store.settle) ∧
    (∀ e, Charged g r e →
      (g.handle r).2.buckets = (g.buckets.check e.planId e.clientId e.rateLimits).2) ∧
    ((∀ e, ¬ Charged g r e) → (g.handle r).2.buckets = g.buckets) := by
  rcases g.handle_cases r with ⟨hno, hsame⟩ | ⟨hadmitted, hanswer⟩
  · rw [hsame]
    exact ⟨rfl, fun _ => rfl, Or.inl rfl, fun e he => absurd he.admitted hno, fun _ => rfl⟩
  · cases hrow : g.store.snapshots.current? with
    | some row =>
      rw [handle_eq_answer hrow hadmitted]
      obtain ⟨hstore, hspent, hunspent⟩ :=
        answer_of_current hkeyed hcounts hrow (Call.ofRequest r)
      rw [hstore]
      refine ⟨rfl, fun _ => rfl, Or.inl rfl, fun e he => ?_, fun hnone => ?_⟩
      · obtain ⟨row', hrow', he⟩ := he.counted
        obtain rfl := Option.some.inj (hrow.symm.trans hrow')
        exact hspent e he
      · exact hunspent fun e he => hnone e ⟨hadmitted, row, hrow, he⟩
    | none =>
      have hnone : ∀ e, ¬ Charged g r e := by
        rintro e ⟨-, row, hrow', -⟩
        rw [hrow] at hrow'
        cases hrow'
      rw [hanswer]
      rcases answerInTime_of_not_current hrow (Call.ofRequest r) with h | h
      · rw [h]
        exact ⟨rfl, fun _ => rfl, Or.inl rfl, fun e he => absurd he (hnone e), fun _ => rfl⟩
      · rw [h]
        refine ⟨g.store.snapshots_settle, fun hwait => ?_, Or.inr rfl,
          fun e he => absurd he (hnone e), fun _ => rfl⟩
        exact Store.settle_of_waiting (hwait.resolve_right Bool.noConfusion)

/-- A gateway with a subscription to a plan that allows one call a day. -/
def onceADayGateway (s : SnapshotId) : Gateway :=
  .start .default
    { Store.empty with
      records := .after [.catalog s ⟨"c", "sandbox", none, ⟨"o", "acme"⟩⟩,
        .api s ⟨"a", { ApiDocument.blank with
          info := ⟨none, "1.0.0", "climbs"⟩
          basePath := "/v1"
          paths := [("/peaks", .object [("get", .object [])])] }⟩,
        .product s ⟨"p", ⟨"c", ""⟩,
          { ProductDocument.blank with
            plans := [("gold", ⟨none, [("day", ⟨"1/1day"⟩)], none⟩)] }⟩,
        .subscription s ⟨"u", ⟨"app", none, [⟨"k", none⟩]⟩,
          ⟨"r", ⟨"g", "gold", none⟩, ⟨"p"⟩, [⟨none, ⟨⟨none, "1.0.0", "climbs"⟩⟩⟩]⟩⟩,
        .indexed (.subscription s "u")]
      snapshots := [(s, ⟨s, 1, true⟩)] }

/-- The call of the day is spent, and nothing else is different afterwards. -/
theorem restored_after_call_of_the_day :
    let g := onceADayGateway ⟨1, by decide⟩
    let r : Http.Request := ⟨"GET", ⟨"/v1/peaks", some "client_id=k"⟩, [], []⟩
    (g.handle r).2.store = g.store ∧ (g.handle r).2.buckets = [("g:k:day", 0)] := by
  intro g r
  have hkeyed : g.store.snapshots.Keyed :=
    SnapshotTable.sound_nil.keyed.insert (s := ⟨_, 1, true⟩) rfl
  have hcounts : Countable g.store.snapshots := by
    intro row hrow
    rw [List.mem_singleton.1 hrow]
    decide
  have hadmitted : Admitted g r := ⟨by decide, by decide, by decide, Nat.zero_le _⟩
  -- the entry that is selected has an operation and the limit of the plan
  have hselected : (g.selected? ⟨1, by decide⟩ (Call.ofRequest r)).any
      (fun c => c.method.isSome && afterCheck [] c.entry = [("g:k:day", 0)]) = true := by
    decide +kernel
  obtain ⟨c, hc, hc'⟩ := (Option.any_eq_true _ _).1 hselected
  rw [Bool.and_eq_true, decide_eq_true_eq] at hc'
  obtain ⟨m, hm⟩ := Option.isSome_iff_exists.1 hc'.1
  have hcharged : Charged g r c.entry :=
    ⟨hadmitted, _, rfl, rfl, c, m, hc, hm, rfl⟩
  obtain ⟨-, hstore, -, hspent, -⟩ := restored_by_every_exit g r hkeyed hcounts
  exact ⟨hstore (Or.inl rfl), (hspent c.entry hcharged).trans hc'.2⟩

end Gateway

end ApiGateway
