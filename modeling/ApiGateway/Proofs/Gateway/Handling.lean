import ApiGateway.Gateway.Basic
import ApiGateway.Proofs.Loading.Puts
import ApiGateway.Proofs.Records.Reading
import ApiGateway.Proofs.Route.Selection
/-!
# Gateway — a call handled one access at a time

`Gateway.answer` serves a call at once. In truth its handler goes through
stages, with one access to the snapshots or the records in each: it takes
a lease, lists the entries that its caller may use, looks up the API of
the entry it selects, builds the context, and gives the lease back
(`Gateway.advance`). Others come between these accesses. A handler that is
left alone answers as `Gateway.answer` does (`advance_alone`).

A handler is faithful to some records if what it has read is what it would
read in them (`Stage.Faithful`). That depends on the records of its own
snapshot only (`Stage.Faithful.congr`). Where every entry has its API
stored (`Records.Joined`), a handler that is faithful stays so and finds
the API of the entry that it selected (`advance_cases`).
-/

namespace ApiGateway

/-! ## The stages of a handler -/

/-- How far the handler of a call has come, with what it has read. -/
inductive Stage where
  /-- It has no snapshot yet. Trying again when there is none is waiting
  longer. -/
  | waiting
  /-- It holds a lease on a snapshot. -/
  | leased (id : SnapshotId)
  /-- It has listed the entries that its caller may use. -/
  | listed (id : SnapshotId) (entries : List RouteEntry)
  /-- It has selected a candidate, which is within its limits, and has
  looked up the API. -/
  | found (id : SnapshotId) (entries : List RouteEntry) (c : Candidate) (api : Option Api)
  /-- It has built the context. -/
  | resolved (id : SnapshotId) (entries : List RouteEntry) (c : Candidate) (api : Api)
    (context : Context)
  /-- It has its answer without a context and still holds the lease. -/
  | answered (id : SnapshotId) (response : Http.Response)
  /-- It has answered, or was cut off before it had a lease, and holds
  nothing. -/
  | finished (response : Option Http.Response)

namespace Stage

/-- The snapshot that the handler holds a lease on. -/
def lease? : Stage → Option SnapshotId
  | leased id => some id
  | listed id _ => some id
  | found id .. => some id
  | resolved id .. => some id
  | answered id _ => some id
  | _ => none

/-- The entries that the handler has listed. -/
def entries? : Stage → Option (List RouteEntry)
  | listed _ entries => some entries
  | found _ entries .. => some entries
  | resolved _ entries .. => some entries
  | _ => none

/-- The candidate that the handler has selected, with what looking up its
API gave. -/
def lookup? : Stage → Option (Candidate × Option Api)
  | found _ _ c api => some (c, api)
  | resolved _ _ c api _ => some (c, some api)
  | _ => none

/-- The context that the handler has built. -/
def context? : Stage → Option Context
  | resolved _ _ _ _ context => some context
  | _ => none

end Stage

namespace Gateway

/-- One stage of the handler of a call. -/
def advance (g : Gateway) (call : Call) : Stage → Stage × Gateway
  | .waiting =>
    match g.store.acquire? with
    | none => (.finished g.turnedAway?, g)
    | some (lease, store) => (.leased lease.id, { g with store := store })
  | .leased id => (.listed id (g.store.records.visibleEntries id call.clientId?), g)
  | .listed id entries =>
    match Candidate.select? (Candidate.find call.method call.path entries) call.clientSecret? with
    | none => (.answered id (.failure 404 Candidate.noMatchMessage), g)
    | some c =>
      match c.method with
      | none => (.answered id (.preflight c.allowMethods call.headers), g)
      | some _ =>
        match g.checkLimits c.entry with
        | (.exceeded limit, g') => (.answered id (.failure 429 (Buckets.exceededMessage limit)), g')
        | (.admitted, g') => (.found id entries c (g'.store.records.api? id c.entry.apiId), g')
  | .found id _ _ none => (.answered id (.failure 500 "internal error"), g)
  | .found id entries c (some api) =>
    match g.resolve c call api none with
    | (.error e, g') => (.answered id (.failure 400 e.message), g')
    | (.ok context, g') => (.resolved id entries c api context, g')
  | .resolved id _ c _ context => (.finished (some (echo c.entry call context)), g.release id)
  | .answered id response => (.finished (some response), g.release id)
  | .finished response => (.finished response, g)

/-- Stages one after the other, with nothing between them. -/
def advanceBy (g : Gateway) (call : Call) (stage : Stage) : Nat → Stage × Gateway
  | 0 => (stage, g)
  | n + 1 =>
    let (stage', g') := g.advance call stage
    g'.advanceBy call stage' n

theorem advanceBy_finished (g : Gateway) (call : Call) (response : Option Http.Response)
    (n : Nat) :
    g.advanceBy call (.finished response) n = (.finished response, g) := by
  induction n with
  | zero => rfl
  | succ n ih => exact ih

/-- **A handler that is left alone answers the call.** -/
theorem advance_alone (g : Gateway) (call : Call) :
    g.advanceBy call .waiting 5 = (.finished (g.answer call).1, (g.answer call).2) := by
  rw [advanceBy, advance, answer]
  cases g.store.acquire? with
  | none => exact advanceBy_finished g call _ 4
  | some r =>
    obtain ⟨lease, store⟩ := r
    simp only [advanceBy, advance, serve, selected?, candidates]
    cases Candidate.select? (Candidate.find call.method call.path
        (store.records.visibleEntries lease.id call.clientId?)) call.clientSecret? with
    | none => rfl
    | some c =>
      simp only [serveSelected]
      cases c.method with
      | none => rfl
      | some m =>
        dsimp only
        rcases checkLimits _ c.entry with ⟨_ | limit, g'⟩
        · simp only [serveAdmitted]
          cases g'.store.records.api? lease.id c.entry.apiId with
          | none => rfl
          | some api =>
            dsimp only
            rcases g'.resolve c call api none with ⟨e | context, g''⟩
            · rfl
            · rfl
        · rfl

end Gateway

/-! ## Records that belong together -/

/-- **Records that belong together**: APIs are stored under their own ids,
entries in their own snapshots, and the API of each entry is stored. -/
structure Records.Joined (r : Records) : Prop where
  own : r.apis.All fun _ id a => a.id = id
  stored : r.routeEntries.All fun s _ e => e.snapshotId = s ∧ (r.api? s e.apiId).isSome = true

namespace Records

variable {r : Records} {s s' : SnapshotId}

theorem joined_empty : Joined .empty := ⟨Collection.all_nil, Collection.all_nil⟩

/-- An entry that is listed is of the snapshot, and its API is stored. -/
theorem Joined.of_mem_visibleEntries (h : r.Joined) {client : Option String} {e : RouteEntry}
    (he : e ∈ r.visibleEntries s client) : e.snapshotId = s ∧ (r.api? s e.apiId).isSome = true := by
  obtain ⟨key, hmem, -⟩ := Collection.mem_filter.1 he
  exact h.stored s key e hmem

/-- An API that is stored stays when something else is stored. -/
theorem isSome_api?_put {id : String} (h : (r.api? s' id).isSome = true) (x : FileRecord) :
    ((r.put s x).api? s' id).isSome = true := by
  cases x with
  | catalog c => rwa [put, api?, apis_putCatalog]
  | api a =>
    rw [put, api?, putApi, Collection.get?, Collection.put, OrderedMap.get?_insert]
    split
    · rfl
    · exact h
  | _ => exact h

theorem Joined.put (h : r.Joined) (s : SnapshotId) (x : FileRecord) : (r.put s x).Joined := by
  refine ⟨?_, fun s' key e he => ?_⟩
  · cases x with
    | catalog c =>
      rw [Records.put, apis_putCatalog]
      exact h.own
    | api a => exact h.own.put rfl
    | _ => exact h.own
  · rw [routeEntries_put] at he
    obtain ⟨hs, hapi⟩ := h.stored s' key e he
    exact ⟨hs, isSome_api?_put hapi x⟩

theorem Joined.putRouteEntry (h : r.Joined) {e : RouteEntry}
    (he : (r.api? e.snapshotId e.apiId).isSome = true) : (r.putRouteEntry e).Joined :=
  ⟨h.own, h.stored.put ⟨rfl, he⟩⟩

theorem api?_purge_of_ne (r : Records) (h : s' ≠ s) (id : String) :
    (r.purge s).api? s' id = r.api? s' id := by
  rw [api?, purge, Collection.get?_purge, if_neg h, api?]

theorem Joined.purge (h : r.Joined) (s : SnapshotId) : (r.purge s).Joined := by
  refine ⟨h.own.purge s, fun s' key e he => ?_⟩
  obtain ⟨hmem, hne⟩ := List.mem_filter.1 he
  obtain ⟨hs, hapi⟩ := h.stored s' key e hmem
  exact ⟨hs, by rwa [api?_purge_of_ne r (of_decide_eq_true hne)]⟩

end Records

/-! ## Faithful handlers -/

/-- **A handler has read what these records have.** The entries are those
of its snapshot that its caller may use, the candidate is of one of them,
its API was found and is the one that is stored, and the context is for
the snapshot of the entry. -/
def Stage.Faithful (r : Records) (call : Call) : Stage → Prop
  | listed id entries => entries = r.visibleEntries id call.clientId?
  | found id entries c api =>
    entries = r.visibleEntries id call.clientId? ∧ c.entry ∈ entries ∧
      api = r.api? id c.entry.apiId ∧ api.isSome = true
  | resolved id entries c api context =>
    entries = r.visibleEntries id call.clientId? ∧ c.entry ∈ entries ∧
      some api = r.api? id c.entry.apiId ∧ context.snapshotId = c.entry.snapshotId
  | _ => True

/-- **Only the records of its own snapshot matter to a handler.** -/
theorem Stage.Faithful.congr {r r' : Records} {call : Call} {stage : Stage}
    (hsame : ∀ id, stage.lease? = some id → r.only id = r'.only id) (h : stage.Faithful r call) :
    stage.Faithful r' call := by
  cases stage with
  | listed id entries => exact h.trans (Records.visibleEntries_congr (hsame id rfl) _)
  | found id entries c api =>
    obtain ⟨hentries, hmem, hapi, hsome⟩ := h
    exact ⟨hentries.trans (Records.visibleEntries_congr (hsame id rfl) _), hmem,
      hapi.trans (Records.api?_congr (hsame id rfl) _), hsome⟩
  | resolved id entries c api context =>
    obtain ⟨hentries, hmem, hapi, hcontext⟩ := h
    exact ⟨hentries.trans (Records.visibleEntries_congr (hsame id rfl) _), hmem,
      hapi.trans (Records.api?_congr (hsame id rfl) _), hcontext⟩
  | _ => trivial

section Faithful

variable {r : Records} {call : Call} {stage : Stage} {id : SnapshotId}

/-- What a faithful handler has listed. -/
theorem Stage.Faithful.entries_eq (h : stage.Faithful r call) (hlease : stage.lease? = some id)
    {entries : List RouteEntry} (hentries : stage.entries? = some entries) :
    entries = r.visibleEntries id call.clientId? := by
  cases stage with
  | listed id' es =>
    cases hlease
    cases hentries
    exact h
  | found id' es c api =>
    cases hlease
    cases hentries
    exact h.1
  | resolved id' es c api context =>
    cases hlease
    cases hentries
    exact h.1
  | _ => cases hentries

/-- The candidate that a faithful handler has selected is of an entry that
it has listed, and its API was found. -/
theorem Stage.Faithful.lookup (h : stage.Faithful r call) (hlease : stage.lease? = some id)
    {c : Candidate} {api : Option Api} (hlookup : stage.lookup? = some (c, api)) :
    c.entry ∈ r.visibleEntries id call.clientId? ∧ api = r.api? id c.entry.apiId ∧
      api.isSome = true := by
  cases stage with
  | found id' es c' api' =>
    cases hlease
    cases hlookup
    obtain ⟨rfl, hmem, hapi, hsome⟩ := h
    exact ⟨hmem, hapi, hsome⟩
  | resolved id' es c' api' context =>
    cases hlease
    cases hlookup
    obtain ⟨rfl, hmem, hapi, -⟩ := h
    exact ⟨hmem, hapi, rfl⟩
  | _ => cases hlookup

/-- The context of a faithful handler is for the snapshot of an entry that
it has listed. -/
theorem Stage.Faithful.context (h : stage.Faithful r call) (hlease : stage.lease? = some id)
    {context : Context} (hcontext : stage.context? = some context) :
    ∃ e ∈ r.visibleEntries id call.clientId?, context.snapshotId = e.snapshotId := by
  cases stage with
  | resolved id' es c api context' =>
    cases hlease
    cases hcontext
    obtain ⟨rfl, hmem, -, hsnapshot⟩ := h
    exact ⟨c.entry, hmem, hsnapshot⟩
  | _ => cases hcontext

end Faithful

/-- A context is for the snapshot of the entry that it is built from. -/
theorem Context.snapshotId_resolve {settings : ResolveSettings}
    {cache cache' : Template.PatternCache} {c : Candidate} {call : Call} {api : Api}
    {explicit : Option String} {context : Context}
    (h : Context.resolve settings cache c call api explicit = (.ok context, cache')) :
    context.snapshotId = c.entry.snapshotId := by
  have hproperties : ∀ (ps : OrderedMap String ApiProperty) (x : Context),
      (x.copyProperties ps).snapshotId = x.snapshotId := by
    intro ps
    induction ps with
    | nil => exact fun x => rfl
    | cons p ps ih =>
      intro x
      refine (ih (x.copyProperty p)).trans ?_
      unfold copyProperty
      split <;> rfl
  have hstart : ((identified settings c call api).withContentType explicit).snapshotId =
      c.entry.snapshotId := by
    cases explicit <;> rfl
  rw [resolve] at h
  split at h
  · cases h
  · obtain ⟨h, -⟩ := Prod.mk.inj h
    rw [← Except.ok.inj h]
    exact (hproperties _ _).trans hstart

/-- The candidate that is selected is one of the candidates. -/
theorem Candidate.mem_of_select? {cs : List Candidate} {secret : Option String} {c : Candidate}
    (h : select? cs secret = some c) : c ∈ cs := by
  cases secret with
  | none => exact List.mem_of_head? h
  | some secret => exact List.mem_of_find?_eq_some h

namespace Gateway

theorem store_checkLimits (g : Gateway) (e : RouteEntry) : (g.checkLimits e).2.store = g.store := by
  unfold checkLimits
  split <;> rfl

/-- **Everything that a handler does to the store**: nothing while it holds
what it held, and then it stays faithful; a lease more; or its lease given
back. -/
theorem advance_cases (g : Gateway) (call : Call) (stage : Stage) :
    ((g.advance call stage).2.store = g.store ∧ (g.advance call stage).1.lease? = stage.lease? ∧
      (g.store.records.Joined → stage.Faithful g.store.records call →
        (g.advance call stage).1.Faithful g.store.records call)) ∨
    (stage = .waiting ∧ ∃ row t, g.store.snapshots.acquire? = some (row, t) ∧
      (g.advance call stage).1 = .leased row.id ∧
      (g.advance call stage).2.store = { g.store with snapshots := t }) ∨
    ∃ id response, stage.lease? = some id ∧ (g.advance call stage).1 = .finished response ∧
      (g.advance call stage).2.store = (g.store.release id).2 := by
  cases stage with
  | waiting =>
    rw [advance, Store.acquire?]
    cases ha : g.store.snapshots.acquire? with
    | none => exact Or.inl ⟨rfl, rfl, fun _ _ => trivial⟩
    | some r => exact Or.inr (Or.inl ⟨rfl, r.1, r.2, rfl, rfl, rfl⟩)
  | leased id => exact Or.inl ⟨rfl, rfl, fun _ _ => rfl⟩
  | listed id entries =>
    refine Or.inl ?_
    rw [advance]
    cases hc : Candidate.select? (Candidate.find call.method call.path entries)
        call.clientSecret? with
    | none => exact ⟨rfl, rfl, fun _ _ => trivial⟩
    | some c =>
      dsimp only
      cases c.method with
      | none => exact ⟨rfl, rfl, fun _ _ => trivial⟩
      | some m =>
        have hstore := g.store_checkLimits c.entry
        rcases hlimits : g.checkLimits c.entry with ⟨_ | limit, g'⟩
        · rw [hlimits] at hstore
          dsimp only at hstore ⊢
          refine ⟨hstore, rfl, fun hjoined hentries => ?_⟩
          -- the candidate is of an entry that was listed, and so its API is stored
          have hmem : c.entry ∈ entries := (Candidate.mem_find (Candidate.mem_of_select? hc)).1
          have hstored := hjoined.of_mem_visibleEntries (hentries ▸ hmem)
          rw [hstore]
          exact ⟨hentries, hmem, rfl, hstored.2⟩
        · rw [hlimits] at hstore
          exact ⟨hstore, rfl, fun _ _ => trivial⟩
  | found id entries c api =>
    refine Or.inl ?_
    cases api with
    | none => exact ⟨rfl, rfl, fun _ _ => trivial⟩
    | some api =>
      rw [advance, resolve]
      rcases hr : Context.resolve g.resolveSettings g.patterns c call api none with
        ⟨e | context, cache⟩
      · exact ⟨rfl, rfl, fun _ _ => trivial⟩
      · exact ⟨rfl, rfl, fun _ h => ⟨h.1, h.2.1, h.2.2.1, Context.snapshotId_resolve hr⟩⟩
  | resolved id entries c api context => exact Or.inr (Or.inr ⟨id, _, rfl, rfl, rfl⟩)
  | answered id response => exact Or.inr (Or.inr ⟨id, _, rfl, rfl, rfl⟩)
  | finished response => exact Or.inl ⟨rfl, rfl, fun _ _ => trivial⟩

end Gateway

end ApiGateway
