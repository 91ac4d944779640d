import ApiGateway.Proofs.Gateway.Consistency
import Mathlib.Data.List.Induction
/-!
# Gateway — a call sees one snapshot throughout

A handler that holds a lease has had it since a step of its own in which
its snapshot was current, and the snapshot has had the same records ever
since (`held_since`). So whatever a handler reads, and however late, is
what it would have read at that moment: its entries, its API and its
context are all of the one snapshot, and the API of the entry that it
selected is found (`one_snapshot`).

This is so for every run. A handler that asks for one lease more than can
be counted is cut off and holds none, and the loader always has room for
its reference, since nobody refers to what is being loaded
(`Consistent.hasRoomFor`).
-/

namespace ApiGateway

namespace System

variable {y : System}

/-! ## Runs -/

@[simp] theorem run_nil (y : System) : y.run [] = y := rfl

@[simp] theorem run_cons (y : System) (a : Act) (as : List Act) :
    y.run (a :: as) = (y.step a).run as := rfl

theorem run_append (y : System) (as bs : List Act) : y.run (as ++ bs) = (y.run as).run bs :=
  List.foldl_append

/-! ## One handler along a run -/

/-- Only a call that comes in and a handler that goes on change the
handlers. -/
theorem handlers_step (y : System) (a : Act) :
    (∃ call, a = .arrive call) ∨ (∃ handler, a = .serve handler) ∨
      (y.step a).handlers = y.handlers := by
  cases a with
  | arrive call => exact Or.inl ⟨call, rfl⟩
  | serve handler => exact Or.inr (Or.inl ⟨handler, rfl⟩)
  | load id =>
    refine Or.inr (Or.inr ?_)
    change (y.load id).handlers = _
    unfold load
    split <;> rfl
  | read files =>
    refine Or.inr (Or.inr ?_)
    change (y.read files).handlers = _
    unfold read
    split <;> rfl
  | proceed =>
    refine Or.inr (Or.inr ?_)
    change y.proceed.handlers = _
    unfold proceed
    split
    · rfl
    · split
      · split <;> rfl
      · rfl
    · rfl
    · rfl
    · rfl
  | take => exact Or.inr (Or.inr rfl)
  | work worker pick => exact Or.inr (Or.inr rfl)

/-- A handler takes its lease in this step, on the current snapshot. -/
structure Takes (y : System) (i : Nat) (call : Call) (id : SnapshotId) : Prop where
  waiting : y.handlers[i]? = some ⟨call, .waiting⟩
  current : y.store.snapshots.isCurrent id = true
  leased : (y.step (.serve i)).handlers[i]? = some ⟨call, .leased id⟩
  records : (y.step (.serve i)).store.records = y.store.records

/-- **A handler that holds a lease after a step** held it before, or takes
it in this step. -/
theorem held_before (h : y.Consistent) {a : Act} {i : Nat}
    {hd : Handler} (hi : (y.step a).handlers[i]? = some hd) {id : SnapshotId}
    (hlease : hd.stage.lease? = some id) :
    (∃ hd', y.handlers[i]? = some hd' ∧ hd'.call = hd.call ∧ hd'.stage.lease? = some id) ∨
      a = .serve i ∧ y.Takes i hd.call id := by
  rcases y.handlers_step a with ⟨call, rfl⟩ | ⟨k, rfl⟩ | hsame
  · have hi' : (y.handlers ++ [⟨call, .waiting⟩])[i]? = some hd := hi
    rw [List.getElem?_append] at hi'
    split at hi'
    · exact Or.inl ⟨hd, hi', rfl, hlease⟩
    · -- a handler that was just added holds nothing
      obtain rfl := List.mem_singleton.1 (List.mem_of_getElem? hi')
      cases hlease
  · cases hk : y.handlers[k]? with
    | none =>
      have hsame : y.step (.serve k) = y := by rw [step, serve, hk]
      rw [hsame] at hi
      exact Or.inl ⟨hd, hi, rfl, hlease⟩
    | some h0 =>
      have hstep : y.step (.serve k) = { y with
          gateway := (y.gateway.advance h0.call h0.stage).2
          handlers := y.handlers.set k ⟨h0.call, (y.gateway.advance h0.call h0.stage).1⟩ } := by
        rw [step, serve, hk]
      by_cases hki : k = i
      · subst hki
        have hlt := (List.getElem?_eq_some_iff.1 hk).1
        rw [hstep] at hi
        have hd_eq : (⟨h0.call, (y.gateway.advance h0.call h0.stage).1⟩ : Handler) = hd := by
          rw [List.getElem?_set_self hlt] at hi
          exact Option.some.inj hi
        subst hd_eq
        rcases y.gateway.advance_cases h0.call h0.stage with
          ⟨-, hkept, -⟩ | ⟨hwaiting, row, t, ha, hstage, hstore⟩ | ⟨_, response, -, hstage, -⟩
        · exact Or.inl ⟨h0, hk, rfl, hkept ▸ hlease⟩
        · have hid : row.id = id := by
            rw [hstage] at hlease
            exact Option.some.inj hlease
          subst hid
          refine Or.inr ⟨rfl, ?_, ?_, ?_, ?_⟩
          · rw [hk, ← hwaiting]
          · exact (h.accounted.sound.acquire ha).1
          · rw [hstep, hstage]
            exact List.getElem?_set_self hlt
          · rw [hstep]
            change (y.gateway.advance h0.call h0.stage).2.store.records = y.store.records
            rw [hstore]
            rfl
        · rw [hstage] at hlease
          cases hlease
      · rw [hstep] at hi
        have hi' : (y.handlers.set k ⟨h0.call, (y.gateway.advance h0.call h0.stage).1⟩)[i]? =
            some hd := hi
        rw [List.getElem?_set_ne hki] at hi'
        exact Or.inl ⟨hd, hi', rfl, hlease⟩
  · rw [hsame] at hi
    exact Or.inl ⟨hd, hi, rfl, hlease⟩

/-- **A handler has held its lease since it took it**, and its snapshot has
had the same records since. -/
theorem held_since (h : y.Consistent) {as : List Act}
    (hnone : ∀ hd ∈ y.handlers, hd.stage.lease? = none) {i : Nat} {hd : Handler}
    (hi : (y.run as).handlers[i]? = some hd) {id : SnapshotId}
    (hlease : hd.stage.lease? = some id) :
    ∃ pre post, as = pre ++ .serve i :: post ∧ (y.run pre).Takes i hd.call id ∧
      (y.run as).store.records.only id = (y.run pre).store.records.only id := by
  induction as using List.reverseRecOn generalizing hd with
  | nil =>
    rw [hnone hd (List.mem_of_getElem? hi)] at hlease
    cases hlease
  | append_singleton as a ih =>
    have hrun : y.run (as ++ [a]) = (y.run as).step a := by rw [run_append, run_cons, run_nil]
    have hbefore := h.run as
    have hafter := hbefore.step a
    rw [hrun] at hi ⊢
    rcases held_before hbefore hi hlease with ⟨hd', hi', hcall, hlease'⟩ | ⟨rfl, htakes⟩
    · obtain ⟨pre, post, rfl, htakes, hsame⟩ := ih hi' hlease'
      -- the lease is held on both sides of the step
      have hpos := hbefore.accounted.pos_of_mem
        (List.mem_filterMap.2 ⟨hd', List.mem_of_getElem? hi', hlease'⟩)
      have hpos' := hafter.accounted.pos_of_mem
        (List.mem_filterMap.2 ⟨hd, List.mem_of_getElem? hi, hlease⟩)
      refine ⟨pre, post ++ [a], by simp, hcall ▸ htakes, ?_⟩
      exact ((move_step _ a).only_eq hbefore hpos hpos').trans hsame
    · exact ⟨as, [], by simp, htakes, congrArg (fun r => r.only id) htakes.records⟩

/-! ## What a handler sees -/

/-- **A call sees one snapshot throughout.** However the steps of any
number of handlers, of a loader and of its workers alternate: a handler
that holds a lease on a snapshot took it when the snapshot was current, and
the snapshot has not been deleted since, nor has any record of it changed.
The entries that the handler has listed are those that it would have listed
at that moment, all of that snapshot. The candidate that it has selected is
of one of them, its API was found, and is the one that would have been found
at that moment. The context that it has built is for that snapshot. -/
theorem one_snapshot (g : Gateway) (as : List Act) :
    let y := (start g).run as
    ∀ i hd, y.handlers[i]? = some hd → ∀ id, hd.stage.lease? = some id →
      (y.store.snapshots.row? id).isSome = true ∧
      ∃ pre post, as = pre ++ .serve i :: post ∧
        let y' := (start g).run pre
        y'.Takes i hd.call id ∧
        y.store.records.only id = y'.store.records.only id ∧
        (∀ entries, hd.stage.entries? = some entries →
          entries = y'.store.records.visibleEntries id hd.call.clientId? ∧
          (∀ e ∈ entries, e.snapshotId = id) ∧
          ∀ c api, hd.stage.lookup? = some (c, api) →
            c.entry ∈ entries ∧ api = y'.store.records.api? id c.entry.apiId ∧
              api.isSome = true) ∧
        ∀ context, hd.stage.context? = some context → context.snapshotId = id := by
  intro y i hd hi id hlease
  have h : y.Consistent := (consistent_start g).run as
  have hmem : hd ∈ y.handlers := List.mem_of_getElem? hi
  have hpos : 0 < y.store.snapshots.refcount id :=
    h.accounted.pos_of_mem (List.mem_filterMap.2 ⟨hd, hmem, hlease⟩)
  obtain ⟨pre, post, has, htakes, hsame⟩ :=
    held_since (consistent_start g) (fun _ hd => absurd hd List.not_mem_nil) hi hlease
  refine ⟨(h.accounted.sound.row?_isSome id).2 hpos, pre, post, has, htakes, hsame, ?_⟩
  have hlisted : ∀ e ∈ y.store.records.visibleEntries id hd.call.clientId?, e.snapshotId = id :=
    fun e he => (h.joined.of_mem_visibleEntries he).1
  have hentries := Records.visibleEntries_congr hsame hd.call.clientId?
  have hfaithful := h.serving hd hmem
  refine ⟨fun entries hlist => ?_, fun context hcontext => ?_⟩
  · obtain rfl := hfaithful.entries_eq hlease hlist
    refine ⟨hentries, hlisted, fun c api hlookup => ?_⟩
    obtain ⟨hc, hapi, hsome⟩ := hfaithful.lookup hlease hlookup
    exact ⟨hc, hapi.trans (Records.api?_congr hsame _), hsome⟩
  · obtain ⟨e, he, hsnapshot⟩ := hfaithful.context hlease hcontext
    exact hsnapshot.trans (hlisted e he)

/-! ## A snapshot that is replaced while a call is served on it -/

/-- A snapshot with a subscription to an API of one path. -/
def peaks : SnapshotFiles where
  catalogs := [⟨"c", "sandbox", none, ⟨"o", "acme"⟩⟩]
  apis := [⟨"a", { ApiDocument.blank with
    info := ⟨none, "1.0.0", "climbs"⟩
    basePath := "/v1"
    paths := [("/peaks/highest", .object [("get", .object [])])] }⟩]
  products := [⟨"p", ⟨"c", ""⟩, .blank⟩]
  subscriptions := [⟨"u", ⟨"app", none, [⟨"k", none⟩]⟩,
    ⟨"r", ⟨"g", "gold", none⟩, ⟨"p"⟩, [⟨none, ⟨⟨none, "1.0.0", "climbs"⟩⟩⟩]⟩⟩]
  tlsProfiles := []
  registries := []

/-- A snapshot with nothing in it. -/
def noFiles : SnapshotFiles := ⟨[], [], [], [], [], []⟩

/-- A call for that path under that subscription. -/
def climb : Call := ⟨"GET", "/v1/peaks/highest", some "client_id=k", [], []⟩

/-- The loader loads a snapshot, a handler lists its entries, the loader
replaces the snapshot, and the handler goes on until it has its context. -/
def replacement (s s' : SnapshotId) : List Act :=
  List.flatten [
    [.load s, .read (some peaks)], List.replicate 4 .proceed,
    [.take, .take], List.replicate 9 (.work 0 0), [.proceed, .proceed],
    [.arrive climb, .serve 0, .serve 0],
    [.load s', .read (some noFiles), .proceed, .proceed],
    [.serve 0, .serve 0]]

/-- The other snapshot is current by then, the first one is still there,
and the context is for the first one. -/
theorem one_snapshot_across_replacement :
    let as := replacement ⟨1, by decide⟩ ⟨2, by decide⟩
    let y := (start (.start .default .empty)).run as
    y.store.snapshots.isCurrent ⟨2, by decide⟩ = true ∧
      (y.store.snapshots.row? ⟨1, by decide⟩).isSome = true ∧
      ∃ hd, y.handlers[0]? = some hd ∧
        ∃ context, hd.stage.context? = some context ∧ context.snapshotId = ⟨1, by decide⟩ := by
  intro as y
  have hcontext : (y.handlers[0]?.bind fun hd => hd.stage.context?).isSome = true := by
    decide +kernel
  obtain ⟨context, hcontext⟩ := Option.isSome_iff_exists.1 hcontext
  obtain ⟨hd, hhd, hcontext⟩ := Option.bind_eq_some_iff.1 hcontext
  have hlease : hd.stage.lease? = some ⟨1, by decide⟩ := by
    have hleases : (y.handlers[0]?.bind fun hd => hd.stage.lease?) = some ⟨1, by decide⟩ := by
      decide +kernel
    rwa [hhd] at hleases
  obtain ⟨hrow, _, _, -, -, -, -, hsnapshot⟩ :=
    one_snapshot (.start .default .empty) as 0 hd hhd ⟨1, by decide⟩ hlease
  exact ⟨by decide +kernel, hrow, hd, hhd, context, hcontext, hsnapshot context hcontext⟩

end System

end ApiGateway
