import ApiGateway.Proofs.Gateway.Concurrent
/-!
# Gateway — what holds while handlers and a loader are at work

Whatever order the steps come in, some things hold all along
(`System.Consistent`). Every lease and every reference that the loader has
to give back is accounted for; nobody refers to the snapshot that is being
loaded; whatever is being indexed is of that snapshot; and what a handler
has read is what its snapshot has. The last of these rests on one lemma: a
snapshot that is referred to before a step and after it keeps its records
in that step (`Move.only_eq`).
-/

namespace ApiGateway

namespace Custody

variable {c : Custody}

/-- The account is one of the table, and of how many leases there are on
each snapshot. -/
theorem Accounted.congr (h : c.Accounted) {s : Store} {held : List SnapshotId}
    (hs : s.snapshots = c.store.snapshots) (hheld : ∀ id, held.count id = c.held.count id) :
    Accounted ⟨s, held, c.owed⟩ := by
  refine ⟨hs ▸ h.sound, fun id => ?_, fun howed => ?_⟩
  · have hc := h.counted id
    simp only [references, hs, hheld] at hc ⊢
    exact hc
  · obtain ⟨x, hx⟩ := h.installed howed
    exact ⟨x, hs ▸ hx⟩

/-- A snapshot that a lease is held on is referred to. -/
theorem Accounted.pos_of_mem (h : c.Accounted) {id : SnapshotId} (hmem : id ∈ c.held) :
    0 < c.store.snapshots.refcount id := by
  have hcount := List.count_pos_iff.2 hmem
  rw [h.counted id, references]
  omega

end Custody

namespace Store

/-- A reference given back that is not the last one of a snapshot leaves
its records alone. -/
theorem only_release {s : Store} {id x : SnapshotId}
    (hafter : 0 < (s.release id).2.snapshots.refcount x) :
    (s.release id).2.records.only x = s.records.only x := by
  rw [records_release]
  split
  · next hone =>
    refine Records.only_purge_of_ne _ fun hx => ?_
    rw [snapshots_release, SnapshotTable.refcount_release, if_pos hx, hone] at hafter
    exact absurd hafter (Nat.lt_irrefl 0)
  · rfl

/-- Giving back a reference to one snapshot does not delete what another
has. -/
theorem api?_release {s : Store} {id x : SnapshotId} (hne : x ≠ id) (api : String) :
    (s.release id).2.records.api? x api = s.records.api? x api := by
  rw [records_release]
  split
  · exact Records.api?_purge_of_ne _ hne api
  · rfl

end Store

namespace System

variable {y y' : System}

/-- The snapshots of the leases that handlers hold, one for each lease. -/
def leases (hs : List Handler) : List SnapshotId := hs.filterMap fun h => h.stage.lease?

/-- The references that are out. -/
def custody (y : System) : Custody := ⟨y.store, leases y.handlers, y.loader.owed⟩

/-- The leases, with the one of a handler apart. -/
theorem leases_append_cons (before after : List Handler) (h : Handler) :
    leases (before ++ h :: after) = leases before ++ (h.stage.lease?.toList ++ leases after) := by
  rw [leases, List.filterMap_append, List.filterMap_cons]
  cases h.stage.lease? <;> rfl

/-- The events that are being indexed: those that were taken, and those
that wait. -/
def events (y : System) : List IndexEvent := y.tasks.map (·.1) ++ y.store.queue.waiting

/-- **What holds all along.** -/
structure Consistent (y : System) : Prop where
  /-- Every reference is accounted for. -/
  accounted : y.custody.Accounted
  /-- Nobody refers to a snapshot that is being loaded. -/
  unreferenced : ∀ id, y.loader.target? = some id → y.store.snapshots.refcount id = 0
  /-- The queue counts every event until it is dealt with. -/
  counted : y.store.queue.inFlight = y.store.queue.waiting.length + y.tasks.length
  /-- Events are of the snapshot that is being stored. -/
  indexed : ∀ e ∈ y.events, ∃ rest, y.loader = .storing e.snapshot rest
  /-- Workers store entries of that snapshot, for APIs that are stored. -/
  grounded : ∀ p ∈ y.tasks, ∃ known, p.2.Grounded p.1.snapshot known ∧
    ∀ api ∈ known, (y.store.records.api? p.1.snapshot api).isSome = true
  /-- The API of every entry is stored. -/
  joined : y.store.records.Joined
  /-- What a handler has read is what its snapshot has. -/
  serving : ∀ h ∈ y.handlers, h.stage.Faithful y.store.records h.call

theorem consistent_start (g : Gateway) : (start g).Consistent :=
  ⟨⟨SnapshotTable.sound_nil, fun _ => rfl, fun h => absurd rfl h⟩, nofun, rfl,
    fun _ h => absurd h List.not_mem_nil, fun _ h => absurd h List.not_mem_nil,
    Records.joined_empty, fun _ h => absurd h List.not_mem_nil⟩

namespace Consistent

/-- There is room for the first reference to the snapshot that is being
loaded. -/
theorem hasRoomFor (h : y.Consistent) {id : SnapshotId} {rest : List FileRecord}
    (hloader : y.loader = .storing id rest) : y.store.snapshots.HasRoomFor id := by
  have hzero := h.unreferenced id (by rw [hloader]; rfl)
  exact Or.inr (hzero ▸ by decide)

/-- The snapshot of an event is referred to by nobody. -/
theorem refcount_of_event (h : y.Consistent) {e : IndexEvent} (he : e ∈ y.events) :
    y.store.snapshots.refcount e.snapshot = 0 := by
  obtain ⟨rest, hloader⟩ := h.indexed e he
  exact h.unreferenced e.snapshot (by rw [hloader]; rfl)

theorem mem_events {before after : List (IndexEvent × Task)} {e : IndexEvent} {t : Task}
    (htasks : y.tasks = before ++ (e, t) :: after) : e ∈ y.events := by
  rw [events, htasks]
  simp

end Consistent

namespace Move

/-! ## The references -/

/-- **Every move keeps the account.** -/
theorem accounted (hm : Move y y') (hc : y.Consistent) : y'.custody.Accounted := by
  have h := hc.accounted
  cases hm with
  | stay => exact h
  | arrive call =>
    refine h.congr rfl fun id => ?_
    rw [leases_append_cons]
    simp [custody, leases, Stage.lease?]
  | @handle before after hd g stage hsplit hlease _ =>
    refine h.congr rfl fun id => ?_
    rw [custody, hsplit, leases_append_cons, leases_append_cons, hlease]
  | @acquire before after hd g row t hsplit hwaiting ha =>
    refine (h.acquire ha).congr rfl fun id => ?_
    rw [custody, hsplit, leases_append_cons, leases_append_cons, hwaiting]
    simp only [Stage.lease?, Option.toList_some, Option.toList_none, List.nil_append,
      List.count_append]
    omega
  | @drop before after hd g id response hsplit hlease =>
    have hgiven : ∀ x, (leases y.handlers).count x + y.loader.owed.count x =
        (leases before ++ leases after).count x + y.loader.owed.count x
          + if x = id then 1 else 0 := by
      intro x
      rw [hsplit, leases_append_cons, hlease]
      simp only [Option.toList_some, List.count_append, List.count_singleton, beq_iff_eq,
        eq_comm (a := id)]
      omega
    refine (h.release hgiven fun ho => ho).congr rfl fun x => ?_
    rw [leases_append_cons]
    rfl
  | @turn loader _ howed _ =>
    change Custody.Accounted ⟨y.store, leases y.handlers, loader.owed⟩
    rw [howed]
    exact h
  | @put id x rest hloader =>
    have howed : y.custody.owed = [] := by
      rw [custody, hloader]
      rfl
    have hput : (y.store.put id x).snapshots = y.store.snapshots := by rw [Store.put_eq]
    have hstored := h.congr (s := y.store.put id x) hput fun _ => rfl
    rw [howed] at hstored
    exact hstored
  | @install id hloader _ hroom =>
    have howed : y.custody.owed = [] := by
      rw [custody, hloader]
      rfl
    have hpromoted := h.promote hroom howed
    rw [Custody.promote_of_room hroom] at hpromoted
    exact hpromoted
  | cutOff hloader hno => exact absurd (hc.hasRoomFor hloader) hno
  | @repay id owed hloader =>
    change Custody.Accounted ⟨(y.store.release id).2, leases y.handlers, owed⟩
    refine h.release (fun x => ?_) fun _ => ?_
    · simp only [custody, hloader, Loader.owed, List.count_cons, beq_iff_eq, eq_comm (a := id)]
      omega
    · rw [custody, hloader]
      exact List.cons_ne_nil _ _
  | take _ => exact h.congr rfl fun _ => rfl
  | answer _ _ => exact h
  | write _ => exact h.congr rfl fun _ => rfl
  | finish _ => exact h.congr rfl fun _ => rfl

/-- **A snapshot that is referred to before a move and after it keeps its
records.** Records are stored for the snapshot that is being loaded, to
which nobody refers; and a purge is of a snapshot whose last reference
went. -/
theorem only_eq (hm : Move y y') (h : y.Consistent) {x : SnapshotId}
    (hbefore : 0 < y.store.snapshots.refcount x) (hafter : 0 < y'.store.snapshots.refcount x) :
    y'.store.records.only x = y.store.records.only x := by
  cases hm with
  | drop _ _ => exact Store.only_release hafter
  | @put id record rest hloader =>
    have hne : x ≠ id := by
      rintro rfl
      have hzero := h.unreferenced x (by rw [hloader]; rfl)
      omega
    change (y.store.put id record).records.only x = _
    rw [Store.put_eq]
    exact Records.only_put_of_ne _ hne record
  | repay _ => exact Store.only_release hafter
  | @write before after e entry next htasks =>
    obtain ⟨known, hgrounded, -⟩ := h.grounded (e, .store entry next) (htasks ▸ by simp)
    cases hgrounded with
    | store hsnapshot _ _ =>
      have hne : x ≠ entry.snapshotId := by
        rintro rfl
        have hzero := h.refcount_of_event (Consistent.mem_events htasks)
        rw [← hsnapshot] at hzero
        omega
      exact Records.only_putRouteEntry_of_ne _ hne
  | _ => rfl

/-! ## What is being loaded -/

/-- **Nobody comes to refer to a snapshot while it is being loaded**, since
it is not the current one. -/
theorem unreferenced (hm : Move y y') (h : y.Consistent) {id : SnapshotId}
    (htarget : y'.loader.target? = some id) :
    y'.store.snapshots.refcount id = 0 := by
  cases hm with
  | @acquire _ _ _ g row t _ _ ha =>
    have hzero := h.unreferenced id htarget
    obtain ⟨hcurrent, -, hcount, -⟩ := h.accounted.sound.acquire ha
    have hpos := h.accounted.sound.pos_of_isCurrent hcurrent
    have hne : id ≠ row.id := by
      rintro rfl
      exact absurd hpos (by rw [show y.custody.store = y.store from rfl, hzero]; decide)
    exact ((hcount id).trans (if_neg hne)).trans hzero
  | @drop _ _ _ g id' _ _ _ =>
    have hzero := h.unreferenced id htarget
    change (y.store.release id').2.snapshots.refcount id = 0
    rw [Store.snapshots_release, SnapshotTable.refcount_release]
    split
    · next hid => rw [← hid, hzero]
    · exact hzero
  | turn _ _ hnew =>
    rcases hnew id htarget with hold | hrow
    · exact h.unreferenced id hold
    · exact SnapshotTable.refcount_of_row?_none hrow
  | @put id' x rest hloader =>
    change (y.store.put id' x).snapshots.refcount id = 0
    rw [Store.put_eq]
    exact h.unreferenced id (by rw [hloader]; exact htarget)
  | install _ _ _ => cases htarget
  | cutOff _ _ => cases htarget
  | repay _ => cases htarget
  | _ => exact h.unreferenced id htarget

/-- **The queue counts every event until it is dealt with.** -/
theorem counted (hm : Move y y') (h : y.Consistent) :
    y'.store.queue.inFlight = y'.store.queue.waiting.length + y'.tasks.length := by
  have hcounted := h.counted
  cases hm with
  | @drop _ _ _ _ id _ _ _ =>
    change (y.store.release id).2.queue.inFlight = (y.store.release id).2.queue.waiting.length + _
    rwa [Store.queue_release]
  | @put id x rest _ =>
    change (y.store.put id x).queue.inFlight =
      (y.store.put id x).queue.waiting.length + y.tasks.length
    rw [Store.put_eq]
    simp only [List.length_append]
    omega
  | @repay id _ _ =>
    change (y.store.release id).2.queue.inFlight = (y.store.release id).2.queue.waiting.length + _
    rwa [Store.queue_release]
  | @take e rest hwaiting =>
    rw [hwaiting, List.length_cons] at hcounted
    change y.store.queue.inFlight = rest.length + (y.tasks ++ [_]).length
    rw [List.length_append, List.length_singleton]
    omega
  | @answer before after e q next pick htasks =>
    rw [htasks] at hcounted
    rwa [List.length_append, List.length_cons] at hcounted ⊢
  | @write before after e x next htasks =>
    rw [htasks] at hcounted
    change y.store.queue.inFlight = y.store.queue.waiting.length + (before ++ _ :: after).length
    rwa [List.length_append, List.length_cons] at hcounted ⊢
  | @finish before after e htasks =>
    rw [htasks, List.length_append, List.length_cons] at hcounted
    change y.store.queue.inFlight - 1 = y.store.queue.waiting.length + (before ++ after).length
    rw [List.length_append]
    omega
  | _ => exact hcounted

/-- **What is being indexed is of the snapshot that is being stored**, and
so nothing is when that snapshot is made current. -/
theorem indexed (hm : Move y y') (h : y.Consistent) :
    ∀ e ∈ y'.events, ∃ rest, y'.loader = .storing e.snapshot rest := by
  intro e he
  cases hm with
  | @drop _ _ _ _ id _ _ _ =>
    have hevents : e ∈ y.tasks.map (·.1) ++ (y.store.release id).2.queue.waiting := he
    rw [Store.queue_release] at hevents
    exact h.indexed e hevents
  | turn hnot _ _ =>
    obtain ⟨rest, hloader⟩ := h.indexed e he
    exact absurd hloader (hnot _ rest)
  | @put id x rest hloader =>
    have hevents : e ∈ y.tasks.map (·.1) ++ (y.store.put id x).queue.waiting := he
    rw [Store.put_eq] at hevents
    change e ∈ y.tasks.map (·.1) ++ (y.store.queue.waiting ++ y.store.published id [x]) at hevents
    rw [← List.append_assoc, List.mem_append] at hevents
    rcases hevents with hold | hnew
    · obtain ⟨rest', hloader'⟩ := h.indexed e hold
      rw [hloader] at hloader'
      injection hloader' with hid
      exact ⟨rest, by rw [hid]⟩
    · exact ⟨rest, by rw [Store.snapshot_of_mem_published hnew]⟩
  | cutOff hloader hno => exact absurd (h.hasRoomFor hloader) hno
  | install _ hidle _ =>
    -- the queue is idle, so no event is left
    have hcounted := h.counted
    have hwaiting : y.store.queue.waiting = [] := List.length_eq_zero_iff.1 (by omega)
    have htasks : y.tasks = [] := List.length_eq_zero_iff.1 (by omega)
    have hevents : e ∈ y.tasks.map (·.1) ++ y.store.queue.waiting := he
    rw [hwaiting, htasks] at hevents
    cases hevents
  | @repay id owed hloader =>
    have hevents : e ∈ y.tasks.map (·.1) ++ (y.store.release id).2.queue.waiting := he
    rw [Store.queue_release] at hevents
    obtain ⟨rest, hloader'⟩ := h.indexed e hevents
    rw [hloader] at hloader'
    cases hloader'
  | @take e' rest hwaiting =>
    have hevents : e ∈ (y.tasks ++ [(e', Task.ofEvent e')]).map (·.1) ++ rest := he
    refine h.indexed e ?_
    rw [events, hwaiting]
    simpa using hevents
  | @answer before after e' q next pick htasks =>
    have hevents : e ∈ (before ++ (e', _) :: after).map (·.1) ++ y.store.queue.waiting := he
    refine h.indexed e ?_
    rw [events, htasks]
    simpa using hevents
  | @write before after e' x next htasks =>
    have hevents : e ∈ (before ++ (e', next) :: after).map (·.1) ++ y.store.queue.waiting := he
    refine h.indexed e ?_
    rw [events, htasks]
    simpa using hevents
  | @finish before after e' htasks =>
    have hevents : e ∈ (before ++ after).map (·.1) ++ y.store.queue.waiting := he
    refine h.indexed e ?_
    rw [events, htasks]
    simp only [List.map_append, List.map_cons, List.mem_append, List.mem_cons] at hevents ⊢
    exact hevents.imp_left fun hold => hold.imp_right Or.inr
  | _ => exact h.indexed e he

/-! ## What is stored -/

/-- **An API that is stored for the snapshot of an event stays**: only
what somebody refers to is purged. -/
theorem isSome_api? (hm : Move y y') (h : y.Consistent) {e : IndexEvent} (he : e ∈ y.events)
    {api : String} (hapi : (y.store.records.api? e.snapshot api).isSome = true) :
    (y'.store.records.api? e.snapshot api).isSome = true := by
  have hzero := h.refcount_of_event he
  cases hm with
  | @drop before after hd g id _ hsplit hlease =>
    have hpos : 0 < y.store.snapshots.refcount id := by
      refine h.accounted.pos_of_mem ?_
      rw [custody, hsplit, leases_append_cons, hlease]
      simp
    have hne : e.snapshot ≠ id := by
      rintro rfl
      omega
    change ((y.store.release id).2.records.api? e.snapshot api).isSome = true
    rwa [Store.api?_release hne]
  | @put id x rest _ =>
    change ((y.store.put id x).records.api? e.snapshot api).isSome = true
    rw [Store.put_eq]
    exact Records.isSome_api?_put hapi x
  | @repay id owed hloader =>
    obtain ⟨rest, hloader'⟩ := h.indexed e he
    rw [hloader] at hloader'
    cases hloader'
  | _ => exact hapi

/-- **The API of every entry is stored**, whatever is stored and purged. -/
theorem joined (hm : Move y y') (h : y.Consistent) : y'.store.records.Joined := by
  have hrelease : ∀ id, (y.store.release id).2.records.Joined := by
    intro id
    rw [Store.records_release]
    split
    · exact h.joined.purge id
    · exact h.joined
  cases hm with
  | drop _ _ => exact hrelease _
  | @put id x rest _ =>
    change (y.store.put id x).records.Joined
    rw [Store.put_eq]
    exact h.joined.put id x
  | repay _ => exact hrelease _
  | @write before after e x next htasks =>
    obtain ⟨known, hgrounded, hknown⟩ := h.grounded (e, .store x next) (htasks ▸ by simp)
    cases hgrounded with
    | store hsnapshot hmem _ =>
      refine h.joined.putRouteEntry ?_
      rw [hsnapshot]
      exact hknown _ hmem
  | _ => exact h.joined

/-- The APIs that an answer gives are stored. -/
theorem given_stored (h : y.store.records.Joined) {s : SnapshotId} {q : Query} {pick : Nat}
    {api : String} (hapi : api ∈ Task.given q (y.store.records.answer? s q pick)) :
    (y.store.records.api? s api).isSome = true := by
  cases q with
  | api name version =>
    cases ha : y.store.records.answer? s (.api name version) pick with
    | none =>
      rw [ha] at hapi
      cases hapi
    | some a =>
      rw [ha] at hapi
      obtain rfl := List.mem_singleton.1 hapi
      obtain ⟨key, hmem⟩ := Records.mem_of_answer?_api ha
      obtain rfl : a.id = key := h.own s key a hmem
      exact OrderedMap.isSome_get?_of_mem hmem
  | _ => cases hapi

/-- **Workers store entries of the snapshot that is being loaded, for APIs
that are stored.** -/
theorem grounded (hm : Move y y') (h : y.Consistent) {p : IndexEvent × Task} (hp : p ∈ y'.tasks) :
    ∃ known, p.2.Grounded p.1.snapshot known ∧
      ∀ api ∈ known, (y'.store.records.api? p.1.snapshot api).isSome = true := by
  -- a task that was there before is grounded in APIs that are stored still
  have hold : p ∈ y.tasks → ∃ known, p.2.Grounded p.1.snapshot known ∧
      ∀ api ∈ known, (y'.store.records.api? p.1.snapshot api).isSome = true := by
    intro hp
    obtain ⟨known, hgrounded, hknown⟩ := h.grounded p hp
    have he : p.1 ∈ y.events := List.mem_append_left _ (List.mem_map.2 ⟨p, hp, rfl⟩)
    exact ⟨known, hgrounded, fun api hapi => hm.isSome_api? h he (hknown api hapi)⟩
  cases hm with
  | @take e rest hwaiting =>
    rcases List.mem_append.1 hp with hp | hp
    · exact hold hp
    · obtain rfl := List.mem_singleton.1 hp
      exact ⟨[], Task.grounded_ofEvent e, fun _ hapi => absurd hapi List.not_mem_nil⟩
  | @answer before after e q next pick htasks =>
    rcases eq_or_mem_of_mem_replaced htasks hp with rfl | hp
    · obtain ⟨known, hgrounded, hknown⟩ := h.grounded (e, .ask q next) (htasks ▸ by simp)
      cases hgrounded with
      | ask hnext =>
        refine ⟨_, hnext _, fun api hapi => ?_⟩
        rcases List.mem_append.1 hapi with hapi | hapi
        · exact given_stored h.joined hapi
        · exact hknown api hapi
    · exact hold hp
  | @write before after e x next htasks =>
    rcases eq_or_mem_of_mem_replaced htasks hp with rfl | hp
    · obtain ⟨known, hgrounded, hknown⟩ := h.grounded (e, .store x next) (htasks ▸ by simp)
      cases hgrounded with
      | store _ _ hnext => exact ⟨known, hnext, hknown⟩
    · exact hold hp
  | @finish before after e htasks =>
    refine hold ?_
    rw [htasks]
    exact List.mem_append.2 ((List.mem_append.1 hp).imp_right (List.mem_cons_of_mem _))
  | _ => exact hold hp

/-! ## What handlers have read -/

/-- After a move a handler is one that was there before, or one that is
faithful. -/
theorem mem_handlers (hm : Move y y') (h : y.Consistent) {hd : Handler} (hhd : hd ∈ y'.handlers) :
    hd ∈ y.handlers ∨ hd.stage.Faithful y'.store.records hd.call := by
  cases hm with
  | arrive call =>
    rcases List.mem_append.1 hhd with hhd | hhd
    · exact Or.inl hhd
    · obtain rfl := List.mem_singleton.1 hhd
      exact Or.inr trivial
  | handle hsplit _ hfaithful =>
    rcases eq_or_mem_of_mem_replaced hsplit hhd with rfl | hold
    · exact Or.inr (hfaithful h.joined (h.serving _ (hsplit ▸ by simp)))
    · exact Or.inl hold
  | acquire hsplit _ _ =>
    rcases eq_or_mem_of_mem_replaced hsplit hhd with rfl | hold
    · exact Or.inr trivial
    · exact Or.inl hold
  | drop hsplit _ =>
    rcases eq_or_mem_of_mem_replaced hsplit hhd with rfl | hold
    · exact Or.inr trivial
    · exact Or.inl hold
  | _ => exact Or.inl hhd

/-- **A handler stays faithful**, whatever the others do: its snapshot is
referred to before the move and after it. -/
theorem serving (hm : Move y y') (h : y.Consistent) (h' : y'.custody.Accounted) {hd : Handler}
    (hhd : hd ∈ y'.handlers) : hd.stage.Faithful y'.store.records hd.call := by
  rcases hm.mem_handlers h hhd with hold | hfaithful
  · refine Stage.Faithful.congr (fun id hid => ?_) (h.serving hd hold)
    have hbefore : 0 < y.store.snapshots.refcount id :=
      h.accounted.pos_of_mem (List.mem_filterMap.2 ⟨hd, hold, hid⟩)
    have hafter : 0 < y'.store.snapshots.refcount id :=
      h'.pos_of_mem (List.mem_filterMap.2 ⟨hd, hhd, hid⟩)
    exact (hm.only_eq h hbefore hafter).symm
  · exact hfaithful

end Move

/-- **Every step keeps all of it.** -/
theorem Consistent.step (h : y.Consistent) (a : Act) : (y.step a).Consistent := by
  have hm := move_step y a
  have haccounted := hm.accounted h
  exact ⟨haccounted, fun _ => hm.unreferenced h, hm.counted h, hm.indexed h,
    fun _ => hm.grounded h, hm.joined h, fun _ => hm.serving h haccounted⟩

/-- **So does every run.** -/
theorem Consistent.run (h : y.Consistent) (as : List Act) : (y.run as).Consistent := by
  induction as generalizing y with
  | nil => exact h
  | cons a as ih => exact ih (h.step a)

end System

end ApiGateway
