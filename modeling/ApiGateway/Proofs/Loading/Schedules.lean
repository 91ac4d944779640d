import ApiGateway.Proofs.Loading.Puts
import ApiGateway.Proofs.Loading.Workers
import ApiGateway.Proofs.Records.Listing
/-!
# Loading — the index does not depend on the schedule

While the records of a snapshot are stored, the events of those that are
there already are taken and handled. An `Intake` is a snapshot on its way
in: what is still to be stored, and the workers of the index. In one step
a record is stored, an event is taken, or one of the workers makes an
access to the store, and all of this in any order.

The index comes out the same (`index_of_run`). Two things make it so. What
an event's handling asks for was stored before the event was announced,
and nothing that is stored later changes it (`answers_putAll_of_after`), so
every answer is the one that would be given in the end
(`Steady.answer?_eq`). And as no two events write the same key, what is
written under a key comes from one worker, in that worker's order
(`Steady.balance`).
-/

namespace ApiGateway

/-! ## What is stored after an event was announced -/

/-- Records that change nothing of what the handling of an event asks
for. -/
inductive FileRecord.After : IndexEvent → FileRecord → Prop where
  | product {s : SnapshotId} {id : String} {p : Product} :
      p.id ≠ id → After (.product s id) (.product p)
  | behind {s : SnapshotId} {id : String} {u : Subscription} :
      After (.product s id) (.subscription u)
  | subscription {s : SnapshotId} {id : String} {u : Subscription} :
      u.id ≠ id → After (.subscription s id) (.subscription u)

/-- **In the order of storing, every record after an announced one is
such.** -/
theorem SnapshotFiles.after_of_append {f : SnapshotFiles} {id : SnapshotId}
    {made rest : List FileRecord} (hsplit : made ++ rest = f.records)
    (hnodup : (f.events id).Nodup) {e : IndexEvent}
    (he : e ∈ made.filterMap fun x => x.event? id) {x : FileRecord} (hx : x ∈ rest) :
    FileRecord.After e x := by
  obtain ⟨y, hy, hye⟩ := List.mem_filterMap.1 he
  have hrank : y.rank ≤ x.rank := by
    have hpair := f.pairwise_rank
    rw [← hsplit, List.pairwise_append] at hpair
    exact hpair.2.2 y hy x hx
  have hne : x.event? id ≠ some e := by
    rw [events, ← hsplit, List.filterMap_append, List.nodup_append] at hnodup
    exact fun hxe => hnodup.2.2 e he e (List.mem_filterMap.2 ⟨x, hx, hxe⟩) rfl
  cases y with
  | product p =>
    obtain rfl := Option.some.inj hye
    cases x with
    | product p' => exact .product fun h => hne (by rw [FileRecord.event?, h])
    | subscription u => exact .behind
    | _ => simp [FileRecord.rank] at hrank
  | subscription u =>
    obtain rfl := Option.some.inj hye
    cases x with
    | subscription u' => exact .subscription fun h => hne (by rw [FileRecord.event?, h])
    | _ => simp [FileRecord.rank] at hrank
  | _ => cases hye

namespace Records

variable {r : Records} {e : IndexEvent} {q : Query}

theorem get?_put_of_ne {α : Type} (c : Collection α) (s : SnapshotId) {id id' : String}
    (h : id ≠ id') (a : α) : (c.put s id a).get? s id' = c.get? s id' :=
  OrderedMap.get?_insert_of_ne c a fun heq => h (Prod.mk.inj heq).2

theorem answers_put_of_after {x : FileRecord} (hx : FileRecord.After e x) (hq : e.Concerns q) :
    (r.put e.snapshot x).answers e.snapshot q = r.answers e.snapshot q := by
  cases hx with
  | product hne =>
    cases q with
    | product id' =>
      obtain rfl : id' = _ := hq
      exact congrArg Option.toList (get?_put_of_ne _ _ hne _)
    | subscription id' => exact absurd hq id
    | _ => rfl
  | behind =>
    cases q with
    | subscription id' => exact absurd hq id
    | _ => rfl
  | subscription hne =>
    cases q with
    | subscription id' =>
      obtain rfl : id' = _ := hq
      exact congrArg Option.toList (get?_put_of_ne _ _ hne _)
    | _ => rfl

/-- **What is stored later does not change an answer.** -/
theorem answers_putAll_of_after {xs : List FileRecord} (hxs : ∀ x ∈ xs, FileRecord.After e x)
    (hq : e.Concerns q) :
    (r.putAll e.snapshot xs).answers e.snapshot q = r.answers e.snapshot q := by
  induction xs generalizing r with
  | nil => rfl
  | cons x xs ih =>
    have hrest := ih (r := r.put e.snapshot x) fun y hy => hxs y (List.mem_cons_of_mem _ hy)
    exact hrest.trans (answers_put_of_after (hxs x List.mem_cons_self) hq)

/-! ## APIs that are told by name and version -/

/-- The APIs of a snapshot have different names or versions. -/
def ApisDistinct (r : Records) (s : SnapshotId) : Prop :=
  ((r.apis.ofSnapshot s).map fun p => (p.2.document.info.name, p.2.document.info.version)).Nodup

/-- **Then a question has one answer at most.** -/
theorem ApisDistinct.length_answers {s : SnapshotId} (h : r.ApisDistinct s) (q : Query) :
    (r.answers s q).length ≤ 1 := by
  have hlookup : ∀ {α : Type} (o : Option α), o.toList.length ≤ 1 := fun o => by cases o <;> simp
  cases q with
  | api name version =>
    have hcount := List.nodup_iff_count_le_one.1 h (name, version)
    rw [List.count_eq_countP, List.countP_map] at hcount
    have hfilter : ∀ l : List (String × Api),
        ((l.map (·.2)).filter fun a =>
          a.document.info.name = name && a.document.info.version = version).length =
        l.countP fun p => (p.2.document.info.name, p.2.document.info.version) == (name, version) := by
      intro l
      rw [← List.countP_eq_length_filter, List.countP_map]
      exact List.countP_congr fun p _ => by simp
    exact (hfilter _).trans_le hcount
  | _ => exact hlookup _

end Records

namespace Collection

/-- A record of a new id comes last. -/
theorem ofSnapshot_put {α : Type} {c : Collection α} {s : SnapshotId} {id : String}
    (h : id ∉ (c.ofSnapshot s).map (·.1)) (a : α) :
    (c.put s id a).ofSnapshot s = c.ofSnapshot s ++ [(id, a)] := by
  induction c with
  | nil => simp [put, OrderedMap.insert, ofSnapshot]
  | cons p c ih =>
    have hp : p.1 ≠ (s, id) := fun hp => h (by simp [ofSnapshot, hp])
    have hc : id ∉ (ofSnapshot c s).map (·.1) := fun hc => h (by
      simp only [ofSnapshot, List.filterMap_cons]
      split
      · exact hc
      · exact List.mem_cons_of_mem _ hc)
    rw [put, OrderedMap.insert, if_neg hp]
    have hrest := ih hc
    rw [put] at hrest
    simp only [ofSnapshot, List.filterMap_cons] at hrest ⊢
    rw [hrest]
    split <;> rfl

end Collection

namespace Records

/-- Storing a snapshot that has no APIs yet gives it those of its file. -/
theorem apis_putAll (r : Records) (s : SnapshotId) (f : SnapshotFiles)
    (hnone : r.apis.ofSnapshot s = []) (hids : (f.apis.map Api.id).Nodup) :
    (r.putAll s f.records).apis.ofSnapshot s = f.apis.map fun a => (a.id, a) := by
  have hput : (r.putAll s f.records).apis = f.apis.foldl (fun c a => c.put s a.id a) r.apis := by
    obtain ⟨-, hapis, -⟩ := f.filterMap_records
    have hone : ∀ (r : Records) (x : FileRecord), (r.put s x).apis =
        (x.api?.map fun a => r.apis.put s a.id a).getD r.apis :=
      fun r x => congrArg apis (put_eq r s x)
    rw [field_putAll apis FileRecord.api? (fun c a => c.put s a.id a) hone, hapis]
  have hlist : ∀ (as : List Api) (c : Collection Api),
      ((c.ofSnapshot s).map (·.1) ++ as.map Api.id).Nodup →
      (as.foldl (fun c a => c.put s a.id a) c).ofSnapshot s =
        c.ofSnapshot s ++ as.map fun a => (a.id, a) := by
    intro as
    induction as with
    | nil => exact fun c _ => (List.append_nil _).symm
    | cons a as ih =>
      intro c hnd
      have hnew : a.id ∉ (c.ofSnapshot s).map (·.1) := fun hmem =>
        (List.nodup_append.1 hnd).2.2 _ hmem _ List.mem_cons_self rfl
      have hone := Collection.ofSnapshot_put hnew a
      rw [List.foldl_cons, ih, hone, List.append_assoc]
      · rfl
      · rw [hone]
        simpa using hnd
  rw [hput, hlist, hnone, List.nil_append]
  rwa [hnone, List.map_nil, List.nil_append]

/-- **A snapshot whose file has APIs of different names or versions** has
them once it is stored, if it had none before. -/
theorem apisDistinct_putFiles {s : Store} {id : SnapshotId} {f : SnapshotFiles}
    (hnone : s.records.apis.ofSnapshot id = []) (hids : (f.apis.map Api.id).Nodup)
    (hnames : (f.apis.map fun a => (a.document.info.name, a.document.info.version)).Nodup) :
    (s.putFiles id f).records.ApisDistinct id := by
  rw [(s.putFiles_spec id f).1, ApisDistinct, apis_putAll _ _ _ hnone hids, List.map_map]
  exact hnames

end Records

/-! ## A snapshot on its way in -/

/-- A snapshot that is being stored, and the workers of its index. -/
structure Intake extends Indexing where
  /-- The records that are still to be stored. -/
  rest : List FileRecord

namespace Intake

open Store (records_settle records_settle_putFiles)

/-- What can happen: the next record is stored, the oldest event is taken,
or a worker makes its next access to the store. -/
inductive Act where
  | put
  | take
  | work (worker pick : Nat)
  deriving DecidableEq, Repr

/-- One step; what cannot be done changes nothing. -/
def step (id : SnapshotId) (i : Intake) : Act → Intake
  | .put =>
    match i.rest with
    | [] => i
    | x :: rest => ⟨⟨i.store.put id x, i.tasks⟩, rest⟩
  | .take => ⟨i.toIndexing.take, i.rest⟩
  | .work worker pick => ⟨i.toIndexing.work worker pick, i.rest⟩

/-- The state after steps one after the other. -/
def run (id : SnapshotId) (i : Intake) (as : List Act) : Intake := as.foldl (step id) i

/-- Nothing is stored yet, and no event waits. -/
def start (s : Store) (f : SnapshotFiles) : Intake := ⟨⟨s.settle, []⟩, f.records⟩

/-- Everything is stored, and every event is dealt with. -/
def Finished (i : Intake) : Prop := i.rest = [] ∧ i.store.queue.waiting = [] ∧ i.tasks = []

variable {s : Store} {id : SnapshotId} {f : SnapshotFiles} {i : Intake}

/-- All that is to be done for events from now on: what is left of those
that were taken, those that wait, and those that are still to come. -/
def agenda (s : Store) (id : SnapshotId) (i : Intake) : List (IndexEvent × Task) :=
  i.tasks ++ (i.store.queue.waiting ++ s.published id i.rest).map fun e => (e, .ofEvent e)

/-- The entries that are still to be stored, if every question is answered
from these records. -/
def pending (r : Records) (agenda : List (IndexEvent × Task)) : List RouteEntry :=
  agenda.flatMap fun p => p.2.entries r p.1.snapshot

/-- Entries under one key of one snapshot. -/
def under (s : SnapshotId) (key : String) (es : List RouteEntry) : List RouteEntry :=
  es.filter fun e => e.snapshotId = s ∧ e.key = key

/-- The last entry under a key is the last of those under the key. -/
theorem lastUnder_eq_getLast? (es : List RouteEntry) (s : SnapshotId) (key : String) :
    Route.lastUnder es s key = (under s key es).getLast? := by
  rw [Route.lastUnder, under, ← List.head?_reverse, ← List.filter_reverse, List.head?_filter]

theorem pending_ofEvent (r : Records) (es : List IndexEvent) :
    pending r (es.map fun e => (e, .ofEvent e)) = Route.builtBy r es := by
  rw [pending, List.flatMap_map, Route.builtBy]
  simp only [Task.entries_ofEvent]

/-- **A snapshot on its way in is on its way to one index**, the one that
is built from all records together: so much is stored (`made`), and so much
of the index is written (`log`). -/
structure Steady (s : Store) (id : SnapshotId) (f : SnapshotFiles) (made : List FileRecord)
    (log : List RouteEntry) (i : Intake) : Prop where
  split : made ++ i.rest = f.records
  records : i.store.records = Route.putEntries (s.records.putAll id made) log
  announces : i.store.announces = s.announces
  isOpen : i.store.queue.isOpen = s.queue.isOpen
  /-- Events that wait or were taken are of records that are stored. -/
  announced : ∀ e ∈ i.tasks.map (·.1) ++ i.store.queue.waiting, e ∈ s.published id made
  /-- Every event comes up once. -/
  nodup : ((i.agenda s id).map (·.1)).Nodup
  asks : ∀ p ∈ i.tasks, p.2.AsksOnly p.1.Concerns
  /-- What is to be done for an event is part of what it builds. -/
  within : ∀ p ∈ i.agenda s id, p.1 ∈ s.published id f.records ∧
    ∀ x ∈ p.2.entries (s.records.putAll id f.records) p.1.snapshot,
      x ∈ (Route.build (s.records.putAll id f.records) p.1).entries
  /-- Under each key, what is written and what is to be written are what
  all events build. -/
  balance : ∀ t key,
    under t key (log ++ pending (s.records.putAll id f.records) (i.agenda s id)) =
      under t key (Route.builtBy (s.records.putAll id f.records) (s.published id f.records))

namespace Steady

variable {made : List FileRecord} {log : List RouteEntry}

/-- **Every answer is the one that will be given in the end.** -/
theorem answer?_eq (h : Steady s id f made log i)
    (hevents : (f.events id).Nodup)
    (hapis : (s.records.putAll id f.records).ApisDistinct id) {e : IndexEvent}
    (he : e ∈ s.published id made) {q : Query} (hq : e.Concerns q) (pick : Nat) :
    i.store.records.answer? e.snapshot q pick =
      (s.records.putAll id f.records).answer? e.snapshot q 0 := by
  have hid : e.snapshot = id := Store.snapshot_of_mem_published he
  have hlater : ∀ x ∈ i.rest, FileRecord.After e x := fun x hx =>
    SnapshotFiles.after_of_append h.split hevents (Store.mem_of_mem_published he) hx
  have hall : s.records.putAll id f.records = (s.records.putAll id made).putAll id i.rest := by
    rw [← h.split, Records.putAll, List.foldl_append]
    rfl
  have hsame : i.store.records.answers e.snapshot q =
      (s.records.putAll id f.records).answers e.snapshot q := by
    rw [h.records, Records.answers_putEntries, hall, ← hid,
      Records.answers_putAll_of_after hlater hq]
  rw [Records.answer?_congr hsame]
  exact Records.answer?_of_length_le (hid ▸ hapis.length_answers q) pick 0

theorem published_eq (h : Steady s id f made log i) (xs : List FileRecord) :
    i.store.published id xs = s.published id xs := by
  rw [Store.published, Store.published, h.announces, h.isOpen]

theorem start (s : Store) (id : SnapshotId) (f : SnapshotFiles) (hevents : (f.events id).Nodup) :
    Steady s.settle id f [] [] (start s f) := by
  have hagenda : (Intake.start s f).agenda s.settle id =
      (s.settle.published id f.records).map fun e => (e, .ofEvent e) := by
    rw [agenda, Intake.start, Store.waiting_settle, List.nil_append, List.nil_append]
  refine ⟨rfl, rfl, rfl, rfl, fun e he => ?_, ?_, fun p hp => absurd hp List.not_mem_nil,
    fun p hp => ?_, fun t key => ?_⟩
  · rw [Intake.start, List.map_nil, List.nil_append, Store.waiting_settle] at he
    cases he
  · rw [hagenda, List.map_map, Store.published]
    split
    · simpa [Function.comp_def, SnapshotFiles.events] using hevents
    · exact List.nodup_nil
  · rw [hagenda] at hp
    obtain ⟨e, he, rfl⟩ := List.mem_map.1 hp
    refine ⟨he, fun x hx => ?_⟩
    rwa [Task.entries_ofEvent] at hx
  · rw [hagenda, pending_ofEvent, List.nil_append]

/-! ## One step -/

/-- A record that is stored puts its event, if it has one, where it stood
on the agenda. -/
theorem put (h : Steady s id f made log i) {x : FileRecord} {rest : List FileRecord}
    (hrest : i.rest = x :: rest) :
    Steady s id f (made ++ [x]) log ⟨⟨i.store.put id x, i.tasks⟩, rest⟩ := by
  have hagenda : agenda s id ⟨⟨i.store.put id x, i.tasks⟩, rest⟩ = i.agenda s id := by
    rw [agenda, agenda, Store.put_eq, hrest, h.published_eq, List.append_assoc,
      ← Store.published_append, List.singleton_append]
  refine ⟨?_, ?_, ?_, ?_, fun e he => ?_, hagenda ▸ h.nodup, h.asks, hagenda ▸ h.within,
    hagenda ▸ h.balance⟩
  · rw [List.append_assoc, List.singleton_append, ← hrest, h.split]
  · rw [Store.put_eq]
    change i.store.records.put id x = _
    rw [h.records, Records.put_putEntries, Records.putAll, Records.putAll, List.foldl_append]
    rfl
  · rw [Store.put_eq]
    exact h.announces
  · rw [Store.put_eq]
    exact h.isOpen
  · rw [Store.put_eq, h.published_eq] at he
    rw [Store.published_append, List.mem_append]
    change e ∈ i.tasks.map (·.1) ++ (i.store.queue.waiting ++ s.published id [x]) at he
    rw [← List.append_assoc, List.mem_append] at he
    exact he.imp_left (h.announced e)

/-- An event that is taken stays where it stood on the agenda. -/
theorem take (h : Steady s id f made log i) :
    Steady s id f made log ⟨i.toIndexing.take, i.rest⟩ := by
  rcases i.toIndexing.take_cases with ⟨-, ht⟩ | ⟨e, rest, hw, ht⟩
  · rw [ht]
    exact h
  · rw [ht]
    have hagenda : agenda s id ⟨⟨{ i.store with queue := { i.store.queue with waiting := rest } },
        i.tasks ++ [(e, .ofEvent e)]⟩, i.rest⟩ = i.agenda s id := by
      rw [agenda, agenda, hw]
      simp
    refine ⟨h.split, h.records, h.announces, h.isOpen, fun e' he' => ?_, hagenda ▸ h.nodup,
      fun p hp => ?_, hagenda ▸ h.within, hagenda ▸ h.balance⟩
    · refine h.announced e' ?_
      rw [hw]
      simpa using he'
    · rcases List.mem_append.1 hp with hp | hp
      · exact h.asks p hp
      · obtain rfl := List.mem_singleton.1 hp
        exact Task.asksOnly_ofEvent e

/-- Entries of different keys may change places. -/
theorem under_comm {new es : List RouteEntry} (hkeys : ∀ x ∈ new, ∀ y ∈ es, x.key ≠ y.key)
    (t : SnapshotId) (key : String) : under t key (new ++ es) = under t key (es ++ new) := by
  rw [under, under, List.filter_append, List.filter_append]
  by_cases hnil : new.filter (fun e => e.snapshotId = t ∧ e.key = key) = []
  · rw [hnil, List.nil_append, List.append_nil]
  · -- an entry under the key is among the new ones, so there is none among the others
    obtain ⟨x, hx⟩ := List.exists_mem_of_ne_nil _ hnil
    have hes : es.filter (fun e => e.snapshotId = t ∧ e.key = key) = [] := by
      refine List.filter_eq_nil_iff.2 fun y hy hkey => ?_
      have hxkey := of_decide_eq_true (List.mem_filter.1 hx).2
      have hykey := of_decide_eq_true hkey
      exact hkeys x (List.mem_filter.1 hx).1 y hy (hxkey.2.trans hykey.2.symm)
    rw [hes, List.nil_append, List.append_nil]

/-- What a worker writes may come before all that the workers of other
events have still to write. -/
theorem under_before (h : Steady s id f made log i)
    (hkeys : ∀ e ∈ f.events id, ∀ e' ∈ f.events id, e ≠ e' →
      ∀ x ∈ (Route.build (s.records.putAll id f.records) e).entries,
      ∀ x' ∈ (Route.build (s.records.putAll id f.records) e').entries, x.key ≠ x'.key)
    {before tail : List (IndexEvent × Task)} {e : IndexEvent} {t : Task}
    (hagenda : i.agenda s id = before ++ (e, t) :: tail) {new : List RouteEntry}
    (hnew : ∀ x ∈ new, x ∈ t.entries (s.records.putAll id f.records) e.snapshot)
    (u : SnapshotId) (key : String) :
    under u key (new ++ pending (s.records.putAll id f.records) before) =
      under u key (pending (s.records.putAll id f.records) before ++ new) := by
  refine under_comm (fun x hx y hy => ?_) u key
  obtain ⟨p, hp, hy⟩ := List.mem_flatMap.1 hy
  obtain ⟨hpe, hpsub⟩ := h.within p (hagenda ▸ List.mem_append_left _ hp)
  obtain ⟨hee, hesub⟩ := h.within (e, t) (hagenda ▸ by simp)
  have hne : e ≠ p.1 := by
    have hnodup := h.nodup
    rw [hagenda, List.map_append, List.map_cons, List.nodup_append] at hnodup
    exact fun heq =>
      hnodup.2.2 p.1 (List.mem_map.2 ⟨p, hp, rfl⟩) e List.mem_cons_self heq.symm
  have hx' := hesub x (hnew x hx)
  have hy' := hpsub y hy
  exact hkeys e (Store.mem_of_mem_published hee) p.1 (Store.mem_of_mem_published hpe) hne
    x hx' y hy'

/-- **A worker that goes on**: what it has just written, and what is left
for it to write, are what was left for it before. -/
theorem advance (h : Steady s id f made log i)
    (hkeys : ∀ e ∈ f.events id, ∀ e' ∈ f.events id, e ≠ e' →
      ∀ x ∈ (Route.build (s.records.putAll id f.records) e).entries,
      ∀ x' ∈ (Route.build (s.records.putAll id f.records) e').entries, x.key ≠ x'.key)
    {before after : List (IndexEvent × Task)} {e : IndexEvent} {t t' : Task}
    {new : List RouteEntry} (htasks : i.tasks = before ++ (e, t) :: after)
    (hentries : t.entries (s.records.putAll id f.records) e.snapshot =
      new ++ t'.entries (s.records.putAll id f.records) e.snapshot)
    (hasks : t'.AsksOnly e.Concerns) :
    Steady s id f made (log ++ new)
      ⟨⟨i.store.withRecords fun r => Route.putEntries r new, before ++ (e, t') :: after⟩,
        i.rest⟩ := by
  let tail := after ++
    (i.store.queue.waiting ++ s.published id i.rest).map fun e => (e, Task.ofEvent e)
  have hagenda : i.agenda s id = before ++ (e, t) :: tail := by
    rw [agenda, htasks, List.append_assoc, List.cons_append]
  have hagenda' : agenda s id ⟨⟨i.store.withRecords fun r => Route.putEntries r new,
      before ++ (e, t') :: after⟩, i.rest⟩ = before ++ (e, t') :: tail := by
    rw [agenda]
    exact List.append_assoc ..
  have hevents : (before ++ (e, t') :: tail).map (·.1) = (before ++ (e, t) :: tail).map (·.1) := by
    rw [List.map_append, List.map_append, List.map_cons, List.map_cons]
  refine ⟨h.split, ?_, h.announces, h.isOpen, fun e' he' => ?_, ?_, fun p hp => ?_,
    fun p hp => ?_, fun u key => ?_⟩
  · change Route.putEntries i.store.records new = _
    rw [h.records, Route.putEntries_append]
  · refine h.announced e' ?_
    rw [htasks]
    simpa [Store.withRecords] using he'
  · rw [hagenda', hevents, ← hagenda]
    exact h.nodup
  · rcases eq_or_mem_of_mem_replaced htasks hp with rfl | hp
    · exact hasks
    · exact h.asks p hp
  · rw [hagenda'] at hp
    rcases eq_or_mem_of_mem_replaced hagenda hp with rfl | hp
    · obtain ⟨hmem, hsub⟩ := h.within (e, t) (hagenda ▸ by simp)
      exact ⟨hmem, fun x hx => hsub x (hentries ▸ List.mem_append_right _ hx)⟩
    · exact h.within p hp
  · have hmove := h.under_before hkeys hagenda
      (fun x hx => hentries ▸ List.mem_append_left _ hx) u key
    have hbalance := h.balance u key
    rw [hagenda] at hbalance
    rw [hagenda', ← hbalance]
    simp only [pending, under, List.flatMap_append, List.flatMap_cons, List.filter_append, hentries,
      List.append_assoc] at hmove ⊢
    rw [← List.append_assoc (List.filter _ new), hmove, List.append_assoc]

/-- A worker that is done has nothing on the agenda. -/
theorem finish (h : Steady s id f made log i) {before after : List (IndexEvent × Task)}
    {e : IndexEvent} (htasks : i.tasks = before ++ (e, .done) :: after) :
    Steady s id f made log
      ⟨⟨{ i.store with queue := i.store.queue.complete }, before ++ after⟩, i.rest⟩ := by
  let tail := after ++
    (i.store.queue.waiting ++ s.published id i.rest).map fun e => (e, Task.ofEvent e)
  have hagenda : i.agenda s id = before ++ (e, .done) :: tail := by
    rw [agenda, htasks, List.append_assoc, List.cons_append]
  have hagenda' : agenda s id ⟨⟨{ i.store with queue := i.store.queue.complete },
      before ++ after⟩, i.rest⟩ = before ++ tail := List.append_assoc ..
  have hsub : List.Sublist (before ++ tail) (i.agenda s id) :=
    hagenda ▸ (List.sublist_cons_self _ _).append_left before
  have htasks' : List.Sublist (before ++ after) i.tasks :=
    htasks ▸ (List.sublist_cons_self _ _).append_left before
  refine ⟨h.split, h.records, h.announces, h.isOpen, fun e' he' => ?_,
    hagenda' ▸ (hsub.map _).nodup h.nodup, fun p hp => h.asks p (htasks'.subset hp),
    fun p hp => h.within p (hsub.subset (hagenda' ▸ hp)), fun u key => ?_⟩
  · rcases List.mem_append.1 he' with he' | he'
    · exact h.announced e' (List.mem_append_left _ ((htasks'.map _).subset he'))
    · exact h.announced e' (List.mem_append_right _ he')
  · rw [hagenda', ← h.balance u key, hagenda]
    simp [pending]

end Steady

/-! ## Runs -/

section

variable {made : List FileRecord} {log : List RouteEntry}
  (hevents : (f.events id).Nodup)
  (hapis : (s.records.putAll id f.records).ApisDistinct id)
  (hkeys : ∀ e ∈ f.events id, ∀ e' ∈ f.events id, e ≠ e' →
    ∀ x ∈ (Route.build (s.records.putAll id f.records) e).entries,
    ∀ x' ∈ (Route.build (s.records.putAll id f.records) e').entries, x.key ≠ x'.key)

include hevents hapis hkeys

/-- **Every step leads on to the same index.** -/
theorem Steady.step (h : Steady s id f made log i) (a : Act) :
    ∃ made log, Steady s id f made log (step id i a) := by
  cases a with
  | put =>
    rw [Intake.step]
    split
    · exact ⟨made, log, h⟩
    · next hrest => exact ⟨_, log, h.put hrest⟩
  | take => exact ⟨made, log, h.take⟩
  | work worker pick =>
    rw [Intake.step]
    rcases i.toIndexing.work_cases worker pick with
      hw | ⟨before, e, t, after, htasks, ⟨q, next, rfl, hw⟩ | ⟨x, next, rfl, hw⟩ | ⟨rfl, hw⟩⟩
    · rw [hw]
      exact ⟨made, log, h⟩
    · have hmem : (e, Task.ask q next) ∈ i.tasks := htasks ▸ by simp
      have he : e ∈ s.published id made :=
        h.announced e (List.mem_append_left _ (List.mem_map.2 ⟨_, hmem, rfl⟩))
      cases h.asks _ hmem with
      | ask hq hnext =>
        refine ⟨made, log ++ [], ?_⟩
        rw [hw]
        refine h.advance hkeys htasks ?_ (hnext _)
        rw [h.answer?_eq hevents hapis he hq, Task.entries_ask, List.nil_append]
    · have hmem : (e, Task.store x next) ∈ i.tasks := htasks ▸ by simp
      cases h.asks _ hmem with
      | store hnext =>
        refine ⟨made, log ++ [x], ?_⟩
        rw [hw]
        exact h.advance hkeys htasks rfl hnext
    · rw [hw]
      exact ⟨made, log, h.finish htasks⟩

/-- **So does every run.** -/
theorem Steady.run (h : Steady s id f made log i) (as : List Act) :
    ∃ made log, Steady s id f made log (run id i as) := by
  induction as generalizing made log i with
  | nil => exact ⟨made, log, h⟩
  | cons a as ih =>
    obtain ⟨made, log, hstep⟩ := h.step hevents hapis hkeys a
    exact ih hstep

end

/-- Finished, a snapshot has under every key what it would have if it had
been stored first and indexed afterwards. -/
theorem Steady.get?_of_finished {made : List FileRecord} {log : List RouteEntry}
    (h : Steady s.settle id f made log i) (hdone : i.Finished) (t : SnapshotId) (key : String) :
    i.store.records.routeEntries.get? t key =
      (s.settle.putFiles id f).settle.records.routeEntries.get? t key := by
  obtain ⟨hrest, hwaiting, htasks⟩ := hdone
  have hmade : made = f.records := by
    rw [← h.split, hrest, List.append_nil]
  have hagenda : i.agenda s.settle id = [] := by
    rw [agenda, htasks, hwaiting, hrest, Store.published_nil]
    rfl
  have hbalance := h.balance t key
  rw [hagenda, pending, List.flatMap_nil, List.append_nil] at hbalance
  rw [h.records, hmade, records_settle_putFiles, Route.get?_putEntries, Route.get?_putEntries,
    lastUnder_eq_getLast?, lastUnder_eq_getLast?, hbalance]

/-- Route entries have distinct keys all along if they had at first. -/
theorem Steady.nodup_keys {made : List FileRecord} {log : List RouteEntry}
    (h : Steady s id f made log i) (hkeys : (OrderedMap.keys s.records.routeEntries).Nodup) :
    (OrderedMap.keys i.store.records.routeEntries).Nodup := by
  rw [h.records]
  exact Route.nodup_keys_putEntries (by rwa [Records.routeEntries_putAll]) log

/-- **The index does not depend on the schedule.** Let the products of a
snapshot have different ids, and its subscriptions; let its APIs, once all
are stored, have different names or versions; and let no two events of it
build entries of one key. However the storing of its records and the steps
of the workers alternate, whichever worker is ahead, and whichever API is
found first: once everything is stored and every event dealt with, each
key reads as if all records had been stored first and every event handled
after that, and so do the listings. -/
theorem index_of_run (s : Store) (id : SnapshotId) (f : SnapshotFiles) (as : List Act)
    (hproducts : (f.products.map Product.id).Nodup)
    (hsubscriptions : (f.subscriptions.map Subscription.id).Nodup)
    (hapis : (s.settle.putFiles id f).records.ApisDistinct id)
    (hkeys : ∀ e ∈ f.events id, ∀ e' ∈ f.events id, e ≠ e' →
      ∀ x ∈ (Route.build (s.settle.putFiles id f).records e).entries,
      ∀ x' ∈ (Route.build (s.settle.putFiles id f).records e').entries, x.key ≠ x'.key)
    (hfinished : (run id (start s f) as).Finished) :
    let r := (run id (start s f) as).store.records
    let r' := (s.settle.putFiles id f).settle.records
    (∀ t key, r.routeEntries.get? t key = r'.routeEntries.get? t key) ∧
    ((OrderedMap.keys s.records.routeEntries).Nodup →
      ∀ t, r.entriesOf t = r'.entriesOf t ∧
        ∀ client, r.visibleEntries t client = r'.visibleEntries t client) := by
  intro r r'
  have hevents := f.nodup_events id hproducts hsubscriptions
  rw [(s.settle.putFiles_spec id f).1] at hapis hkeys
  obtain ⟨made, log, h⟩ := (Steady.start s id f hevents).run hevents hapis hkeys as
  have hread : ∀ t key, r.routeEntries.get? t key = r'.routeEntries.get? t key :=
    fun t key => h.get?_of_finished hfinished t key
  refine ⟨hread, fun hnodup t => ?_⟩
  have hsettled : (OrderedMap.keys s.settle.records.routeEntries).Nodup := by
    rw [records_settle]
    exact Route.nodup_keys_putEntries hnodup _
  have hr : (OrderedMap.keys r.routeEntries).Nodup := h.nodup_keys hsettled
  have hr' : (OrderedMap.keys r'.routeEntries).Nodup := by
    change (OrderedMap.keys (s.settle.putFiles id f).settle.records.routeEntries).Nodup
    rw [records_settle_putFiles]
    exact Route.nodup_keys_putEntries (by rwa [Records.routeEntries_putAll]) _
  exact ⟨Collection.filter_congr_of_get? hr hr' (hread t) _,
    fun client => Collection.filter_congr_of_get? hr hr' (hread t) _⟩

/-! ## One worker ahead of another -/

/-- A subscription of one credential to the plan of a product. -/
def subscriber (id client : String) : Subscription :=
  ⟨id, ⟨"app", none, [⟨client, none⟩]⟩,
    ⟨"r", ⟨"g", "gold", none⟩, ⟨"p"⟩, [⟨none, ⟨⟨none, "1.0.0", "climbs"⟩⟩⟩]⟩⟩

/-- A snapshot with two subscriptions to its only API. -/
def twoSubscribers : SnapshotFiles where
  catalogs := [⟨"c", "sandbox", none, ⟨"o", "acme"⟩⟩]
  apis := [⟨"a", { ApiDocument.blank with info := ⟨none, "1.0.0", "climbs"⟩ }⟩]
  products := [⟨"p", ⟨"c", ""⟩, .blank⟩]
  subscriptions := [subscriber "u" "k", subscriber "v" "l"]
  tlsProfiles := []
  registries := []

/-- The second subscription is indexed by the time the worker of the first
one makes its first access. -/
def overtaking : List Act :=
  [.put, .put, .put, .take, .work 0 0, .put, .take, .put, .take]
    ++ List.replicate 6 (.work 2 0) ++ List.replicate 6 (.work 1 0) ++ List.replicate 2 (.work 0 0)

/-- The index is the one that is built from all records together, and has
the second subscription's entry. -/
theorem index_of_overtaking :
    (run ⟨1, by decide⟩ (start .empty twoSubscribers) overtaking).Finished ∧
      ((run ⟨1, by decide⟩ (start .empty twoSubscribers) overtaking).store.records.visibleEntries
        ⟨1, by decide⟩ (some "l")).map RouteEntry.subscriptionId = ["v"] := by
  have hapis : (Store.empty.settle.putFiles ⟨1, by decide⟩ twoSubscribers).records.ApisDistinct
      ⟨1, by decide⟩ := Records.apisDistinct_putFiles rfl (by decide) (by decide)
  have hfinished : (run ⟨1, by decide⟩ (start .empty twoSubscribers) overtaking).Finished :=
    ⟨rfl, rfl, rfl⟩
  obtain ⟨-, hlistings⟩ := index_of_run .empty ⟨1, by decide⟩ twoSubscribers overtaking
    (by decide) (by decide) hapis (by decide +kernel) hfinished
  refine ⟨hfinished, ?_⟩
  rw [(hlistings List.nodup_nil ⟨1, by decide⟩).2 (some "l")]
  decide +kernel

end Intake

end ApiGateway
