import ApiGateway.Proofs.Loading.Puts
import ApiGateway.Proofs.Route.References
import ApiGateway.Proofs.Route.Tasks
import Mathlib.Data.Set.Operations
/-!
# Snapshots — each by itself

The records of all snapshots are in the same collections, so what is done
for one snapshot goes through the records of the others. It leaves them as
they are: storing a record, storing a route entry, handling an event with
whatever it comes upon (`only_perform`), giving a reference back in one or in
two steps and purging change neither the records nor the row of another
snapshot (`only_stepFor`, `row?_stepFor`). What can be observed of a snapshot
is read off these two (`observe_congr`), so no sequence of such steps can be
observed there (`unobserved_elsewhere`).

Where several APIs bear a name and a version, which of them a search comes
upon is not fixed and may change with what is stored elsewhere. So what is
observed is which APIs it may come upon; if there is only one, that is what
it gives.

Handling an event is a sequence of lookups, which change nothing, and of
entries stored, each of which is such a step too. So the sequences also
have the cases in which other steps come between two accesses of one
handling. If its lookups come upon the first records, handling an event
step by step is handling it at once (`complete_eq`).
-/

namespace ApiGateway

/-! ## What can be observed of a snapshot -/

/-- What can be asked about one snapshot. -/
inductive Observation where
  | organization (id : String)
  | catalog (id : String)
  | product (id : String)
  | api (id : String)
  | subscription (id : String)
  /-- What a search for the API with a name and a version may give. -/
  | named (name version : String)
  | routeEntries
  /-- The route entries for a client id, or for callers without any. -/
  | visible (client : Option String)
  | recordCount
  /-- The row in the table of snapshots. -/
  | row

/-- What the answer to a question looks like. -/
def Observation.Outcome : Observation → Type
  | organization _ => Option Organization
  | catalog _ => Option Catalog
  | product _ => Option Product
  | api _ => Option Api
  | subscription _ => Option Subscription
  | named .. => Set (Option Api)
  | routeEntries => List RouteEntry
  | visible _ => List RouteEntry
  | recordCount => Nat
  | row => Option Snapshot

/-- What is observed of a snapshot. -/
def Store.observe (s : Store) (id : SnapshotId) : (o : Observation) → o.Outcome
  | .organization x => s.records.organization? id x
  | .catalog x => s.records.catalog? id x
  | .product x => s.records.product? id x
  | .api x => s.records.api? id x
  | .subscription x => s.records.subscription? id x
  | .named name version => Set.range (s.records.findApi? id name version)
  | .routeEntries => s.records.entriesOf id
  | .visible client => s.records.visibleEntries id client
  | .recordCount => s.records.count id
  | .row => s.snapshots.row? id

/-! ## Reading one snapshot -/

namespace Collection

variable {α : Type} {c c' : Collection α} {s : SnapshotId}

theorem get?_congr (h : c.only s = c'.only s) (id : String) : c.get? s id = c'.get? s id := by
  rw [← get?_only, h, get?_only]

theorem ofSnapshot_congr (h : c.only s = c'.only s) : c.ofSnapshot s = c'.ofSnapshot s := by
  rw [← ofSnapshot_only, h, ofSnapshot_only]

theorem find?_congr (h : c.only s = c'.only s) (test : α → Bool) (pick : Nat) :
    c.find? s test pick = c'.find? s test pick := by
  rw [find?, matching, ofSnapshot_congr h, find?, matching]

theorem filter_congr (h : c.only s = c'.only s) (test : α → Bool) :
    c.filter s test = c'.filter s test := by
  rw [filter, ofSnapshot_congr h, filter]

theorem count_congr (h : c.only s = c'.only s) : c.count s = c'.count s := by
  rw [count, ofSnapshot_congr h, count]

end Collection

namespace Records

variable {r r' : Records} {s : SnapshotId}

theorem findApi?_congr (h : r.only s = r'.only s) (name version : String) (pick : Nat) :
    r.findApi? s name version pick = r'.findApi? s name version pick :=
  Collection.find?_congr (congrArg apis h) _ pick

theorem entriesOf_congr (h : r.only s = r'.only s) : r.entriesOf s = r'.entriesOf s := by
  rw [entriesOf, entriesOf, Collection.filter_congr (congrArg routeEntries h)]

theorem count_congr (h : r.only s = r'.only s) : r.count s = r'.count s := by
  rw [count, count, Collection.count_congr (congrArg organizations h),
    Collection.count_congr (congrArg catalogs h), Collection.count_congr (congrArg products h),
    Collection.count_congr (congrArg apis h), Collection.count_congr (congrArg subscriptions h),
    Collection.count_congr (congrArg routeEntries h),
    Collection.count_congr (congrArg tlsProfiles h), Collection.count_congr (congrArg registries h)]

end Records

namespace Store

variable {s s' : Store} {id : SnapshotId}

/-- **What can be observed of a snapshot is read off its records and its
row.** -/
theorem observe_congr (hrecords : s.records.only id = s'.records.only id)
    (hrow : s.snapshots.row? id = s'.snapshots.row? id) (o : Observation) :
    s.observe id o = s'.observe id o := by
  cases o with
  | organization x => exact Collection.get?_congr (congrArg Records.organizations hrecords) x
  | catalog x => exact Collection.get?_congr (congrArg Records.catalogs hrecords) x
  | product x => exact Collection.get?_congr (congrArg Records.products hrecords) x
  | api x => exact Records.api?_congr hrecords x
  | subscription x => exact Collection.get?_congr (congrArg Records.subscriptions hrecords) x
  | named name version =>
    exact congrArg Set.range (funext (Records.findApi?_congr hrecords name version))
  | routeEntries => exact Records.entriesOf_congr hrecords
  | visible client => exact Records.visibleEntries_congr hrecords client
  | recordCount => exact Records.count_congr hrecords
  | row => exact hrow

end Store

/-! ## An event handled, whatever it comes upon -/

namespace Task

variable {r : Records} {s : SnapshotId}

/-- The records after a task has been carried out. Where several records
answer a question, the numbers say which one it is given; the first one
where no number is left. -/
def perform (r : Records) (s : SnapshotId) : Task → List Nat → Records
  | done, _ => r
  | ask q next, picks => (next (r.answer? s q (picks.headD 0))).perform r s picks.tail
  | store e next, picks => next.perform (r.putRouteEntry e) s picks

/-- Stored entries do not change what a task stores. -/
theorem entries_putRouteEntry (r : Records) (e : RouteEntry) (t : Task) :
    t.entries (r.putRouteEntry e) s = t.entries r s := by
  induction t with
  | done => rfl
  | ask q next ih =>
    have hanswer : (r.putRouteEntry e).answer? s q 0 = r.answer? s q 0 :=
      Records.answer?_congr (Records.answers_putEntries r [e] s q) 0
    rw [entries_ask, entries_ask, hanswer, ih]
  | store x next ih => rw [entries_store, entries_store, ih]

/-- **Given the first answers**, a task stores its entries. -/
theorem perform_nil (r : Records) (t : Task) :
    t.perform r s [] = Route.putEntries r (t.entries r s) := by
  induction t generalizing r with
  | done => rfl
  | ask q next ih => exact ih (r.answer? s q 0) r
  | store e next ih =>
    rw [perform, ih, entries_putRouteEntry, entries_store]
    rfl

/-- That is how an event is handled at once. -/
theorem perform_ofEvent (r : Records) (e : IndexEvent) :
    (ofEvent e).perform r e.snapshot [] = (Route.handle r e).2 := by
  rw [perform_nil, entries_ofEvent]
  rfl

/-- **A task leaves other snapshots alone**, whatever its questions are
answered with. -/
theorem only_perform {known : List String} {t : Task} (h : Grounded s known t) {x : SnapshotId}
    (hx : x ≠ s) (r : Records) (picks : List Nat) :
    (t.perform r s picks).only x = r.only x := by
  induction h generalizing r picks with
  | done => rfl
  | ask _ ih => exact ih _ r picks.tail
  | @store _ e _ hs _ _ ih =>
    exact (ih (r.putRouteEntry e) picks).trans (r.only_putRouteEntry_of_ne (hs ▸ hx))

end Task

/-! ## What is done for one snapshot -/

/-- A step that is taken for a snapshot. -/
inductive StepFor (id : SnapshotId) where
  | organization (o : Organization)
  /-- A record of any other kind is stored, and announced if its kind is. -/
  | record (x : FileRecord)
  | entry (e : RouteEntry) (own : e.snapshotId = id)
  /-- An event is handled at once, with or without success. -/
  | complete (e : IndexEvent) (own : e.snapshot = id)
  /-- An event is handled, with or without success, and its lookups come
  upon these records. -/
  | handle (e : IndexEvent) (own : e.snapshot = id) (picks : List Nat)
  /-- A reference is given back, and with the last one the snapshot is
  deleted. -/
  | release
  /-- The first half of that: the reference is taken from the row. -/
  | dropRow
  /-- The second half. -/
  | purge

namespace Store

variable {id x : SnapshotId}

/-- The store after a step. -/
def stepFor (s : Store) : StepFor id → Store
  | .organization o => s.withRecords fun r => r.putOrganization id o
  | .record y => s.put id y
  | .entry e _ => s.withRecords fun r => r.putRouteEntry e
  | .complete e _ => s.complete e
  | .handle e _ picks =>
    { s with
      records := (Task.ofEvent e).perform s.records e.snapshot picks
      queue := s.queue.complete }
  | .release => (s.release id).2
  | .dropRow => (s.dropRow id).2
  | .purge => s.purge id

/-- The store after steps, in their order. -/
def stepsFor (s : Store) (steps : List (StepFor id)) : Store := steps.foldl stepFor s

/-- An event that is handled at once comes upon the first record each
time. -/
theorem complete_eq (s : Store) (e : IndexEvent) :
    s.complete e =
      { s with
        records := (Task.ofEvent e).perform s.records e.snapshot []
        queue := s.queue.complete } := by
  rw [complete, Task.perform_ofEvent]

/-- **One step leaves the records of other snapshots alone.** -/
theorem only_stepFor (s : Store) (step : StepFor id) (hx : x ≠ id) :
    (s.stepFor step).records.only x = s.records.only x := by
  cases step with
  | organization o =>
    change (s.records.putOrganization id o).only x = _
    simp only [Records.putOrganization, Records.only, Collection.only_put_of_ne _ hx]
  | record y =>
    rw [stepFor, put_eq]
    exact Records.only_put_of_ne _ hx y
  | entry e own => exact Records.only_putRouteEntry_of_ne _ (own ▸ hx)
  | complete e own =>
    rw [stepFor, complete_eq]
    exact Task.only_perform (Task.grounded_ofEvent e) (own ▸ hx) _ []
  | handle e own picks => exact Task.only_perform (Task.grounded_ofEvent e) (own ▸ hx) _ picks
  | release =>
    rw [stepFor, records_release]
    split
    · exact Records.only_purge_of_ne _ hx
    · rfl
  | dropRow => rfl
  | purge => exact Records.only_purge_of_ne _ hx

/-- **One step leaves the rows of other snapshots alone.** -/
theorem row?_stepFor (s : Store) (step : StepFor id) (hx : x ≠ id) :
    (s.stepFor step).snapshots.row? x = s.snapshots.row? x := by
  cases step with
  | record y => rw [stepFor, put_eq]
  | release => rw [stepFor, snapshots_release, SnapshotTable.row?_release_of_ne hx]
  | dropRow => exact SnapshotTable.row?_release_of_ne hx
  | _ => rfl

theorem only_stepsFor (s : Store) (steps : List (StepFor id)) (hx : x ≠ id) :
    (s.stepsFor steps).records.only x = s.records.only x := by
  induction steps generalizing s with
  | nil => rfl
  | cons step steps ih => exact (ih (s.stepFor step)).trans (only_stepFor s step hx)

theorem row?_stepsFor (s : Store) (steps : List (StepFor id)) (hx : x ≠ id) :
    (s.stepsFor steps).snapshots.row? x = s.snapshots.row? x := by
  induction steps generalizing s with
  | nil => rfl
  | cons step steps ih => exact (ih (s.stepFor step)).trans (row?_stepFor s step hx)

/-- **What is done for one snapshot cannot be observed of another.** Whatever
is stored in a snapshot, whatever events of it are handled, with success or
without and whatever they come upon, and whichever references to it are
given back, down to its deletion, and in whatever order: every lookup,
listing and count of another snapshot gives what it gave before, and so
does its row in the table. A search for the API with a name and a version
may give what it might have given before, and if no more than one API of
that snapshot bears them it does give what it gave, whichever record the
searches come upon. -/
theorem unobserved_elsewhere (s : Store) (hx : x ≠ id) (steps : List (StepFor id)) :
    (∀ o, (s.stepsFor steps).observe x o = s.observe x o) ∧
    ∀ name version, (s.records.apis.matching x (Records.bears name version)).length ≤ 1 →
      ∀ pick pick', (s.stepsFor steps).records.findApi? x name version pick =
        s.records.findApi? x name version pick' := by
  refine ⟨observe_congr (only_stepsFor s steps hx) (row?_stepsFor s steps hx),
    fun name version hone pick pick' => ?_⟩
  rw [Records.findApi?_congr (only_stepsFor s steps hx)]
  exact Collection.find?_of_length_le_one hone pick pick'

/-! ## Two generations with the same ids -/

/-- The records of a snapshot with one subscription, two APIs of the same
name and version, and one of another name. -/
def oneSubscription : List FileRecord :=
  let document : ApiDocument :=
    { ApiDocument.blank with
      info := ⟨none, "1.0.0", "climbs"⟩
      paths := [("/peaks", .object [("get", .object [])])] }
  [.catalog ⟨"c", "sandbox", none, ⟨"o", "acme"⟩⟩, .api ⟨"a", document⟩, .api ⟨"b", document⟩,
    .api ⟨"d", { document with info := ⟨none, "1.0.0", "walks"⟩ }⟩,
    .product ⟨"p", ⟨"c", ""⟩, .blank⟩,
    .subscription ⟨"u", ⟨"app", none, [⟨"k", none⟩]⟩,
      ⟨"r", ⟨"g", "gold", none⟩, ⟨"p"⟩, [⟨none, ⟨⟨none, "1.0.0", "climbs"⟩⟩⟩]⟩⟩]

/-- Two snapshots with the same records, both indexed; the second one is
current. -/
def twoAlike (one two : SnapshotId) : Store :=
  { Store.empty with
    records :=
      let r := (Records.empty.putAll one oneSubscription).putAll two oneSubscription
      Route.putEntries r (Route.builtBy r [.subscription one "u", .subscription two "u"])
    snapshots := [(one, ⟨one, 1, false⟩), (two, ⟨two, 1, true⟩)] }

/-- The first one is indexed again, where the second of the two APIs is come
upon, gets one more product whose event fails, and is deleted. -/
def lastSteps (one : SnapshotId) : List (StepFor one) :=
  [.handle (.subscription one "u") rfl [0, 0, 0, 1], .record (.product ⟨"q", ⟨"d", ""⟩, .blank⟩),
    .handle (.product one "q") rfl [], .release]

/-- The callers of the second snapshot see what they saw, and its APIs are
found as they were. -/
theorem unobserved_in_second :
    let one : SnapshotId := ⟨1, by decide⟩
    let two : SnapshotId := ⟨2, by decide⟩
    let s := twoAlike one two
    two ≠ one ∧
      (s.stepsFor (lastSteps one)).observe two (.visible (some "k")) =
        s.observe two (.visible (some "k")) ∧
      (s.stepsFor (lastSteps one)).observe two (.named "climbs" "1.0.0") =
        s.observe two (.named "climbs" "1.0.0") ∧
      (s.records.apis.matching two (Records.bears "walks" "1.0.0")).length ≤ 1 ∧
      (s.stepsFor (lastSteps one)).records.findApi? two "walks" "1.0.0" 0 =
        s.records.findApi? two "walks" "1.0.0" 1 ∧
      (s.records.visibleEntries two (some "k")).map RouteEntry.key = ["u|k|a"] ∧
      s.records.count one = 8 ∧ (s.stepsFor ((lastSteps one).take 3)).records.count one = 10 ∧
      (s.stepsFor (lastSteps one)).records.count one = 0 := by
  intro one two s
  have hne : two ≠ one := by decide
  have hone : (s.records.apis.matching two (Records.bears "walks" "1.0.0")).length ≤ 1 := by
    decide +kernel
  obtain ⟨hsame, hfound⟩ := unobserved_elsewhere s hne (lastSteps one)
  exact ⟨hne, hsame (.visible (some "k")), hsame (.named "climbs" "1.0.0"),
    hone, hfound "walks" "1.0.0" hone 0 1, by decide +kernel, by decide +kernel, by decide +kernel,
    by decide +kernel⟩

end Store

end ApiGateway
