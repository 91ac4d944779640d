import ApiGateway.Proofs.Gateway.Handling
import ApiGateway.Proofs.Loading.Workers
import ApiGateway.Proofs.Snapshots.Custody
/-!
# Gateway — handlers beside a loader

A `System` is a gateway at work: any number of handlers, a loader that
stores and installs one snapshot after the other, and the workers of the
index. Any of them may make the next step (`System.step`), which is one
access to the snapshots or the records. `System.Move` says everything that
a step can do.
-/

namespace ApiGateway

/-- The handler of a call. -/
structure Handler where
  call : Call
  stage : Stage

/-- What the loader is about. -/
inductive Loader where
  | idle
  /-- It reads the files of a snapshot that was not in the table. -/
  | reading (id : SnapshotId)
  /-- It stores the records of a snapshot, of which these are left. -/
  | storing (id : SnapshotId) (rest : List FileRecord)
  /-- It has made a snapshot current, and gives back the references of
  those that were. -/
  | replacing (owed : List SnapshotId)

namespace Loader

/-- The snapshot that is being loaded. -/
def target? : Loader → Option SnapshotId
  | reading id => some id
  | storing id _ => some id
  | _ => none

/-- The references that the loader has to give back. -/
def owed : Loader → List SnapshotId
  | replacing owed => owed
  | _ => []

end Loader

/-- A gateway at work. -/
structure System where
  gateway : Gateway
  /-- The events that were taken, each with what is left to do for it. -/
  tasks : List (IndexEvent × Task)
  handlers : List Handler
  loader : Loader

namespace System

variable {y y' : System}

def store (y : System) : Store := y.gateway.store

def withStore (y : System) (s : Store) : System :=
  { y with gateway := { y.gateway with store := s } }

/-- The system with its workers as they are here. -/
def withIndexing (y : System) (i : Indexing) : System :=
  { y.withStore i.store with tasks := i.tasks }

/-- What can happen. -/
inductive Act where
  /-- A call comes in and gets a handler. -/
  | arrive (call : Call)
  /-- One of the handlers goes on by a stage. -/
  | serve (handler : Nat)
  /-- The loader is told to load a snapshot, which it does not do if the
  snapshot is in the table. -/
  | load (id : SnapshotId)
  /-- The loader has read these files, or has failed to. -/
  | read (files : Option SnapshotFiles)
  /-- The loader goes on: it stores the next record; it makes its snapshot
  current, once everything is stored and the queue is idle; or it gives
  back a reference. -/
  | proceed
  /-- A worker takes the oldest event. -/
  | take
  /-- One of the workers goes on. -/
  | work (worker pick : Nat)

/-- One of the handlers goes on by a stage. -/
def serve (y : System) (handler : Nat) : System :=
  match y.handlers[handler]? with
  | none => y
  | some h =>
    let (stage, g) := y.gateway.advance h.call h.stage
    { y with gateway := g, handlers := y.handlers.set handler ⟨h.call, stage⟩ }

/-- The loader turns to a snapshot. -/
def load (y : System) (id : SnapshotId) : System :=
  match y.loader, y.store.snapshots.row? id with
  | .idle, none => { y with loader := .reading id }
  | _, _ => y

/-- The loader has read the files of its snapshot, or has failed to. -/
def read (y : System) (files : Option SnapshotFiles) : System :=
  match y.loader, files with
  | .reading id, some f => { y with loader := .storing id f.records }
  | .reading _, none => { y with loader := .idle }
  | _, _ => y

/-- The loader goes on. A load that is cut off is over. -/
def proceed (y : System) : System :=
  match y.loader with
  | .storing id (x :: rest) => { y.withStore (y.store.put id x) with loader := .storing id rest }
  | .storing id [] =>
    if y.store.queue.isIdle then
      match y.store.promote id with
      | (none, s) => { y.withStore s with loader := .idle }
      | (some _, s) => { y.withStore s with loader := .replacing (y.store.snapshots.others id) }
    else y
  | .replacing (id :: owed) => { y.withStore (y.store.release id).2 with loader := .replacing owed }
  | .replacing [] => { y with loader := .idle }
  | _ => y

/-- One step; what cannot be done changes nothing. -/
def step (y : System) : Act → System
  | .arrive call => { y with handlers := y.handlers ++ [⟨call, .waiting⟩] }
  | .serve handler => y.serve handler
  | .load id => y.load id
  | .read files => y.read files
  | .proceed => y.proceed
  | .take => y.withIndexing (Indexing.take ⟨y.store, y.tasks⟩)
  | .work worker pick => y.withIndexing (Indexing.work ⟨y.store, y.tasks⟩ worker pick)

/-- The state after steps one after the other. -/
def run (y : System) (as : List Act) : System := as.foldl step y

/-- A gateway at its start: nothing is stored, and nobody is at work. -/
def start (g : Gateway) : System :=
  ⟨{ g with store := { Store.empty with files := g.store.files } }, [], [], .idle⟩

/-! ## What a step can do -/

/-- **Everything that a step can do.** -/
inductive Move (y : System) : System → Prop where
  | stay : Move y y
  | arrive (call : Call) : Move y { y with handlers := y.handlers ++ [⟨call, .waiting⟩] }
  /-- A handler goes on and leaves the store alone. -/
  | handle {before after : List Handler} {h : Handler} {g : Gateway} {stage : Stage} :
      y.handlers = before ++ h :: after → stage.lease? = h.stage.lease? →
      (y.store.records.Joined → h.stage.Faithful y.store.records h.call →
        stage.Faithful y.store.records h.call) →
      Move y { y with
        gateway := { g with store := y.store }
        handlers := before ++ ⟨h.call, stage⟩ :: after }
  | acquire {before after : List Handler} {h : Handler} {g : Gateway} {row : Snapshot}
      {t : SnapshotTable} :
      y.handlers = before ++ h :: after → h.stage = .waiting →
      y.store.snapshots.acquire? = some (row, t) →
      Move y { y with
        gateway := { g with store := { y.store with snapshots := t } }
        handlers := before ++ ⟨h.call, .leased row.id⟩ :: after }
  | drop {before after : List Handler} {h : Handler} {g : Gateway} {id : SnapshotId}
      {response : Option Http.Response} :
      y.handlers = before ++ h :: after → h.stage.lease? = some id →
      Move y { y with
        gateway := { g with store := (y.store.release id).2 }
        handlers := before ++ ⟨h.call, .finished response⟩ :: after }
  /-- The loader turns to a snapshot that is not in the table, reads its
  files, or is through with what it was about. -/
  | turn {loader : Loader} :
      (∀ id rest, y.loader ≠ .storing id rest) → loader.owed = y.loader.owed →
      (∀ id, loader.target? = some id →
        y.loader.target? = some id ∨ y.store.snapshots.row? id = none) →
      Move y { y with loader := loader }
  | put {id : SnapshotId} {x : FileRecord} {rest : List FileRecord} :
      y.loader = .storing id (x :: rest) →
      Move y { y.withStore (y.store.put id x) with loader := .storing id rest }
  | install {id : SnapshotId} :
      y.loader = .storing id [] → y.store.queue.inFlight = 0 → y.store.snapshots.HasRoomFor id →
      Move y { y.withStore (y.store.promote id).2 with
        loader := .replacing (y.store.snapshots.others id) }
  | cutOff {id : SnapshotId} :
      y.loader = .storing id [] → ¬ y.store.snapshots.HasRoomFor id →
      Move y { y.withStore (y.store.promote id).2 with loader := .idle }
  | repay {id : SnapshotId} {owed : List SnapshotId} :
      y.loader = .replacing (id :: owed) →
      Move y { y.withStore (y.store.release id).2 with loader := .replacing owed }
  | take {e : IndexEvent} {rest : List IndexEvent} :
      y.store.queue.waiting = e :: rest →
      Move y (y.withIndexing ⟨{ y.store with queue := { y.store.queue with waiting := rest } },
        y.tasks ++ [(e, .ofEvent e)]⟩)
  | answer {before after : List (IndexEvent × Task)} {e : IndexEvent} {q : Query}
      {next : Option q.Answer → Task} (pick : Nat) :
      y.tasks = before ++ (e, .ask q next) :: after →
      Move y { y with
        tasks := before ++ (e, next (y.store.records.answer? e.snapshot q pick)) :: after }
  | write {before after : List (IndexEvent × Task)} {e : IndexEvent} {x : RouteEntry}
      {next : Task} :
      y.tasks = before ++ (e, .store x next) :: after →
      Move y (y.withIndexing ⟨y.store.withRecords fun r => r.putRouteEntry x,
        before ++ (e, next) :: after⟩)
  | finish {before after : List (IndexEvent × Task)} {e : IndexEvent} :
      y.tasks = before ++ (e, .done) :: after →
      Move y (y.withIndexing ⟨{ y.store with queue := y.store.queue.complete }, before ++ after⟩)

theorem move_serve (y : System) (handler : Nat) : Move y (y.serve handler) := by
  unfold serve
  split
  · exact .stay
  · next h hh =>
    obtain ⟨before, after, hsplit, hset, -⟩ := exists_set_eq hh
    have hgateway : ∀ {g : Gateway} {s : Store}, g.store = s → g = { g with store := s } := by
      rintro g s rfl
      rfl
    dsimp only
    rw [hset]
    rcases y.gateway.advance_cases h.call h.stage with
      ⟨hstore, hlease, hfaithful⟩ | ⟨hwaiting, row, t, ha, hstage, hstore⟩ |
        ⟨id, response, hlease, hstage, hstore⟩
    · rw [hgateway hstore]
      exact .handle hsplit hlease hfaithful
    · rw [hstage, hgateway hstore]
      exact .acquire hsplit hwaiting ha
    · rw [hstage, hgateway hstore]
      exact .drop hsplit hlease

theorem move_load (y : System) (id : SnapshotId) : Move y (y.load id) := by
  unfold load
  split
  · next hloader hrow =>
    refine .turn (fun _ _ h => ?_) (by rw [hloader]; rfl) fun id' hid => ?_
    · rw [hloader] at h
      cases h
    · obtain rfl := Option.some.inj hid
      exact Or.inr hrow
  · exact .stay

theorem move_read (y : System) (files : Option SnapshotFiles) : Move y (y.read files) := by
  unfold read
  split
  · next id f hloader =>
    refine .turn (fun _ _ h => ?_) (by rw [hloader]; rfl) fun id' hid => ?_
    · rw [hloader] at h
      cases h
    · exact Or.inl (hloader ▸ hid)
  · next hloader =>
    refine .turn (fun _ _ h => ?_) (by rw [hloader]; rfl) nofun
    rw [hloader] at h
    cases h
  · exact .stay

theorem move_proceed (y : System) : Move y y.proceed := by
  rw [proceed]
  cases hloader : y.loader with
  | idle => exact .stay
  | reading id => exact .stay
  | storing id rest =>
    cases rest with
    | cons x rest => exact .put hloader
    | nil =>
      by_cases hidle : y.store.queue.isIdle
      · dsimp only
        rw [if_pos hidle]
        rcases y.store.snapshots.promote_cases id with ⟨hroom, hp⟩ | ⟨hno, hp⟩
        · have hm := Move.install hloader (of_decide_eq_true hidle) hroom
          rw [Store.promote, hp] at hm ⊢
          exact hm
        · have hm := Move.cutOff hloader hno
          rw [Store.promote, hp] at hm ⊢
          exact hm
      · dsimp only
        rw [if_neg hidle]
        exact .stay
  | replacing owed =>
    cases owed with
    | cons id owed => exact .repay hloader
    | nil =>
      refine .turn (fun _ _ h => ?_) (by rw [hloader]; rfl) (fun _ h => ?_)
      · rw [hloader] at h
        cases h
      · cases h

theorem move_work (y : System) (worker pick : Nat) : Move y (y.step (.work worker pick)) := by
  rw [step]
  rcases Indexing.work_cases ⟨y.store, y.tasks⟩ worker pick with
    hw | ⟨before, e, t, after, htasks, ⟨q, next, rfl, hw⟩ | ⟨x, next, rfl, hw⟩ | ⟨rfl, hw⟩⟩
  · rw [hw]
    exact .stay
  · rw [hw]
    exact .answer pick htasks
  · rw [hw]
    exact .write htasks
  · rw [hw]
    exact .finish htasks

/-- **Every step is such a move.** -/
theorem move_step (y : System) (a : Act) : Move y (y.step a) := by
  cases a with
  | arrive call => exact .arrive call
  | serve handler => exact move_serve y handler
  | load id => exact move_load y id
  | read files => exact move_read y files
  | proceed => exact move_proceed y
  | take =>
    rw [step]
    rcases Indexing.take_cases ⟨y.store, y.tasks⟩ with ⟨-, ht⟩ | ⟨e, rest, hw, ht⟩
    · rw [ht]
      exact .stay
    · rw [ht]
      exact .take hw
  | work worker pick => exact move_work y worker pick

end System

end ApiGateway
