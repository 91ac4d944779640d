import ApiGateway.Proofs.Loading.Filed
import ApiGateway.Proofs.Loading.Vanished
import ApiGateway.Proofs.Route.Promises
/-!
# Loading — all of a directory, or nothing

A load fails if the directory's name is no id, or if the snapshot is new
and one of its six files fails: it cannot be read, or what it has is not
a list of records (`Part.Fails`). All files are read before anything is
stored, so a load that fails leaves the store that it finds, whole
(`load_of_fails`). A snapshot that is in the table is left as it is.

A load that succeeds brings a new snapshot in (`Loaded`). What it has in
the end is told in the order of the load: its records are stored, then
route entries are built, which are not from files, and then it is
installed, which takes records of other snapshots only.

Events that wait are handled while the files are read, whatever comes of
the load. The store that a load finds when it has read is therefore not
quite the one at its beginning (`afterReading`): route entries may have
come to it.
-/

namespace ApiGateway

/-! ## Files that fail -/

namespace SnapshotFiles

open Outcome

variable {files : FileTree} {dir : TreePath}

/-- One of the files of a directory: its name, the shape of a record in
it, and which values are records. -/
structure Part where
  name : String
  shape : Json.Shape
  isRecord : Json → Bool

/-- A file whose records are read in this way. -/
def Part.of {α : Type} (name : String) (shape : Json.Shape) (decode : Json → Option α) : Part :=
  ⟨name, shape, fun j => (decode j).isSome⟩

/-- The files that are read. -/
def parts : List Part :=
  [.of "catalogs.json" Catalog.shape Catalog.ofJson?,
    .of "apis.json" Api.shape Api.ofJson?,
    .of "products.json" Product.shape Product.ofJson?,
    .of "subscriptions.json" Subscription.shape Subscription.ofJson?,
    .of "tlsprofiles.json" OpaqueRecord.shape OpaqueRecord.ofJson?,
    .of "registries.json" OpaqueRecord.shape OpaqueRecord.ofJson?]

/-- **A file fails** if it cannot be read, or is there and has no list of
records: if what it has is a list, some element is no record. -/
def Part.Fails (p : Part) (files : FileTree) (dir : TreePath) : Prop :=
  files.read (dir.child p.name) = .failed ∨
    ∃ content, files.read (dir.child p.name) = .ok content ∧
      ∀ items, Json.selectFrom? (.listOf p.shape) content = some (.array items) →
        ∃ item ∈ items, p.isRecord item = false

/-- A file that is read is missing, or has a list of records. -/
theorem readFile_eq_ok_iff {α : Type} {shape : Json.Shape} {decode : Json → Option α}
    {name : String} {records : List α} :
    readFile shape decode files dir name = .ok records ↔
      (files.read (dir.child name) = .missing ∧ records = []) ∨
      ∃ content items, files.read (dir.child name) = .ok content ∧
        Json.selectFrom? (.listOf shape) content = some (.array items) ∧
        items.mapM decode = some records := by
  rw [readFile]
  cases files.read (dir.child name) with
  | missing => simp [eq_comm]
  | failed => simp
  | ok content =>
    cases hj : Json.selectFrom? (.listOf shape) content with
    | none => simp [hj]
    | some j =>
      cases j with
      | array items => cases hm : items.mapM decode <;> simp [hj, hm, Json.listOf?]
      | _ => simp [hj, Json.listOf?]

/-- **A file is read exactly if it does not fail.** -/
theorem exists_readFile_iff {α : Type} (name : String) (shape : Json.Shape)
    (decode : Json → Option α) :
    (∃ records, readFile shape decode files dir name = .ok records) ↔
      ¬ (Part.of name shape decode).Fails files dir := by
  constructor
  · rintro ⟨records, hread⟩ (hfailed | ⟨content, hcontent, hbad⟩)
    · exact read_ne_failed_of_readFile hread hfailed
    · rcases readFile_eq_ok_iff.1 hread with ⟨hmissing, -⟩ | ⟨content', items, hc, hitems, hall⟩
      · exact absurd (hmissing.symm.trans hcontent) nofun
      · obtain rfl : content' = content := FileTree.Read.ok.inj (hc.symm.trans hcontent)
        obtain ⟨item, hmem, hno⟩ := hbad items hitems
        have hyes := (isSome_mapM items).1 (Option.isSome_iff_exists.2 ⟨_, hall⟩) item hmem
        exact absurd (hno.symm.trans hyes) nofun
  · intro hno
    cases hread : files.read (dir.child name) with
    | missing => exact ⟨[], readFile_of_missing hread⟩
    | failed => exact absurd (Or.inl hread) hno
    | ok content =>
      by_contra hnone
      refine hno (Or.inr ⟨content, hread, fun items hitems => ?_⟩)
      by_contra hall
      push Not at hall
      have hsome : (items.mapM decode).isSome = true :=
        (isSome_mapM items).2 fun item hmem => Bool.of_not_eq_false (hall item hmem)
      obtain ⟨records, hrecords⟩ := Option.isSome_iff_exists.1 hsome
      exact hnone ⟨records, readFile_eq_ok_iff.2 (.inr ⟨content, items, hread, hitems, hrecords⟩)⟩

/-- **A directory cannot be read exactly if one of its files fails.** -/
theorem read_eq_error_iff :
    (∃ e, read files dir = .error e) ↔ ∃ p ∈ parts, p.Fails files dir := by
  rw [exists_error_iff, ← not_iff_not, not_not]
  have hread : (∃ f, read files dir = .ok f) ↔ ∀ p ∈ parts, ¬ p.Fails files dir := by
    simp only [parts, List.forall_mem_cons, List.not_mem_nil, false_imp_iff, implies_true, and_true,
      ← exists_readFile_iff, read_eq_ok_iff]
    constructor
    · rintro ⟨f, h1, h2, h3, h4, h5, h6⟩
      exact ⟨⟨_, h1⟩, ⟨_, h2⟩, ⟨_, h3⟩, ⟨_, h4⟩, ⟨_, h5⟩, ⟨_, h6⟩⟩
    · rintro ⟨⟨_, h1⟩, ⟨_, h2⟩, ⟨_, h3⟩, ⟨_, h4⟩, ⟨_, h5⟩, ⟨_, h6⟩⟩
      exact ⟨⟨_, _, _, _, _, _⟩, h1, h2, h3, h4, h5, h6⟩
  rw [hread]
  push Not
  rfl

end SnapshotFiles

/-! ## Route entries that come with a load -/

namespace Route

/-- Route entries of other snapshots leave the records of a snapshot
alone. -/
theorem only_putEntries_of_ne {x : SnapshotId} (r : Records) {es : List RouteEntry}
    (h : ∀ e ∈ es, x ≠ e.snapshotId) : (putEntries r es).only x = r.only x := by
  induction es generalizing r with
  | nil => rfl
  | cons e es ih =>
    have hrest := ih (r.putRouteEntry e) fun e' he' => h e' (List.mem_cons_of_mem _ he')
    exact hrest.trans (r.only_putRouteEntry_of_ne (h e List.mem_cons_self))

/-- What is built for events of a snapshot is of that snapshot. -/
theorem snapshotId_of_mem_builtBy {r : Records} {events : List IndexEvent} {id : SnapshotId}
    (hevents : ∀ event ∈ events, event.snapshot = id) :
    ∀ e ∈ builtBy r events, e.snapshotId = id := by
  intro e he
  obtain ⟨event, hevent, hbuilt⟩ := List.mem_flatMap.1 he
  exact (exists_promised hbuilt).1.trans (hevents event hevent)

end Route

namespace Store

variable {s : Store} {dir : TreePath} {id : SnapshotId} {f : SnapshotFiles}

/-! ## What a load finds -/

/-- The store that a load finds when it has read the files: the events that
waited have been handled. One that reads no files finds the store as it
was. -/
def afterReading (s : Store) (dir : TreePath) : Store := if s.readsFiles dir then s.settle else s

theorem filed_settle (s : Store) : s.settle.records.filed = s.records.filed := by
  rw [records_settle, Records.filed_putEntries]

/-- **Reading brings about route entries at most**, and nothing where no
event waits or no file is read. -/
theorem afterReading_spec (s : Store) (dir : TreePath) :
    (s.afterReading dir).snapshots = s.snapshots ∧ (s.afterReading dir).files = s.files ∧
      (s.afterReading dir).records.filed = s.records.filed ∧
      (s.queue.waiting = [] ∨ s.readsFiles dir = false → s.afterReading dir = s) := by
  rw [afterReading]
  split
  · next hreads =>
    refine ⟨snapshots_settle s, files_settle s, filed_settle s, fun h => settle_of_waiting ?_⟩
    exact h.resolve_right fun hno => absurd (hno.symm.trans hreads) nofun
  · exact ⟨rfl, rfl, rfl, fun _ => rfl⟩

/-! ## A snapshot that is brought in -/

/-- **What a load leaves that has brought a new snapshot in**, told from
the store that it found. The snapshot is current, which is the one
reference to it, and no other one is. Each of those that were has lost one
reference, and its records with the last. Of the snapshot the store holds
what the files say. -/
structure Loaded (before : Store) (id : SnapshotId) (f : SnapshotFiles) (after : Store) :
    Prop where
  row : after.snapshots.row? id = some ⟨id, 1, true⟩
  current : ∀ x, after.snapshots.isCurrent x = true ↔ x = id
  others : ∀ x, x ≠ id →
    after.snapshots.row? x = (before.snapshots.row? x).bind superseded
  only_eq : ∀ x, x ≠ id → after.records.only x =
    if before.snapshots.isCurrent x = true ∧ before.snapshots.refcount x = 1 then .empty
    else before.records.only x
  holds : after.records.Holds id f

/-- The records that a load stores, and the route entries built from them,
are of its snapshot. -/
theorem only_settle_putFiles_of_ne {x : SnapshotId} (hx : x ≠ id) (s : Store)
    (f : SnapshotFiles) :
    (s.settle.putFiles id f).settle.records.only x = s.settle.records.only x := by
  rw [records_settle_putFiles, Route.only_putEntries_of_ne, Records.only_putAll_of_ne hx]
  intro e he
  rwa [Route.snapshotId_of_mem_builtBy (fun _ => snapshot_of_mem_published) e he]

/-- **A snapshot without records holds what its files say** once they are
stored and indexed. -/
theorem holds_settle_putFiles (hnew : s.records.only id = .empty) (f : SnapshotFiles) :
    (s.settle.putFiles id f).settle.records.Holds id f := by
  have hbefore : (s.settle.records.only id).filed = .empty :=
    (congrArg (Records.only · id) (filed_settle s)).trans (congrArg Records.filed hnew)
  have hstored : (s.settle.putFiles id f).settle.records.filed =
      (s.settle.records.putAll id f.records).filed := by
    rw [records_settle_putFiles, Records.filed_putEntries]
  refine (Records.holds_putAll id f).congr ?_
  calc ((s.settle.putFiles id f).settle.records.only id).filed
      = ((s.settle.records.putAll id f.records).only id).filed :=
        congrArg (Records.only · id) hstored
    _ = Records.empty.putAll id f.records := by rw [Records.filed_only_putAll, hbefore]
    _ = ((Records.empty.putAll id f.records).only id).filed :=
        (Records.filed_only_putAll .empty id f.records).symm

/-- **A new snapshot is brought in** by storing what its files have,
indexing it and installing it. -/
theorem loaded_install (ht : s.snapshots.Keyed) (hr : s.snapshots.row? id = none)
    (hnew : s.records.only id = .empty) (f : SnapshotFiles) :
    Loaded s.settle id f ((s.settle.putFiles id f).settle.install id).2 := by
  have htable : (s.settle.putFiles id f).settle.snapshots = s.settle.snapshots := by
    rw [snapshots_settle, snapshots_putFiles]
  have hkeyed : (s.settle.putFiles id f).settle.snapshots.Keyed := by
    rwa [htable, snapshots_settle]
  have hrow : (s.settle.snapshots.row? id) = none := by rwa [snapshots_settle]
  have hroom : (s.settle.putFiles id f).settle.snapshots.HasRoomFor id := by
    rw [htable]
    exact SnapshotTable.hasRoomFor_of_row?_none hrow
  have hrows := row?_install_eq hkeyed hroom
  rw [htable] at hrows
  have hself : ((s.settle.putFiles id f).settle.install id).2.snapshots.row? id =
      some ⟨id, 1, true⟩ := by
    rw [hrows, if_pos rfl, SnapshotTable.promotedRow_of_row?_none hrow]
  have hothers : ∀ x, x ≠ id → ((s.settle.putFiles id f).settle.install id).2.snapshots.row? x =
      (s.settle.snapshots.row? x).bind superseded := fun x hx => by rw [hrows, if_neg hx]
  refine ⟨hself, fun x => ?_, hothers, fun x hx => ?_, ?_⟩
  · rw [isCurrent_install_eq hkeyed hroom, decide_eq_true_iff]
  · rw [only_install_eq hkeyed hroom, htable, only_settle_putFiles_of_ne hx]
    exact if_congr ⟨fun h => h.2, fun h => ⟨hx, h⟩⟩ rfl rfl
  · refine (holds_settle_putFiles hnew f).congr ?_
    rw [only_install]

/-! ## Tables stay keyed -/

theorem keyed_load (ht : s.snapshots.Keyed) (dir : TreePath) : (s.load dir).2.snapshots.Keyed := by
  rcases s.load_cases dir with ⟨e, -, hload⟩ | ⟨id, row, -, -, hload⟩ |
    ⟨id, e, -, -, -, hload⟩ | ⟨id, f, -, -, -, hload⟩
  · rwa [hload]
  · rwa [hload]
  · rwa [hload, snapshots_settle]
  · rw [hload]
    refine keyed_install ?_ id
    rwa [snapshots_settle, snapshots_putFiles, snapshots_settle]

theorem keyed_perform (ht : s.snapshots.Keyed) (a : LoadAct) : (s.perform a).snapshots.Keyed := by
  cases a with
  | load dir => exact keyed_load ht dir
  | batch dirs =>
    rw [perform, loadBatch]
    generalize batchOrder dirs = ds
    induction ds generalizing s with
    | nil => exact ht
    | cons d ds ih => exact ih (keyed_load ht d)
  | acquire =>
    rw [perform, acquire?]
    cases ha : s.snapshots.acquire? with
    | none => exact ht
    | some r => exact ht.acquire ha
  | release id =>
    rw [perform, snapshots_release]
    exact ht.release id
  | edit files => exact ht

/-- **Along every run from an empty store the table is keyed.** -/
theorem keyed_run (as : List LoadAct) : (as.foldl perform empty).snapshots.Keyed := by
  have hrun : ∀ s : Store, s.snapshots.Keyed → (as.foldl perform s).snapshots.Keyed := by
    induction as with
    | nil => exact fun _ ht => ht
    | cons a as ih => exact fun s ht => ih (s.perform a) (keyed_perform ht a)
  exact hrun empty SnapshotTable.sound_nil.keyed

/-! ## Loads -/

/-- **When a load fails**: the name of its directory is no id, or it reads
files and one of them fails. -/
theorem load_fails_iff (s : Store) (dir : TreePath) :
    (∃ e, (s.load dir).1 = .error e) ↔
      (∃ e, idOf dir = .error e) ∨
        s.readsFiles dir = true ∧ ∃ p ∈ SnapshotFiles.parts, p.Fails s.files dir := by
  rw [← SnapshotFiles.read_eq_error_iff]
  rcases s.load_cases dir with ⟨e, hid, hload⟩ | ⟨id, row, hid, hr, hload⟩ |
    ⟨id, e, hid, hr, hread, hload⟩ | ⟨id, f, hid, hr, hread, hload⟩
  · exact iff_of_true ⟨e, congrArg Prod.fst hload⟩ (Or.inl ⟨e, hid⟩)
  · refine iff_of_false ?_ ?_
    · rw [hload]
      exact nofun
    · rintro (⟨e, hbad⟩ | ⟨hreads, -⟩)
      · exact absurd (hid.symm.trans hbad) nofun
      · obtain ⟨id', hid', hnone⟩ := readsFiles_iff.1 hreads
        obtain rfl : id = id' := Except.ok.inj (hid.symm.trans hid')
        exact absurd (hr.symm.trans hnone) nofun
  · exact iff_of_true ⟨e, congrArg Prod.fst hload⟩
      (Or.inr ⟨readsFiles_iff.2 ⟨id, hid, hr⟩, e, hread⟩)
  · refine iff_of_false ?_ ?_
    · rw [hload]
      exact nofun
    · rintro (⟨e, hbad⟩ | ⟨-, e, hbad⟩)
      · exact absurd (hid.symm.trans hbad) nofun
      · exact absurd (hread.symm.trans hbad) nofun

/-- **A load that fails leaves what it found.** -/
theorem load_of_fails {e : LoadError} (h : (s.load dir).1 = .error e) :
    (s.load dir).2 = s.afterReading dir := by
  rw [afterReading]
  rcases s.load_cases dir with ⟨e', hid, hload⟩ | ⟨id, row, -, -, hload⟩ |
    ⟨id, e', hid, hr, -, hload⟩ | ⟨id, f, -, -, -, hload⟩
  · have hreads : s.readsFiles dir ≠ true := by
      intro hreads
      obtain ⟨id, hid', -⟩ := readsFiles_iff.1 hreads
      exact absurd (hid.symm.trans hid') nofun
    rw [if_neg hreads, hload]
  · rw [hload] at h
    exact absurd h nofun
  · rw [if_pos (readsFiles_iff.2 ⟨id, hid, hr⟩), hload]
  · rw [hload] at h
    exact absurd h nofun

/-- **A load that succeeds has found its snapshot in the table, or brings it
in.** -/
theorem load_of_succeeds (ht : s.snapshots.Keyed) (h : (s.load dir).1 = .ok id) :
    idOf dir = .ok id ∧
      ((s.snapshots.row? id).isSome = true → (s.load dir).2 = s) ∧
      (s.snapshots.row? id = none → s.records.only id = .empty →
        ∃ f, SnapshotFiles.read s.files dir = .ok f ∧
          Loaded (s.afterReading dir) id f (s.load dir).2) := by
  rcases s.load_cases dir with ⟨e, -, hload⟩ | ⟨id', row, hid, hr, hload⟩ |
    ⟨id', e, -, -, -, hload⟩ | ⟨id', f, hid, hr, hread, hload⟩
  · rw [hload] at h
    exact absurd h nofun
  · rw [hload] at h ⊢
    obtain rfl : id' = id := Except.ok.inj h
    exact ⟨hid, fun _ => rfl, fun hnone => absurd (hr.symm.trans hnone) nofun⟩
  · rw [hload] at h
    exact absurd h nofun
  · rw [hload] at h ⊢
    obtain rfl : id' = id := Except.ok.inj h
    refine ⟨hid, fun hsome => ?_, fun _ hnew => ⟨f, hread, ?_⟩⟩
    · rw [hr] at hsome
      exact absurd hsome nofun
    · rw [afterReading, if_pos (readsFiles_iff.2 ⟨id', hid, hr⟩)]
      exact loaded_install ht hr hnew f

/-- **All of a directory, or nothing.** A load fails exactly if the name of
the directory is no id, or the snapshot is not in the table and one of its
files fails. Then it leaves the store that it found, and so it does if the
snapshot is in the table. Where a snapshot comes in that was neither in
the table nor had any records, the store afterwards is told by `Loaded`.
While files are read events are handled that were waiting, which brings
about route entries at most, and nothing if none was waiting. -/
theorem load_exact (s : Store) (dir : TreePath) (ht : s.snapshots.Keyed) :
    let found := s.afterReading dir
    let after := (s.load dir).2
    (found.snapshots = s.snapshots ∧ found.files = s.files ∧
      found.records.filed = s.records.filed ∧
      (s.queue.waiting = [] ∨ s.readsFiles dir = false → found = s)) ∧
    ((∃ e, (s.load dir).1 = .error e) ↔
      (∃ e, idOf dir = .error e) ∨
        s.readsFiles dir = true ∧ ∃ p ∈ SnapshotFiles.parts, p.Fails s.files dir) ∧
    (∀ e, (s.load dir).1 = .error e → after = found) ∧
    ∀ id, (s.load dir).1 = .ok id →
      idOf dir = .ok id ∧
      ((s.snapshots.row? id).isSome = true → after = s) ∧
      (s.snapshots.row? id = none → s.records.only id = .empty →
        ∃ f, SnapshotFiles.read s.files dir = .ok f ∧ Loaded found id f after) := by
  intro found after
  exact ⟨s.afterReading_spec dir, s.load_fails_iff dir, fun _ => load_of_fails,
    fun _ => load_of_succeeds ht⟩

/-! ## A new snapshot and a broken one -/

/-- The text of a catalog with its organization, by their names. -/
def catalogText (name organization : String) : String :=
  "\x7b\"id\":\"c\",\"name\":\"" ++ name ++ "\",\"organization\":\x7b\"id\":\"o\",\"name\":\"" ++
    organization ++ "\"\x7d\x7d"

/-- The directory of a snapshot, and two others: one where a catalog stands
twice, and one with a file that breaks off. -/
def threeDirectories : FileTree :=
  oneCatalog ++
    [(["00002"], .directory),
      (["00002", "catalogs.json"],
        .file ("[" ++ catalogText "old" "first" ++ "," ++ catalogText "new" "second" ++ "]").utf8),
      (["00003"], .directory),
      (["00003", "apis.json"], .file "[\x7b".utf8)]

/-- The store before any of them is loaded. -/
def beforeFirst : Store := { empty with files := threeDirectories }

/-- The store that has loaded the first of them. -/
def afterFirst : Store := (beforeFirst.load (.parse "00001")).2

/-- **The second replaces the first, the third changes nothing.** Of the
catalog that stands twice the last one is held, with the first of its
organizations. -/
theorem second_and_third :
    let second := (afterFirst.load (.parse "00002")).2
    afterFirst.snapshots.row? ⟨1, by decide⟩ = some ⟨⟨1, by decide⟩, 1, true⟩ ∧
    second.snapshots.row? ⟨1, by decide⟩ = none ∧
    second.records.only ⟨1, by decide⟩ = .empty ∧
    second.snapshots.row? ⟨2, by decide⟩ = some ⟨⟨2, by decide⟩, 1, true⟩ ∧
    (second.records.catalogs.get? ⟨2, by decide⟩ "c").map Catalog.name = some "new" ∧
    (second.records.organizations.get? ⟨2, by decide⟩ "o").map Organization.name = some "first" ∧
    (afterFirst.load (.parse "00003")).1 = .error (.malformed "apis.json") ∧
    (afterFirst.load (.parse "00003")).2 = afterFirst := by
  -- both stores are reached, so their tables are keyed
  have hbefore : beforeFirst.snapshots.Keyed := keyed_run [.edit threeDirectories]
  have hkeyed : afterFirst.snapshots.Keyed := by
    have hrun := keyed_run [.edit threeDirectories, .load (.parse "00001")]
    rwa [List.foldl_cons, List.foldl_cons, List.foldl_nil, perform, perform, ← beforeFirst,
      ← afterFirst] at hrun
  -- the first directory comes into an empty store
  obtain ⟨⟨-, -, -, hfound⟩, -, -, hin⟩ := load_exact beforeFirst (.parse "00001") hbefore
  obtain ⟨-, -, hloaded⟩ := hin ⟨1, by decide⟩ (by decide +kernel)
  obtain ⟨_, -, hfirst⟩ := hloaded rfl rfl
  rw [hfound (Or.inl rfl), ← afterFirst] at hfirst
  have hrow : afterFirst.snapshots.row? ⟨1, by decide⟩ = some ⟨⟨1, by decide⟩, 1, true⟩ :=
    hfirst.row
  have hnone : afterFirst.snapshots.row? ⟨2, by decide⟩ = none := hfirst.others _ (by decide)
  have hnew : afterFirst.records.only ⟨2, by decide⟩ = .empty := hfirst.only_eq _ (by decide)
  -- the second takes its place
  obtain ⟨⟨htable, -⟩, -, -, hin⟩ := load_exact afterFirst (.parse "00002") hkeyed
  obtain ⟨-, -, hloaded⟩ := hin ⟨2, by decide⟩ (by decide +kernel)
  obtain ⟨f, hread, hsecond⟩ := hloaded hnone hnew
  have hcatalogs : f.catalogs =
      [⟨"c", "old", none, ⟨"o", "first"⟩⟩, ⟨"c", "new", none, ⟨"o", "second"⟩⟩] := by
    have hfile := (SnapshotFiles.read_eq_ok_iff.1 hread).1
    refine Except.ok.inj (hfile.symm.trans ?_)
    decide +kernel
  -- the third is broken
  obtain ⟨⟨-, -, -, hfound⟩, -, hsame, -⟩ := load_exact afterFirst (.parse "00003") hkeyed
  have hbroken : (afterFirst.load (.parse "00003")).1 = .error (.malformed "apis.json") := by
    decide +kernel
  have hwaiting : afterFirst.queue.waiting = [] := by decide +kernel
  refine ⟨hrow, ?_, ?_, hsecond.row, ?_, ?_, hbroken, ?_⟩
  · rw [hsecond.others _ (by decide), htable, hrow]
    rfl
  · rw [hsecond.only_eq _ (by decide), htable, SnapshotTable.isCurrent_of_row? hrow,
      SnapshotTable.refcount_of_row? hrow]
    rfl
  · rw [hsecond.holds.catalogs.get?_eq, hcatalogs]
    rfl
  · rw [hsecond.holds.organizations.get?_eq, hcatalogs]
    rfl
  · rw [hsame _ hbroken, hfound (Or.inl hwaiting)]

end Store

end ApiGateway
