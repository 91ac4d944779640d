import ApiGateway.Proofs.Files.Following
import ApiGateway.Proofs.Outcomes
import ApiGateway.Proofs.Snapshots.Rows
import ApiGateway.Store.Loader
/-!
# Loading — what one load does

A load reads no files if the directory's name is no id or the snapshot is
in the table; then nothing happens (`load_of_not_readsFiles`). Otherwise
the events that wait are handled while the files are read. If reading
fails that is all (`load_of_error`), and if it succeeds the records are
stored, indexed and made current (`load_of_ok`). There is nothing else
that a load can do (`load_cases`). Handling events and storing records
leaves the table and the directories alone.
-/

namespace ApiGateway

/-! ## The files of a directory -/

namespace SnapshotFiles

open Outcome

variable {files : FileTree} {dir : TreePath}

/-- The names of the files that are read. -/
def fileNames : List String :=
  ["catalogs.json", "apis.json", "products.json", "subscriptions.json", "tlsprofiles.json",
    "registries.json"]

/-- What a directory without any files has. -/
def empty : SnapshotFiles := ⟨[], [], [], [], [], []⟩

theorem read_ne_failed_of_readFile {α : Type} {shape : Json.Shape} {decode : Json → Option α}
    {name : String} {records : List α} (h : readFile shape decode files dir name = .ok records) :
    files.read (dir.child name) ≠ .failed := by
  intro hf
  simp [readFile, hf] at h

theorem readFile_of_missing {α : Type} {shape : Json.Shape} {decode : Json → Option α}
    {name : String} (h : files.read (dir.child name) = .missing) :
    readFile shape decode files dir name = .ok [] := by
  simp [readFile, h]

/-- **A directory is read file by file.** -/
theorem read_eq_ok_iff {f : SnapshotFiles} : read files dir = .ok f ↔
    readFile Catalog.shape Catalog.ofJson? files dir "catalogs.json" = .ok f.catalogs ∧
    readFile Api.shape Api.ofJson? files dir "apis.json" = .ok f.apis ∧
    readFile Product.shape Product.ofJson? files dir "products.json" = .ok f.products ∧
    readFile Subscription.shape Subscription.ofJson? files dir "subscriptions.json" =
      .ok f.subscriptions ∧
    readFile OpaqueRecord.shape OpaqueRecord.ofJson? files dir "tlsprofiles.json" =
      .ok f.tlsProfiles ∧
    readFile OpaqueRecord.shape OpaqueRecord.ofJson? files dir "registries.json" =
      .ok f.registries := by
  obtain ⟨catalogs, apis, products, subscriptions, tlsProfiles, registries⟩ := f
  simp only [read, bind_eq_ok, pure_eq_ok, SnapshotFiles.mk.injEq]
  constructor
  · rintro ⟨_, h1, _, h2, _, h3, _, h4, _, h5, _, h6, rfl, rfl, rfl, rfl, rfl, rfl⟩
    exact ⟨h1, h2, h3, h4, h5, h6⟩
  · rintro ⟨h1, h2, h3, h4, h5, h6⟩
    exact ⟨_, h1, _, h2, _, h3, _, h4, _, h5, _, h6, rfl, rfl, rfl, rfl, rfl, rfl⟩

/-- If a directory can be read, so can each of its files. -/
theorem read_ne_failed {f : SnapshotFiles} (h : read files dir = .ok f) :
    ∀ name ∈ fileNames, files.read (dir.child name) ≠ .failed := by
  obtain ⟨h1, h2, h3, h4, h5, h6⟩ := read_eq_ok_iff.1 h
  intro name hname
  simp only [fileNames, List.mem_cons, List.not_mem_nil, or_false] at hname
  rcases hname with rfl | rfl | rfl | rfl | rfl | rfl
  · exact read_ne_failed_of_readFile h1
  · exact read_ne_failed_of_readFile h2
  · exact read_ne_failed_of_readFile h3
  · exact read_ne_failed_of_readFile h4
  · exact read_ne_failed_of_readFile h5
  · exact read_ne_failed_of_readFile h6

/-- A directory in which every file is missing reads as an empty one. -/
theorem read_of_missing (h : ∀ name ∈ fileNames, files.read (dir.child name) = .missing) :
    read files dir = .ok empty := by
  have hfile : ∀ {α : Type} (shape : Json.Shape) (decode : Json → Option α),
      ∀ name ∈ fileNames, readFile shape decode files dir name = .ok [] :=
    fun _ _ name hname => readFile_of_missing (h name hname)
  exact read_eq_ok_iff.2 ⟨hfile _ _ _ (by decide), hfile _ _ _ (by decide),
    hfile _ _ _ (by decide), hfile _ _ _ (by decide), hfile _ _ _ (by decide),
    hfile _ _ _ (by decide)⟩

end SnapshotFiles

namespace Store

variable {s : Store} {dir : TreePath} {id : SnapshotId} {f : SnapshotFiles}

/-! ## What handling and storing leave alone -/

/-- What every step leaves alone, all of them do. -/
theorem foldl_eq_of_step {α β : Type} (get : Store → β) (step : Store → α → Store)
    (h : ∀ s a, get (step s a) = get s) (l : List α) (s : Store) :
    get (l.foldl step s) = get s := by
  induction l generalizing s with
  | nil => rfl
  | cons a l ih => exact (ih (step s a)).trans (h s a)

theorem snapshots_settle (s : Store) : s.settle.snapshots = s.snapshots :=
  foldl_eq_of_step snapshots complete (fun _ _ => rfl) _ _

theorem files_settle (s : Store) : s.settle.files = s.files :=
  foldl_eq_of_step files complete (fun _ _ => rfl) _ _

theorem waiting_settle (s : Store) : s.settle.queue.waiting = [] :=
  foldl_eq_of_step (fun s => s.queue.waiting) complete (fun _ _ => rfl) _ _

/-- Where no event waits there is nothing to settle. -/
theorem settle_of_waiting (h : s.queue.waiting = []) : s.settle = s := by
  rw [settle, h, List.foldl_nil, ← h]

theorem snapshots_announce (s : Store) (e : IndexEvent) : (s.announce e).snapshots = s.snapshots := by
  unfold announce
  split <;> rfl

theorem files_announce (s : Store) (e : IndexEvent) : (s.announce e).files = s.files := by
  unfold announce
  split <;> rfl

theorem snapshots_putFiles (s : Store) (id : SnapshotId) (f : SnapshotFiles) :
    (s.putFiles id f).snapshots = s.snapshots :=
  (foldl_eq_of_step snapshots (fun s u => s.putSubscription id u)
      (fun _ _ => snapshots_announce _ _) f.subscriptions _).trans
    (foldl_eq_of_step snapshots (fun s p => s.putProduct id p)
      (fun _ _ => snapshots_announce _ _) f.products _)

theorem files_putFiles (s : Store) (id : SnapshotId) (f : SnapshotFiles) :
    (s.putFiles id f).files = s.files :=
  (foldl_eq_of_step files (fun s u => s.putSubscription id u)
      (fun _ _ => files_announce _ _) f.subscriptions _).trans
    (foldl_eq_of_step files (fun s p => s.putProduct id p)
      (fun _ _ => files_announce _ _) f.products _)

theorem putFiles_empty (s : Store) (id : SnapshotId) : s.putFiles id .empty = s := rfl

/-! ## One load -/

theorem readsFiles_iff : s.readsFiles dir = true ↔
    ∃ id, idOf dir = .ok id ∧ s.snapshots.row? id = none := by
  unfold readsFiles
  cases idOf dir with
  | error e => simp
  | ok id => simp

/-- A load without reading changes nothing. -/
theorem load_of_not_readsFiles (h : s.readsFiles dir = false) : (s.load dir).2 = s := by
  rw [load, if_neg (by simp [h]), loadDirectory]
  unfold readsFiles at h
  cases hid : idOf dir with
  | error e => rfl
  | ok id =>
    rw [hid] at h
    cases hr : s.snapshots.row? id with
    | none => simp [hr] at h
    | some row => simp [hr]

/-- A load that cannot read changes nothing but that events are
handled. -/
theorem load_of_error {e : LoadError} (hreads : s.readsFiles dir = true)
    (h : SnapshotFiles.read s.files dir = .error e) : s.load dir = (.error e, s.settle) := by
  obtain ⟨id, hid, hr⟩ := readsFiles_iff.1 hreads
  rw [load, if_pos hreads, loadDirectory, hid]
  simp only [snapshots_settle, files_settle, hr, h]

/-- **A load that reads installs what it has read.** -/
theorem load_of_ok (hid : idOf dir = .ok id) (hr : s.snapshots.row? id = none)
    (h : SnapshotFiles.read s.files dir = .ok f) :
    s.load dir = (.ok id, ((s.settle.putFiles id f).settle.install id).2) := by
  rw [load, if_pos (readsFiles_iff.2 ⟨id, hid, hr⟩), loadDirectory, hid]
  simp only [snapshots_settle, files_settle, hr, h]

/-- **Everything that a load can do.** -/
theorem load_cases (s : Store) (dir : TreePath) :
    (∃ e, idOf dir = .error e ∧ s.load dir = (.error e, s)) ∨
    (∃ id row, idOf dir = .ok id ∧ s.snapshots.row? id = some row ∧ s.load dir = (.ok id, s)) ∨
    (∃ id e, idOf dir = .ok id ∧ s.snapshots.row? id = none ∧
      SnapshotFiles.read s.files dir = .error e ∧ s.load dir = (.error e, s.settle)) ∨
    (∃ id f, idOf dir = .ok id ∧ s.snapshots.row? id = none ∧
      SnapshotFiles.read s.files dir = .ok f ∧
      s.load dir = (.ok id, ((s.settle.putFiles id f).settle.install id).2)) := by
  cases hid : idOf dir with
  | error e => exact Or.inl ⟨e, rfl, by simp [load, readsFiles, loadDirectory, hid]⟩
  | ok id =>
    cases hr : s.snapshots.row? id with
    | some row =>
      refine Or.inr (Or.inl ⟨id, row, rfl, hr, ?_⟩)
      simp [load, readsFiles, loadDirectory, hid, hr]
    | none =>
      have hreads : s.readsFiles dir = true := readsFiles_iff.2 ⟨id, hid, hr⟩
      cases hf : SnapshotFiles.read s.files dir with
      | error e => exact Or.inr (Or.inr (Or.inl ⟨id, e, rfl, hr, rfl, load_of_error hreads hf⟩))
      | ok f => exact Or.inr (Or.inr (Or.inr ⟨id, f, rfl, hr, rfl, load_of_ok hid hr hf⟩))

end Store

end ApiGateway
