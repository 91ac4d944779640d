import ApiGateway.Proofs.Loading.Steps
import ApiGateway.Proofs.Snapshots.Ids
import ApiGateway.Proofs.Snapshots.Release
/-!
# Loading — directories that are gone

Reported directories are loaded later, and by then one may be gone: a
snapshot takes its directory with it when its last reference is given
back. A load is honest if it installs only what it has seen and leaves
everything alone where it sees no directory (`Store.Honest`). Every load
is honest but that of a directory that leads nowhere and whose snapshot
is not in the table (`honest_iff`): its files are missing one and all, so
an empty snapshot is installed (`load_of_vanished`).

Such a load can be in a batch although every directory was there when the
batch began: an installation earlier in the batch may delete the current
snapshot whose directory was reported again (`batch_vanished`). A batch
of new snapshots is safe (`honest_of_new`), since what an installation
deletes was in the table.
-/

namespace ApiGateway

namespace Store

variable {s : Store} {dir : TreePath} {id : SnapshotId}

/-! ## Honest loads -/

/-- The load of a directory installs a snapshot. -/
def Installs (s : Store) (dir : TreePath) : Prop :=
  s.readsFiles dir = true ∧ ∃ f, SnapshotFiles.read s.files dir = .ok f

/-- The load of a directory leaves the table of snapshots, and so the
current one, the directories and the records as they are, but for the
entries of events that were waiting. -/
structure LeavesAlone (s : Store) (dir : TreePath) : Prop where
  snapshots_eq : (s.load dir).2.snapshots = s.snapshots
  files_eq : (s.load dir).2.files = s.files
  records_eq : (s.load dir).2.records = s.records ∨ (s.load dir).2.records = s.settle.records

/-- **A load is honest** if it installs nothing but what is in a directory
that is there, and leaves everything alone if there is none. -/
structure Honest (s : Store) (dir : TreePath) : Prop where
  seen : s.Installs dir → s.files.sees dir = true
  unseen : s.files.sees dir = false → s.LeavesAlone dir

/-- A directory is gone and its snapshot is not in the table; its files
have paths that can be. -/
structure Vanished (s : Store) (dir : TreePath) : Prop where
  missing : s.files.resolve dir = .missing
  reads : s.readsFiles dir = true
  possible : ∀ name ∈ SnapshotFiles.fileNames, (dir.child name).isImpossible = false

instance (s : Store) (dir : TreePath) : Decidable (s.Vanished dir) :=
  decidable_of_iff (s.files.resolve dir = .missing ∧ s.readsFiles dir = true ∧
      ∀ name ∈ SnapshotFiles.fileNames, (dir.child name).isImpossible = false)
    ⟨fun ⟨h1, h2, h3⟩ => ⟨h1, h2, h3⟩, fun ⟨h1, h2, h3⟩ => ⟨h1, h2, h3⟩⟩

theorem Vanished.not_seen (h : s.Vanished dir) : s.files.sees dir = false := by
  rw [FileTree.sees, h.missing]

/-- What is left of a vanished directory reads as an empty one. -/
theorem Vanished.read (h : s.Vanished dir) :
    SnapshotFiles.read s.files dir = .ok .empty :=
  SnapshotFiles.read_of_missing fun name hname =>
    FileTree.read_child_of_missing h.missing (h.possible name hname)

/-- **A vanished directory is installed as an empty snapshot.** -/
theorem load_of_vanished (h : s.Vanished dir) :
    ∃ id, idOf dir = .ok id ∧ s.snapshots.row? id = none ∧
      s.load dir = (.ok id, (s.settle.install id).2) := by
  obtain ⟨id, hid, hr⟩ := readsFiles_iff.1 h.reads
  refine ⟨id, hid, hr, ?_⟩
  rw [load_of_ok hid hr h.read, putFiles_empty, settle_of_waiting (waiting_settle s)]

/-- What is installed was seen, or has vanished. -/
theorem Installs.sees_or_vanished (h : s.Installs dir) :
    s.files.sees dir = true ∨ s.Vanished dir := by
  obtain ⟨hreads, f, hf⟩ := h
  have hfiles := SnapshotFiles.read_ne_failed hf
  rcases FileTree.sees_or_missing (hfiles "catalogs.json" (by decide)) with hs | hm
  · exact Or.inl hs
  · exact Or.inr ⟨hm, hreads, fun name hname => FileTree.possible_of_read (hfiles name hname)⟩

theorem leavesAlone_of_not_installs (h : ¬ s.Installs dir) : s.LeavesAlone dir := by
  cases hreads : s.readsFiles dir with
  | false =>
    have hl := load_of_not_readsFiles hreads
    exact ⟨congrArg snapshots hl, congrArg files hl, Or.inl (congrArg records hl)⟩
  | true =>
    cases hf : SnapshotFiles.read s.files dir with
    | error e =>
      have hl : (s.load dir).2 = s.settle := congrArg Prod.snd (load_of_error hreads hf)
      exact ⟨hl ▸ snapshots_settle s, hl ▸ files_settle s, Or.inr (congrArg records hl)⟩
    | ok f => exact absurd ⟨hreads, f, hf⟩ h

/-- **Every load is honest but that of a vanished directory.** -/
theorem honest_iff : s.Honest dir ↔ ¬ s.Vanished dir := by
  constructor
  · intro h hv
    have hs := h.seen ⟨hv.reads, .empty, hv.read⟩
    rw [hv.not_seen] at hs
    cases hs
  · intro hv
    refine ⟨fun hi => hi.sees_or_vanished.resolve_right hv, fun hs => ?_⟩
    refine leavesAlone_of_not_installs fun hi => ?_
    rcases hi.sees_or_vanished with hs' | hv'
    · rw [hs] at hs'
      cases hs'
    · exact hv hv'

/-! ## New snapshots -/

/-- A snapshot is not in the table, and its directory is there. -/
def Awaits (id : SnapshotId) (s : Store) : Prop :=
  s.snapshots.row? id = none ∧ s.files.isDirectory (directoryOf id) = true

/-- A reference given back deletes no directory but that of a snapshot in
the table. -/
theorem Awaits.release (h : Awaits id s) (x : SnapshotId) : Awaits id (s.release x).2 := by
  refine ⟨?_, ?_⟩
  · rw [snapshots_release]
    exact SnapshotTable.row?_release_of_none h.1
  · rw [files_release]
    split
    next hx =>
      -- only a snapshot with a row has a last reference
      have hne : x ≠ id := by
        rintro rfl
        rw [SnapshotTable.refcount_of_row?_none h.1] at hx
        cases hx
      have hprefix : (directoryOf x).isPrefixOf (directoryOf id) = false := by
        simpa [directoryOf, List.isPrefixOf] using fun e => hne (SnapshotId.text_injective e)
      rw [FileTree.isDirectory, FileTree.node?_removeDirectory hprefix]
      exact h.2
    next => exact h.2

/-- An installation of another snapshot leaves it waiting. -/
theorem Awaits.install (h : Awaits id s) {x : SnapshotId} (hne : id ≠ x) :
    Awaits id (s.install x).2 := by
  have hpromote : Awaits id (s.promote x).2 :=
    ⟨SnapshotTable.row?_promote_of_none h.1 hne, h.2⟩
  exact install_of_step s x hpromote fun _ y _ hs => hs.release y

/-- A path that is the name of an id is that of its snapshot. -/
theorem idOf_of_steps (h : dir.steps = [.name id.text]) : idOf dir = .ok id := by
  unfold idOf TreePath.name?
  rw [h]
  simp [SnapshotId.parse?_text]

/-- The load of another snapshot's directory leaves it waiting. -/
theorem Awaits.load (h : Awaits id s) {x : SnapshotId} (hdir : dir.steps = [.name x.text])
    (hne : id ≠ x) : Awaits id (s.load dir).2 := by
  by_cases hi : s.Installs dir
  · obtain ⟨hreads, f, hf⟩ := hi
    have hid := idOf_of_steps hdir
    obtain ⟨x', hx', hr⟩ := readsFiles_iff.1 hreads
    obtain rfl : x = x' := Except.ok.inj (hid.symm.trans hx')
    rw [load_of_ok hid hr hf]
    refine Awaits.install ?_ hne
    rw [Awaits, snapshots_settle, snapshots_putFiles, snapshots_settle, files_settle,
      files_putFiles, files_settle]
    exact h
  · have hl := leavesAlone_of_not_installs hi
    rw [Awaits, hl.snapshots_eq, hl.files_eq]
    exact h

/-- A directory right under the root is that of a new snapshot: it is
seen, and the id that it is named by is not in the table. -/
def New (s : Store) (dir : TreePath) : Prop :=
  ∃ id : SnapshotId, dir.steps = [.name id.text] ∧ s.snapshots.row? id = none ∧
    s.files.sees dir = true

/-- What is new stays so while other new directories are loaded. -/
theorem New.load {d : TreePath} (h : s.New d) (hdir : s.New dir) (hne : dir.steps ≠ d.steps) :
    (s.load dir).2.New d := by
  obtain ⟨id, hd, hr, hs⟩ := h
  obtain ⟨x, hx, -, -⟩ := hdir
  rw [FileTree.sees_of_steps hd, Bool.and_eq_true] at hs
  have hother : id ≠ x := by
    rintro rfl
    exact hne (hx.trans hd.symm)
  have hawaits : Awaits id (s.load dir).2 := Awaits.load ⟨hr, hs.2⟩ hx hother
  refine ⟨id, hd, hawaits.1, ?_⟩
  rw [FileTree.sees_of_steps hd, Bool.and_eq_true]
  exact ⟨hs.1, hawaits.2⟩

/-! ## Batches -/

/-- The loads of directories one after the other, each with the store
that it finds. -/
def loadsIn : Store → List TreePath → List (Store × TreePath)
  | _, [] => []
  | s, d :: ds => (s, d) :: loadsIn (s.load d).2 ds

/-- The order of a batch has each path once, and no others than were
reported. -/
theorem batchOrder_spec (dirs : List TreePath) :
    (batchOrder dirs).Pairwise (fun p q => p.steps ≠ q.steps) ∧
      ∀ d ∈ batchOrder dirs, d ∈ dirs := by
  -- stated of any paths kept before, for the induction
  have hkept : ∀ (dirs kept : List TreePath), kept.Pairwise (fun p q => p.steps ≠ q.steps) →
      (dirs.foldl addPath kept).Pairwise (fun p q => p.steps ≠ q.steps) ∧
        ∀ d ∈ dirs.foldl addPath kept, d ∈ kept ∨ d ∈ dirs := by
    intro dirs
    induction dirs with
    | nil => exact fun kept h => ⟨h, fun _ hd => Or.inl hd⟩
    | cons d dirs ih =>
      intro kept h
      have hadd : (addPath kept d).Pairwise (fun p q => p.steps ≠ q.steps) ∧
          ∀ e ∈ addPath kept d, e ∈ kept ∨ e = d := by
        unfold addPath
        split
        · exact ⟨h, fun _ he => Or.inl he⟩
        next hnew =>
          refine ⟨List.pairwise_append.2 ⟨h, List.pairwise_singleton _ _, fun p hp q hq => ?_⟩, ?_⟩
          · rw [List.mem_singleton.1 hq]
            exact fun e => hnew (List.any_eq_true.2 ⟨p, hp, by simp [TreePath.isSame, e]⟩)
          · simp
      obtain ⟨hpair, hmem⟩ := ih _ hadd.1
      refine ⟨hpair, fun e he => ?_⟩
      rcases hmem e he with he | he
      · exact (hadd.2 e he).imp_right fun hed => List.mem_cons.2 (Or.inl hed)
      · exact Or.inr (List.mem_cons_of_mem _ he)
  obtain ⟨hpair, hmem⟩ := hkept dirs [] List.Pairwise.nil
  refine ⟨?_, fun d hd => ?_⟩
  · -- being different does not depend on the order
    exact ((List.mergeSort_perm _ _).pairwise_iff fun h => Ne.symm h).2 hpair
  · exact (hmem d (List.mem_mergeSort.1 hd)).resolve_left List.not_mem_nil

theorem sees_of_new {ds : List TreePath} (hpair : ds.Pairwise fun p q => p.steps ≠ q.steps)
    (h : ∀ d ∈ ds, s.New d) : ∀ p ∈ s.loadsIn ds, p.1.files.sees p.2 = true := by
  induction ds generalizing s with
  | nil => exact fun _ hp => absurd hp List.not_mem_nil
  | cons d ds ih =>
    obtain ⟨hne, hpair⟩ := List.pairwise_cons.1 hpair
    have hd := h d List.mem_cons_self
    intro p hp
    rcases List.mem_cons.1 hp with rfl | hp
    · obtain ⟨id, -, -, hs⟩ := hd
      exact hs
    · refine ih hpair (fun e he => ?_) p hp
      exact (h e (List.mem_cons_of_mem _ he)).load hd (hne e he)

/-- **A batch of new snapshots is loaded honestly**: no directory is gone
when its turn comes. -/
theorem honest_of_new {dirs : List TreePath} (h : ∀ d ∈ dirs, s.New d) :
    ∀ p ∈ s.loadsIn (batchOrder dirs), p.1.Honest p.2 := by
  obtain ⟨hpair, hmem⟩ := batchOrder_spec dirs
  intro p hp
  have hs := sees_of_new hpair (fun d hd => h d (hmem d hd)) p hp
  refine honest_iff.2 fun hv => ?_
  rw [hv.not_seen] at hs
  cases hs

/-! ## Runs -/

/-- What happens to a store from whose directories snapshots are
loaded. -/
inductive LoadAct where
  | load (dir : TreePath)
  /-- Reported directories are loaded in their order. -/
  | batch (dirs : List TreePath)
  | acquire
  | release (id : SnapshotId)
  /-- Somebody else changes the directories. -/
  | edit (files : FileTree)

/-- The directories that are loaded, in their order. -/
def LoadAct.directories : LoadAct → List TreePath
  | .load dir => [dir]
  | .batch dirs => batchOrder dirs
  | _ => []

/-- The store after an act. -/
def perform (s : Store) : LoadAct → Store
  | .load dir => (s.load dir).2
  | .batch dirs => s.loadBatch dirs
  | .acquire =>
    match s.acquire? with
    | none => s
    | some (_, s') => s'
  | .release id => (s.release id).2
  | .edit files => { s with files := files }

/-- The loads of a run, each with the store that it finds. -/
def loadsOf : Store → List LoadAct → List (Store × TreePath)
  | _, [] => []
  | s, a :: as => s.loadsIn a.directories ++ loadsOf (s.perform a) as

/-- **When loading is honest.** Along every run, all loads are honest
exactly if no directory that is loaded has vanished; the load of one that
has makes its snapshot current with nothing stored for it. A batch of new
snapshots has no such load. -/
theorem loads_exact (s : Store) (as : List LoadAct) :
    ((∀ p ∈ s.loadsOf as, p.1.Honest p.2) ↔ ∀ p ∈ s.loadsOf as, ¬ p.1.Vanished p.2) ∧
    (∀ p ∈ s.loadsOf as, p.1.Vanished p.2 →
      ∃ id, idOf p.2 = .ok id ∧ p.1.snapshots.row? id = none ∧
        p.1.load p.2 = (.ok id, (p.1.settle.install id).2) ∧
        (p.1.load p.2).2.snapshots.isCurrent id = true) ∧
    (∀ dirs, (∀ d ∈ dirs, s.New d) → ∀ p ∈ s.loadsIn (batchOrder dirs), p.1.Honest p.2) := by
  refine ⟨?_, fun p _ hv => ?_, fun dirs h => honest_of_new h⟩
  · exact forall₂_congr fun p _ => honest_iff
  · obtain ⟨id, hid, hr, hl⟩ := load_of_vanished hv
    refine ⟨id, hid, hr, hl, ?_⟩
    rw [hl]
    refine isCurrent_install (SnapshotTable.hasRoomFor_of_row?_none ?_)
    rwa [snapshots_settle]

/-! ## A directory reported again -/

/-- A snapshot with one catalog. -/
def oneCatalog : FileTree :=
  [(["00001"], .directory),
    (["00001", "catalogs.json"],
      .file "[\x7b\"id\":\"c\",\"organization\":\x7b\"id\":\"o\"\x7d\x7d]".utf8)]

/-- The store that has loaded it, with another directory beside it. -/
def beforeBatch : Store :=
  [.edit oneCatalog, .load (.parse "00001"), .edit ((["00000"], .directory) :: oneCatalog)].foldl
    perform empty

/-- Both directories, in the order in which they are loaded. -/
def bothDirectories : List TreePath := [.parse "00000", .parse "00001"]

theorem batchOrder_bothDirectories : batchOrder bothDirectories = bothDirectories := by
  have hkept : bothDirectories.foldl addPath [] = bothDirectories := by decide +kernel
  rw [batchOrder, hkept]
  exact List.mergeSort_of_pairwise (by decide +kernel)

/-- **A batch in which a directory vanishes.** Both directories are there
when the batch begins. The first installation deletes the snapshot that
was current, and then its directory is loaded: in the end that snapshot is
current again, and its records are gone. -/
theorem batch_vanished :
    (∀ d ∈ bothDirectories, beforeBatch.files.sees d = true) ∧
    (∃ p ∈ beforeBatch.loadsIn (batchOrder bothDirectories), ¬ p.1.Honest p.2) ∧
    beforeBatch.records.count ⟨1, by decide⟩ = 2 ∧
    (beforeBatch.loadBatch bothDirectories).snapshots.isCurrent ⟨1, by decide⟩ = true ∧
    (beforeBatch.loadBatch bothDirectories).records.count ⟨1, by decide⟩ = 0 := by
  rw [loadBatch, batchOrder_bothDirectories]
  refine ⟨by decide +kernel, ⟨((beforeBatch.load (.parse "00000")).2, .parse "00001"), ?_, ?_⟩,
    by decide +kernel, by decide +kernel, by decide +kernel⟩
  · exact List.mem_cons_of_mem _ List.mem_cons_self
  · exact fun h => honest_iff.1 h (by decide +kernel)

end Store

end ApiGateway
