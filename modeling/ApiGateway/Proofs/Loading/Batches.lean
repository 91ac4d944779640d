import ApiGateway.Proofs.Loading.AllOrNothing
import Mathlib.Data.List.Basic
import Mathlib.Data.List.Forall2
import Mathlib.Data.List.Sort
/-!
# Loading — a batch of reported directories

Directories are reported in any order and more than once, and are loaded
together. What is loaded depends on which snapshots were reported and on
nothing else: a batch is put in the order of its paths, which for
directories named by ids is the order of the ids, each stays once
(`exists_ids`), and how a path is written does not matter to its load
(`Reports.load_eq`). So two batches that report the same snapshots leave the
same store.

Each load of a batch works on the store that the one before it left. One
that fails leaves it as it is, and the next goes on from there. One that
installs a snapshot makes it current, and what comes later and installs
nothing leaves the table alone (`loads_split`); as ids increase, the last
snapshot that was installed is the highest.

A snapshot counts as installed if its load installed it, whether or not it
was in the table when the batch began: an installation may delete a
snapshot whose turn is still to come.
-/

namespace ApiGateway

namespace SnapshotFiles

/-- What is read of a directory is in its files. -/
theorem read_congr {files : FileTree} {d e : TreePath}
    (h : ∀ name ∈ fileNames, files.read (d.child name) = files.read (e.child name)) :
    read files d = read files e := by
  have hfile : ∀ {α : Type} (shape : Json.Shape) (decode : Json → Option α),
      ∀ name ∈ fileNames,
        readFile shape decode files d name = readFile shape decode files e name := by
    intro α shape decode name hname
    rw [readFile, readFile, h name hname]
  simp only [read, hfile _ _ "catalogs.json" (by decide), hfile _ _ "apis.json" (by decide),
    hfile _ _ "products.json" (by decide), hfile _ _ "subscriptions.json" (by decide),
    hfile _ _ "tlsprofiles.json" (by decide), hfile _ _ "registries.json" (by decide)]

end SnapshotFiles

namespace Store

variable {s : Store} {root dir d : TreePath} {dirs ds : List TreePath} {id i j : SnapshotId}

/-! ## Directories that report a snapshot -/

/-- **A path reports a snapshot** if it leads to the directory in a root that
is named by the snapshot's id. It may be written in more than one way, as long
as that does not make a path of its files that nothing can be at. -/
structure Reports (root dir : TreePath) (id : SnapshotId) : Prop where
  steps_eq : dir.steps = root.steps ++ [.name id.text]
  possible_eq : ∀ name ∈ SnapshotFiles.fileNames,
    (dir.child name).isImpossible = ((root.child id.text).child name).isImpossible

instance (root dir : TreePath) (id : SnapshotId) : Decidable (Reports root dir id) :=
  decidable_of_iff (dir.steps = root.steps ++ [.name id.text] ∧
      ∀ name ∈ SnapshotFiles.fileNames,
        (dir.child name).isImpossible = ((root.child id.text).child name).isImpossible)
    ⟨fun ⟨h1, h2⟩ => ⟨h1, h2⟩, fun ⟨h1, h2⟩ => ⟨h1, h2⟩⟩

theorem reports_child (root : TreePath) (id : SnapshotId) : Reports root (root.child id.text) id :=
  ⟨rfl, fun _ _ => rfl⟩

theorem Reports.unique (hi : Reports root dir i) (hj : Reports root dir j) : i = j := by
  have hsteps := hi.steps_eq.symm.trans hj.steps_eq
  exact SnapshotId.text_injective (by simpa using hsteps)

theorem Reports.reports_iff (hi : Reports root dir i) : Reports root dir j ↔ j = i := by
  constructor
  · exact fun hj => hj.unique hi
  · rintro rfl
    exact hi

theorem Reports.idOf_eq (h : Reports root dir id) : idOf dir = .ok id := by
  simp [idOf, TreePath.name?, h.steps_eq, SnapshotId.parse?_text]

/-- Paths of snapshots in one directory have the order of the ids. -/
theorem Reports.isBefore_eq {p q : TreePath} (hp : Reports root p i) (hq : Reports root q j) :
    p.isBefore q = decide (i.number < j.number) := by
  rw [TreePath.isBefore, hp.steps_eq, hq.steps_eq, TreePath.areBefore_append]
  exact decide_eq_decide.2 SnapshotId.text_lt_iff

/-- **How a path is written does not matter to its load.** -/
theorem Reports.load_eq (h : Reports root dir id) (s : Store) :
    s.load dir = s.load (root.child id.text) := by
  have hplain := (reports_child root id).idOf_eq
  have hread : ∀ files, SnapshotFiles.read files dir =
      SnapshotFiles.read files (root.child id.text) := by
    refine fun files => SnapshotFiles.read_congr fun name hname => ?_
    have hresolve : files.resolve (dir.child name) =
        files.resolve ((root.child id.text).child name) := by
      rw [FileTree.resolve, FileTree.resolve, h.possible_eq name hname]
      simp [TreePath.child, h.steps_eq]
    rw [FileTree.read, FileTree.read, hresolve]
  simp only [load, readsFiles, loadDirectory, h.idOf_eq, hplain, hread]

/-! ## The order of a batch -/

/-- With a path that is added, something with its steps is kept, and what was
kept stays. -/
theorem exists_mem_addPath {kept : List TreePath} {a : TreePath}
    (h : (∃ e ∈ kept, e.steps = d.steps) ∨ d = a) : ∃ e ∈ addPath kept a, e.steps = d.steps := by
  unfold addPath
  split
  next hany =>
    rcases h with hkept | rfl
    · exact hkept
    · obtain ⟨e, he, hsame⟩ := List.any_eq_true.1 hany
      exact ⟨e, he, (of_decide_eq_true hsame).symm⟩
  next =>
    rcases h with ⟨e, he, hsteps⟩ | rfl
    · exact ⟨e, List.mem_append_left _ he, hsteps⟩
    · exact ⟨d, List.mem_append_right _ (List.mem_singleton_self d), rfl⟩

/-- Of every path that was reported one with the same steps is loaded. -/
theorem exists_mem_batchOrder (h : d ∈ dirs) : ∃ e ∈ batchOrder dirs, e.steps = d.steps := by
  have hfold : ∀ dirs kept : List TreePath, ((∃ e ∈ kept, e.steps = d.steps) ∨ d ∈ dirs) →
      ∃ e ∈ dirs.foldl addPath kept, e.steps = d.steps := by
    intro dirs
    induction dirs with
    | nil => exact fun _ h => h.resolve_right List.not_mem_nil
    | cons a dirs ih =>
      intro kept h
      refine ih (addPath kept a) ?_
      rcases h with hkept | hd
      · exact .inl (exists_mem_addPath (.inl hkept))
      · exact (List.mem_cons.1 hd).imp_left fun heq => exists_mem_addPath (.inr heq)
  obtain ⟨e, he, hsteps⟩ := hfold dirs [] (.inr h)
  exact ⟨e, List.mem_mergeSort.2 he, hsteps⟩

/-- The id that a directory is named by, or the lowest one. -/
def namedBy (dir : TreePath) : SnapshotId :=
  match idOf dir with
  | .ok id => id
  | .error _ => ⟨0, by decide⟩

theorem Reports.namedBy_eq (h : Reports root dir id) : namedBy dir = id := by
  rw [namedBy, h.idOf_eq]

theorem reports_namedBy (h : ∃ id, Reports root dir id) : Reports root dir (namedBy dir) := by
  obtain ⟨id, hid⟩ := h
  rwa [hid.namedBy_eq]

/-- **Reported directories are loaded by their ids**, the lowest first. -/
theorem pairwise_batchOrder (hdirs : ∀ d ∈ dirs, ∃ id, Reports root d id) :
    (batchOrder dirs).Pairwise fun p q => (namedBy p).number < (namedBy q).number := by
  obtain ⟨hpair, hmem⟩ := batchOrder_spec dirs
  have hnamed : ∀ d ∈ batchOrder dirs, Reports root d (namedBy d) :=
    fun d hd => reports_namedBy (hdirs d (hmem d hd))
  have hbefore : ∀ p ∈ batchOrder dirs, ∀ q ∈ batchOrder dirs,
      (!q.isBefore p) = decide ((namedBy p).number ≤ (namedBy q).number) := by
    intro p hp q hq
    rw [(hnamed q hq).isBefore_eq (hnamed p hp), ← decide_not]
    exact decide_eq_decide.2 Nat.not_lt
  -- sorting the paths is sorting the ids, and of those it is known what that gives
  have hsorted : ((batchOrder dirs).map namedBy).Pairwise fun i j => i.number ≤ j.number := by
    have hmap := List.map_mergeSort (l := dirs.foldl addPath [])
      (s := fun i j : SnapshotId => decide (i.number ≤ j.number)) (f := namedBy)
      fun p hp q hq => hbefore p (List.mem_mergeSort.2 hp) q (List.mem_mergeSort.2 hq)
    rw [batchOrder, hmap]
    refine (List.pairwise_mergeSort ?_ ?_ _).imp of_decide_eq_true
    · intro i j k hij hjk
      exact decide_eq_true ((of_decide_eq_true hij).trans (of_decide_eq_true hjk))
    · intro i j
      rw [Bool.or_eq_true, decide_eq_true_iff, decide_eq_true_iff]
      exact Nat.le_total _ _
  refine ((List.pairwise_map.1 hsorted).and hpair).imp_of_mem fun {p q} hp hq h => ?_
  refine Nat.lt_of_le_of_ne h.1 fun hnumber => h.2 ?_
  have hid : namedBy p = namedBy q := by
    cases hi : namedBy p
    cases hj : namedBy q
    simpa [hi, hj] using hnumber
  rw [(hnamed p hp).steps_eq, (hnamed q hq).steps_eq, hid]

/-- **What a batch attempts**: each snapshot that was reported once, and no
other one. -/
theorem exists_ids (hdirs : ∀ d ∈ dirs, ∃ id, Reports root d id) :
    ∃ ids : List SnapshotId, ids.Pairwise (fun i j => i.number < j.number) ∧
      (∀ id, id ∈ ids ↔ ∃ d ∈ dirs, Reports root d id) ∧
      List.Forall₂ (Reports root) (batchOrder dirs) ids := by
  have hmem := (batchOrder_spec dirs).2
  have hnamed : ∀ d ∈ batchOrder dirs, Reports root d (namedBy d) :=
    fun d hd => reports_namedBy (hdirs d (hmem d hd))
  refine ⟨(batchOrder dirs).map namedBy, List.pairwise_map.2 (pairwise_batchOrder hdirs), ?_, ?_⟩
  · intro id
    rw [List.mem_map]
    constructor
    · rintro ⟨d, hd, rfl⟩
      exact ⟨d, hmem d hd, hnamed d hd⟩
    · rintro ⟨d, hd, hid⟩
      obtain ⟨e, he, hsteps⟩ := exists_mem_batchOrder hd
      have htext := (hnamed e he).steps_eq.symm.trans (hsteps.trans hid.steps_eq)
      exact ⟨e, he, SnapshotId.text_injective (by simpa using htext)⟩
  · rw [List.forall₂_map_right_iff]
    exact List.forall₂_same.2 hnamed

/-- **A batch loads its snapshots by their ids.** -/
theorem loadBatch_eq {ids : List SnapshotId}
    (h : List.Forall₂ (Reports root) (batchOrder dirs) ids) (s : Store) :
    s.loadBatch dirs = ids.foldl (fun s id => (s.load (root.child id.text)).2) s := by
  rw [loadBatch]
  generalize batchOrder dirs = ds at h
  induction h generalizing s with
  | nil => rfl
  | cons hd _ ih => rw [List.foldl_cons, List.foldl_cons, hd.load_eq, ih]

/-- **Batches that report the same snapshots leave the same store.** -/
theorem loadBatch_congr {dirs' : List TreePath} (hdirs : ∀ d ∈ dirs, ∃ id, Reports root d id)
    (hdirs' : ∀ d ∈ dirs', ∃ id, Reports root d id)
    (hsame : ∀ id, (∃ d ∈ dirs', Reports root d id) ↔ ∃ d ∈ dirs, Reports root d id) (s : Store) :
    s.loadBatch dirs' = s.loadBatch dirs := by
  obtain ⟨ids, hpair, hmem, hall⟩ := exists_ids hdirs
  obtain ⟨ids', hpair', hmem', hall'⟩ := exists_ids hdirs'
  have hne : ∀ {i j : SnapshotId}, i.number < j.number → i ≠ j :=
    fun hlt heq => Nat.lt_irrefl _ (heq ▸ hlt)
  have hperm : ids'.Perm ids :=
    (List.perm_ext_iff_of_nodup (hpair'.imp hne) (hpair.imp hne)).2
      fun id => (hmem' id).trans ((hsame id).trans (hmem id).symm)
  -- increasing lists with the same elements are the same
  have hids : ids' = ids := hperm.eq_of_pairwise
    (fun _ _ _ _ hlt hgt => absurd (Nat.lt_trans hlt hgt) (Nat.lt_irrefl _)) hpair' hpair
  rw [loadBatch_eq hall', loadBatch_eq hall, hids]

/-! ## The loads of a batch -/

theorem loadsIn_dirs (s : Store) (ds : List TreePath) : (s.loadsIn ds).map (·.2) = ds := by
  induction ds generalizing s with
  | nil => rfl
  | cons d ds ih => rw [loadsIn, List.map_cons, ih]

/-- What holds of a store, and of what a load leaves of one, holds along a
batch. -/
theorem of_mem_loadsIn {P : Store → Prop} (hload : ∀ s dir, P s → P (s.load dir).2)
    (h : P s) : ∀ p ∈ s.loadsIn ds, P p.1 := by
  induction ds generalizing s with
  | nil => exact fun _ hp => absurd hp List.not_mem_nil
  | cons d ds ih =>
    intro p hp
    rcases List.mem_cons.1 hp with rfl | hp
    · exact h
    · exact ih (hload s d h) p hp

/-- No event waits when a load is over, if none did before. -/
theorem waiting_load (h : s.queue.waiting = []) (dir : TreePath) :
    (s.load dir).2.queue.waiting = [] := by
  rcases s.load_cases dir with ⟨e, -, hload⟩ | ⟨id, row, -, -, hload⟩ |
    ⟨id, e, -, -, -, hload⟩ | ⟨id, f, -, -, -, hload⟩
  · rwa [hload]
  · rwa [hload]
  · rw [hload, waiting_settle]
  · rw [hload, queue_install, waiting_settle]

theorem Installs.ne_error (h : s.Installs dir) (e : LoadError) : (s.load dir).1 ≠ .error e := by
  obtain ⟨hreads, f, hf⟩ := h
  obtain ⟨id, hid, hrow⟩ := readsFiles_iff.1 hreads
  rw [load_of_ok hid hrow hf]
  exact nofun

/-- **A snapshot that is installed is the current one**, alone. -/
theorem Installs.isCurrent_iff (ht : s.snapshots.Keyed) (h : s.Installs dir)
    (hid : Reports root dir id) (x : SnapshotId) :
    (s.load dir).2.snapshots.isCurrent x = true ↔ x = id := by
  obtain ⟨hreads, f, hf⟩ := h
  obtain ⟨id', hid', hrow⟩ := readsFiles_iff.1 hreads
  obtain rfl : id = id' := Except.ok.inj (hid.idOf_eq.symm.trans hid')
  have hkeyed : (s.settle.putFiles id f).settle.snapshots.Keyed := by
    rwa [snapshots_settle, snapshots_putFiles, snapshots_settle]
  have hroom : (s.settle.putFiles id f).settle.snapshots.HasRoomFor id := by
    refine SnapshotTable.hasRoomFor_of_row?_none ?_
    rwa [snapshots_settle, snapshots_putFiles, snapshots_settle]
  rw [load_of_ok hid' hrow hf, isCurrent_install_eq hkeyed hroom, decide_eq_true_iff]

/-- **What loads leave in the table is from the last one that installed**, and
if none did it is what was there. -/
theorem loads_split (s : Store) (ds : List TreePath) :
    let after := ds.foldl (fun s dir => (s.load dir).2) s
    ((∀ p ∈ s.loadsIn ds, ¬ p.1.Installs p.2) ∧ after.snapshots = s.snapshots) ∨
      ∃ front p back, s.loadsIn ds = front ++ p :: back ∧ p.1.Installs p.2 ∧
        (∀ q ∈ back, ¬ q.1.Installs q.2) ∧ after.snapshots = (p.1.load p.2).2.snapshots := by
  intro after
  induction ds generalizing s with
  | nil => exact .inl ⟨fun _ hp => absurd hp List.not_mem_nil, rfl⟩
  | cons d ds ih =>
    rcases ih (s.load d).2 with ⟨hnone, htable⟩ | ⟨front, p, back, hloads, hp, hback, htable⟩
    · by_cases hd : s.Installs d
      · exact .inr ⟨[], (s, d), _, rfl, hd, hnone, htable⟩
      · refine .inl ⟨fun p hp => ?_, htable.trans (leavesAlone_of_not_installs hd).snapshots_eq⟩
        rcases List.mem_cons.1 hp with rfl | hp
        · exact hd
        · exact hnone p hp
    · exact .inr ⟨(s, d) :: front, p, back, by rw [loadsIn, hloads, List.cons_append], hp, hback,
        htable⟩

instance (s : Store) (dir : TreePath) : Decidable (s.Installs dir) :=
  decidable_of_iff (s.readsFiles dir = true ∧ (SnapshotFiles.read s.files dir).isOk = true)
    (and_congr_right fun _ => by
      cases SnapshotFiles.read s.files dir <;> simp [Except.isOk, Except.toBool])

/-- A snapshot is installed by one of the loads of a batch. -/
def Installed (root : TreePath) (loads : List (Store × TreePath)) (id : SnapshotId) : Prop :=
  ∃ p ∈ loads, Reports root p.2 id ∧ p.1.Installs p.2

/-- **The last snapshot that a batch installs is the highest, and current.** -/
theorem exists_highest (ht : s.snapshots.Keyed) (hdirs : ∀ d ∈ dirs, ∃ id, Reports root d id)
    (h : ∃ id, Installed root (s.loadsIn (batchOrder dirs)) id) :
    ∃ id, Installed root (s.loadsIn (batchOrder dirs)) id ∧
      (∀ j, Installed root (s.loadsIn (batchOrder dirs)) j → j.number ≤ id.number) ∧
      ∀ x, (s.loadBatch dirs).snapshots.isCurrent x = true ↔ x = id := by
  have horder : ((s.loadsIn (batchOrder dirs)).map (·.2)).Pairwise
      fun p q => (namedBy p).number < (namedBy q).number := by
    rw [loadsIn_dirs]
    exact pairwise_batchOrder hdirs
  have hkeyed : ∀ p ∈ s.loadsIn (batchOrder dirs), p.1.snapshots.Keyed :=
    of_mem_loadsIn (P := fun s => s.snapshots.Keyed) (fun _ dir hs => keyed_load hs dir) ht
  have hreports : ∀ p ∈ s.loadsIn (batchOrder dirs), Reports root p.2 (namedBy p.2) := by
    intro p hp
    have hdir := List.mem_map_of_mem (f := (·.2)) hp
    rw [loadsIn_dirs] at hdir
    exact reports_namedBy (hdirs _ ((batchOrder_spec dirs).2 _ hdir))
  rcases loads_split s (batchOrder dirs) with
    ⟨hnone, -⟩ | ⟨front, p, back, hloads, hinstalls, hback, htable⟩
  · obtain ⟨id, p, hp, -, hinstalls⟩ := h
    exact absurd hinstalls (hnone p hp)
  · rw [hloads] at horder hkeyed hreports ⊢
    have hp : p ∈ front ++ p :: back := List.mem_append_right _ List.mem_cons_self
    refine ⟨namedBy p.2, ⟨p, hp, hreports p hp, hinstalls⟩, ?_, fun x => ?_⟩
    · rintro j ⟨q, hq, hj, hinstalled⟩
      rw [← hj.namedBy_eq]
      rw [List.map_append, List.map_cons, List.pairwise_append] at horder
      rcases List.mem_append.1 hq with hq | hq
      · exact Nat.le_of_lt
          (horder.2.2 _ (List.mem_map_of_mem hq) _ List.mem_cons_self)
      · rcases List.mem_cons.1 hq with rfl | hq
        · exact Nat.le_refl _
        · exact absurd hinstalled (hback q hq)
    · rw [loadBatch, htable, hinstalls.isCurrent_iff (hkeyed p hp) (hreports p hp)]

/-- **Batches do not depend on the order of reports.** Directories under a
root that are named by ids are loaded by their ids, the lowest first, and
each id once. One that fails changes nothing, but that events are handled
which were waiting; and whichever fail, the others are loaded. Another batch
that reports the same snapshots leaves the same store. If any snapshot is
installed, the highest of them is current in the end, and if none is, the
table stays as it was. -/
theorem batch_exact (ht : s.snapshots.Keyed) (hdirs : ∀ d ∈ dirs, ∃ id, Reports root d id) :
    let loads := s.loadsIn (batchOrder dirs)
    let after := s.loadBatch dirs
    (∃ ids : List SnapshotId, ids.Pairwise (fun i j => i.number < j.number) ∧
      (∀ id, id ∈ ids ↔ ∃ d ∈ dirs, Reports root d id) ∧
      List.Forall₂ (fun p => Reports root p.2) loads ids) ∧
    (∀ p ∈ loads, ∀ e, (p.1.load p.2).1 = .error e →
      (p.1.load p.2).2 = p.1.afterReading p.2 ∧
        (s.queue.waiting = [] → (p.1.load p.2).2 = p.1)) ∧
    (∀ dirs', (∀ d ∈ dirs', ∃ id, Reports root d id) →
      (∀ id, (∃ d ∈ dirs', Reports root d id) ↔ ∃ d ∈ dirs, Reports root d id) →
      s.loadBatch dirs' = after) ∧
    ((∃ id, Installed root loads id) → ∃ id, Installed root loads id ∧
      (∀ j, Installed root loads j → j.number ≤ id.number) ∧
      (∃ row, after.snapshots.current? = some row ∧ row.id = id) ∧
      ∀ x, after.snapshots.isCurrent x = true ↔ x = id) ∧
    ((∀ p ∈ loads, ¬ p.1.Installs p.2) → after.snapshots = s.snapshots) := by
  intro loads after
  refine ⟨?_, fun p hp e he => ?_, fun dirs' hdirs' hsame => loadBatch_congr hdirs hdirs' hsame s,
    fun h => ?_, fun hnone => ?_⟩
  · obtain ⟨ids, hpair, hmem, hall⟩ := exists_ids hdirs
    refine ⟨ids, hpair, hmem, ?_⟩
    rw [← loadsIn_dirs s (batchOrder dirs), List.forall₂_map_left_iff] at hall
    exact hall
  · refine ⟨load_of_fails he, fun hidle => ?_⟩
    have hwaiting : p.1.queue.waiting = [] :=
      of_mem_loadsIn (P := fun s => s.queue.waiting = []) (fun _ dir hs => waiting_load hs dir)
        hidle p hp
    rw [load_of_fails he, (p.1.afterReading_spec p.2).2.2.2 (.inl hwaiting)]
  · obtain ⟨id, hinstalled, hhighest, hcurrent⟩ := exists_highest ht hdirs h
    have hkeyed : after.snapshots.Keyed := keyed_perform ht (.batch dirs)
    exact ⟨id, hinstalled, hhighest, hkeyed.exists_current? hcurrent, hcurrent⟩
  · rcases loads_split s (batchOrder dirs) with ⟨-, htable⟩ | ⟨front, p, back, hloads, hp, -⟩
    · exact htable
    · have hmem : p ∈ s.loadsIn (batchOrder dirs) := by
        rw [hloads]
        exact List.mem_append_right _ List.mem_cons_self
      exact absurd hp (hnone p hmem)

/-! ## Three directories in disorder -/

/-- Three directories in the order of their ids. -/
def inOrder : List TreePath := [.parse "00001", .parse "00002", .parse "00003"]

/-- The same ones, the last one first and one of them twice. -/
def inDisorder : List TreePath :=
  [.parse "00003", .parse "./00002", .parse "00001/", .parse "00002"]

theorem batchOrder_inOrder : batchOrder inOrder = inOrder := by
  have hkept : inOrder.foldl addPath [] = inOrder := by decide +kernel
  rw [batchOrder, hkept]
  exact List.mergeSort_of_pairwise (by decide +kernel)

/-- The store that has loaded the first two of them. -/
def afterSecond : Store := (afterFirst.load (.parse "00002")).2

theorem loadsIn_inOrder : beforeFirst.loadsIn (batchOrder inOrder) =
    [(beforeFirst, .parse "00001"), (afterFirst, .parse "00002"),
      (afterSecond, .parse "00003")] := by
  rw [batchOrder_inOrder, inOrder, loadsIn, loadsIn, loadsIn, loadsIn, afterSecond, afterFirst]

/-- **The second of three is current** although the third came first: the
third is broken, and leaves the store as it found it. -/
theorem second_of_three :
    beforeFirst.loadBatch inDisorder = beforeFirst.loadBatch inOrder ∧
      (∃ row, (beforeFirst.loadBatch inOrder).snapshots.current? = some row ∧
        row.id = ⟨2, by decide⟩) ∧
      (afterSecond.load (.parse "00003")).2 = afterSecond := by
  have hone : Reports (.parse "") (.parse "00001") ⟨1, by decide⟩ := by decide +kernel
  have htwo : Reports (.parse "") (.parse "00002") ⟨2, by decide⟩ := by decide +kernel
  have hthree : Reports (.parse "") (.parse "00003") ⟨3, by decide⟩ := by decide +kernel
  -- the same directories, written in another way
  have hone' : Reports (.parse "") (.parse "00001/") ⟨1, by decide⟩ := by decide +kernel
  have htwo' : Reports (.parse "") (.parse "./00002") ⟨2, by decide⟩ := by decide +kernel
  have hdirs : ∀ d ∈ inOrder, ∃ id, Reports (.parse "") d id := by
    simp only [inOrder, List.forall_mem_cons]
    exact ⟨⟨_, hone⟩, ⟨_, htwo⟩, ⟨_, hthree⟩, List.forall_mem_nil _⟩
  have hdirs' : ∀ d ∈ inDisorder, ∃ id, Reports (.parse "") d id := by
    simp only [inDisorder, List.forall_mem_cons]
    exact ⟨⟨_, hthree⟩, ⟨_, htwo'⟩, ⟨_, hone'⟩, ⟨_, htwo⟩, List.forall_mem_nil _⟩
  have hsame : ∀ id, (∃ d ∈ inDisorder, Reports (.parse "") d id) ↔
      ∃ d ∈ inOrder, Reports (.parse "") d id := by
    intro id
    simp only [inDisorder, inOrder, List.exists_mem_cons_iff, List.not_mem_nil, false_and,
      exists_false, or_false, hone.reports_iff, htwo.reports_iff, hthree.reports_iff,
      hone'.reports_iff, htwo'.reports_iff]
    constructor
    · rintro (rfl | rfl | rfl | rfl) <;> simp
    · rintro (rfl | rfl | rfl) <;> simp
  have hbefore : beforeFirst.snapshots.Keyed := SnapshotTable.sound_nil.keyed
  obtain ⟨-, hfails, hcongr, hhighest, -⟩ := batch_exact hbefore hdirs
  rw [loadsIn_inOrder] at hfails hhighest
  simp only [List.forall_mem_cons] at hfails
  have hbroken : (afterSecond.load (.parse "00003")).1 = .error (.malformed "apis.json") := by
    decide +kernel
  have hsecond : afterFirst.Installs (.parse "00002") := by decide +kernel
  have hthird : ¬ afterSecond.Installs (.parse "00003") := fun h => h.ne_error _ hbroken
  simp only [Installed, List.exists_mem_cons_iff, List.not_mem_nil, false_and, exists_false,
    or_false] at hhighest
  simp only [hthird, and_false, or_false] at hhighest
  obtain ⟨id, hinstalled, hmax, ⟨row, hrow, hid⟩, -⟩ := hhighest ⟨_, .inr ⟨htwo, hsecond⟩⟩
  have hle : 2 ≤ id.number := hmax _ (.inr ⟨htwo, hsecond⟩)
  refine ⟨hcongr inDisorder hdirs' hsame, ⟨row, hrow, hid.trans ?_⟩,
    (hfails.2.2.1 _ hbroken).2 rfl⟩
  rcases hinstalled with ⟨hfirst, -⟩ | ⟨hlast, -⟩
  · -- the second one is installed as well, and is higher
    obtain rfl := hfirst.unique hone
    exact absurd hle (by decide)
  · exact hlast.unique htwo

end Store

end ApiGateway
