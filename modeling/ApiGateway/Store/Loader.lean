import ApiGateway.Record.Shape
import ApiGateway.Store.Basic
/-!
# Store — loading a snapshot from its directory

A snapshot is a directory whose name is its id, with one file for each
kind of record; a file that is missing is as good as an empty list. All
files are read before anything is stored, so a directory that cannot be
read changes nothing. What was read is stored and indexed, and then the
snapshot is made current. A snapshot that is in the table already is not
loaded again.
-/

namespace ApiGateway

/-- Why a directory cannot be loaded. -/
inductive LoadError where
  | invalidName (name : String)
  | unreadable
  /-- The text of this file does not hold a list of records. -/
  | malformed (file : String)
  deriving DecidableEq, Repr

/-- The records of a snapshot as its files have them. -/
structure SnapshotFiles where
  catalogs : List Catalog
  apis : List Api
  products : List Product
  subscriptions : List Subscription
  tlsProfiles : List OpaqueRecord
  registries : List OpaqueRecord

namespace SnapshotFiles

/-- The records in a file of a directory. -/
def readFile {α : Type} (shape : Json.Shape) (decode : Json → Option α) (files : FileTree)
    (dir : TreePath) (name : String) : Except LoadError (List α) :=
  match files.read (dir.child name) with
  | .missing => .ok []
  | .failed => .error .unreadable
  | .ok content =>
    match (Json.selectFrom? (.listOf shape) content).bind (Json.listOf? decode) with
    | some records => .ok records
    | none => .error (.malformed name)

/-- The records in the files of a directory, which are read in a fixed
order; the first that fails is what is reported. -/
def read (files : FileTree) (dir : TreePath) : Except LoadError SnapshotFiles := do
  let catalogs ← readFile Catalog.shape Catalog.ofJson? files dir "catalogs.json"
  let apis ← readFile Api.shape Api.ofJson? files dir "apis.json"
  let products ← readFile Product.shape Product.ofJson? files dir "products.json"
  let subscriptions ←
    readFile Subscription.shape Subscription.ofJson? files dir "subscriptions.json"
  let tlsProfiles ← readFile OpaqueRecord.shape OpaqueRecord.ofJson? files dir "tlsprofiles.json"
  let registries ← readFile OpaqueRecord.shape OpaqueRecord.ofJson? files dir "registries.json"
  return ⟨catalogs, apis, products, subscriptions, tlsProfiles, registries⟩

end SnapshotFiles

namespace Store

/-- The store with the records of a snapshot. Products and subscriptions
come last, when everything that they refer to is there. -/
def putFiles (s : Store) (id : SnapshotId) (f : SnapshotFiles) : Store :=
  let plain := s.withRecords fun r =>
    let r := f.catalogs.foldl (fun r c => r.putCatalog id c) r
    let r := f.apis.foldl (fun r a => r.putApi id a) r
    let r := f.tlsProfiles.foldl (fun r o => r.putTlsProfile id o) r
    f.registries.foldl (fun r o => r.putRegistry id o) r
  let withProducts := f.products.foldl (fun s p => s.putProduct id p) plain
  f.subscriptions.foldl (fun s u => s.putSubscription id u) withProducts

/-- The id of the snapshot in a directory, which is the directory's
name. -/
def idOf (dir : TreePath) : Except LoadError SnapshotId :=
  let name := dir.name?.getD dir.text
  match SnapshotId.parse? name with
  | some id => .ok id
  | none => .error (.invalidName name)

/-- Whether the files of a directory are read when it is loaded. -/
def readsFiles (s : Store) (dir : TreePath) : Bool :=
  match idOf dir with
  | .ok id => (s.snapshots.row? id).isNone
  | .error _ => false

/-- The snapshot in a directory is loaded and made current. It is not in
the table then, so there is room for its first reference. -/
def loadDirectory (s : Store) (dir : TreePath) : Except LoadError SnapshotId × Store :=
  match idOf dir with
  | .error e => (.error e, s)
  | .ok id =>
    match s.snapshots.row? id with
    | some _ => (.ok id, s)
    | none =>
      match SnapshotFiles.read s.files dir with
      | .error e => (.error e, s)
      | .ok f => (.ok id, ((s.putFiles id f).settle.install id).2)

/-- Reading files takes time, in which the events that wait are
handled. -/
def load (s : Store) (dir : TreePath) : Except LoadError SnapshotId × Store :=
  if s.readsFiles dir then s.settle.loadDirectory dir else s.loadDirectory dir

/-- The highest id among names. -/
def highestId? (names : List String) : Option SnapshotId :=
  (names.filterMap SnapshotId.parse?).foldl
    (fun best id =>
      match best with
      | some b => if b ≤ id then some id else best
      | none => some id)
    none

/-- The directory with the highest id is loaded, if there is any. -/
def loadLatest (s : Store) (root : TreePath) : Except LoadError (Option SnapshotId) × Store :=
  let s := s.settle
  match s.files.directoriesIn root with
  | .missing => (.ok none, s)
  | .failed => (.error .unreadable, s)
  | .ok names =>
    match highestId? names with
    | none => (.ok none, s)
    | some id =>
      let (result, s') := s.load (root.child id.text)
      (result.map some, s')

/-! ## Directories that appear -/

/-- The id under which a path is reported that appears in a watched
directory: it has to be a directory right there, named by an id. -/
def reported? (files : FileTree) (watched : Place) (path : TreePath) : Option SnapshotId :=
  match files.resolve path with
  | .place q =>
    match FileTree.nameIn? watched q with
    | some name => if files.isDirectory q then SnapshotId.parse? name else none
    | none => none
  | _ => none

/-- A path is kept unless a path with the same steps has been kept. -/
def addPath (kept : List TreePath) (p : TreePath) : List TreePath :=
  if kept.any p.isSame then kept else kept ++ [p]

/-- The order in which reported directories are loaded: each once, by
their paths. -/
def batchOrder (dirs : List TreePath) : List TreePath :=
  (dirs.foldl addPath []).mergeSort fun p q => !q.isBefore p

/-- Reported directories are loaded one after the other; one that fails
does not keep the later ones from being loaded. -/
def loadBatch (s : Store) (dirs : List TreePath) : Store :=
  (batchOrder dirs).foldl (fun s dir => (s.load dir).2) s

end Store

end ApiGateway
