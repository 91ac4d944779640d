import ApiGateway.Record.Opaque
import ApiGateway.Record.RouteEntry
import ApiGateway.Record.Subscription
import ApiGateway.Store.Collection
/-!
# Store — the records of all snapshots

The records of all snapshots, in one collection per kind. Route entries
are stored under their key. Storing a catalog also stores its
organization, unless the snapshot has one with that id. Everything that
belongs to a snapshot goes at once (`Records.purge`).
-/

namespace ApiGateway

/-- The records of all snapshots. -/
structure Records where
  organizations : Collection Organization
  catalogs : Collection Catalog
  products : Collection Product
  apis : Collection Api
  subscriptions : Collection Subscription
  routeEntries : Collection RouteEntry
  tlsProfiles : Collection OpaqueRecord
  registries : Collection OpaqueRecord

namespace Records

def empty : Records := ⟨[], [], [], [], [], [], [], []⟩

/-! ## Storing -/

def putOrganization (r : Records) (s : SnapshotId) (o : Organization) : Records :=
  { r with organizations := r.organizations.put s o.id o }

/-- A catalog is stored together with its organization, which does not
replace one that is there. -/
def putCatalog (r : Records) (s : SnapshotId) (c : Catalog) : Records :=
  let r' :=
    match r.organizations.get? s c.organization.id with
    | some _ => r
    | none => r.putOrganization s c.organization
  { r' with catalogs := r'.catalogs.put s c.id c }

def putProduct (r : Records) (s : SnapshotId) (p : Product) : Records :=
  { r with products := r.products.put s p.id p }

def putApi (r : Records) (s : SnapshotId) (a : Api) : Records :=
  { r with apis := r.apis.put s a.id a }

def putSubscription (r : Records) (s : SnapshotId) (u : Subscription) : Records :=
  { r with subscriptions := r.subscriptions.put s u.id u }

/-- A route entry is stored in its own snapshot under its key. -/
def putRouteEntry (r : Records) (e : RouteEntry) : Records :=
  { r with routeEntries := r.routeEntries.put e.snapshotId e.key e }

def putTlsProfile (r : Records) (s : SnapshotId) (o : OpaqueRecord) : Records :=
  { r with tlsProfiles := r.tlsProfiles.put s o.id o }

def putRegistry (r : Records) (s : SnapshotId) (o : OpaqueRecord) : Records :=
  { r with registries := r.registries.put s o.id o }

/-! ## Looking up -/

def organization? (r : Records) (s : SnapshotId) (id : String) : Option Organization :=
  r.organizations.get? s id

def catalog? (r : Records) (s : SnapshotId) (id : String) : Option Catalog := r.catalogs.get? s id

def product? (r : Records) (s : SnapshotId) (id : String) : Option Product := r.products.get? s id

def api? (r : Records) (s : SnapshotId) (id : String) : Option Api := r.apis.get? s id

def subscription? (r : Records) (s : SnapshotId) (id : String) : Option Subscription :=
  r.subscriptions.get? s id

/-- Whether an API bears a name and a version. -/
def bears (name version : String) (a : Api) : Bool :=
  a.document.info.name = name && a.document.info.version = version

/-- An API that bears a name and a version; `pick` says which one if
several do. -/
def findApi? (r : Records) (s : SnapshotId) (name version : String) (pick : Nat) : Option Api :=
  r.apis.find? s (bears name version) pick

/-- The route entries of a snapshot in the order of their keys. -/
def entriesOf (r : Records) (s : SnapshotId) : List RouteEntry :=
  r.routeEntries.filter s fun _ => true

/-- The route entries that a caller may use: those of the client id it
presents, or the default ones. -/
def visibleEntries (r : Records) (s : SnapshotId) (client : Option String) : List RouteEntry :=
  r.routeEntries.filter s fun e => e.clientId = client.getD defaultClientId

/-- How many records of any kind a snapshot has. -/
def count (r : Records) (s : SnapshotId) : Nat :=
  r.organizations.count s + r.catalogs.count s + r.products.count s + r.apis.count s
    + r.subscriptions.count s + r.routeEntries.count s + r.tlsProfiles.count s
    + r.registries.count s

/-! ## Deleting -/

/-- The records without those of a snapshot. -/
def purge (r : Records) (s : SnapshotId) : Records :=
  { organizations := r.organizations.purge s
    catalogs := r.catalogs.purge s
    products := r.products.purge s
    apis := r.apis.purge s
    subscriptions := r.subscriptions.purge s
    routeEntries := r.routeEntries.purge s
    tlsProfiles := r.tlsProfiles.purge s
    registries := r.registries.purge s }

/-- The collections by name, with how many records of a snapshot each
has. -/
def counts (r : Records) (s : SnapshotId) : List (String × Nat) :=
  [("organizations", r.organizations.count s), ("catalogs", r.catalogs.count s),
    ("products", r.products.count s), ("apis", r.apis.count s),
    ("subscriptions", r.subscriptions.count s), ("route-entries", r.routeEntries.count s),
    ("tls-profiles", r.tlsProfiles.count s), ("registries", r.registries.count s)]

end Records

end ApiGateway
