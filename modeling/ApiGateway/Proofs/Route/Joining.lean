import ApiGateway.Proofs.Route.Templates
/-!
# Routes — what an entry is joined from

Entries join records that a snapshot has: a product, the catalog that it
names (`Placed`), and APIs that stand for a name and a version, whatever
their ids (`Reconciled`). Each of these is there or is the reason why the
build fails: a product or a catalog is missing (`PlacingFails`), an API is
missing or its document breaks (`ApiFails`). What one product, one catalog
and one API have in all their entries is the same (`RouteEntry.Joins`),
whoever the entry is for.
-/

namespace ApiGateway

/-- An API bears a name and a version in its info. -/
def Api.Bears (a : Api) (name version : String) : Prop :=
  a.document.info.name = name ∧ a.document.info.version = version

theorem Api.bears_iff {a : Api} {name version : String} :
    Records.bears name version a = true ↔ a.Bears name version := by
  rw [Records.bears, Bool.and_eq_true, decide_eq_true_iff, decide_eq_true_iff, Bears]

/-- **What an entry has of its product, its catalog, the catalog's
organization and its API**, with the templates that are listed for it. -/
structure RouteEntry.Joins (s : SnapshotId) (product : Product) (catalog : Catalog) (api : Api)
    (listed : ApiDocument.Listing) (e : RouteEntry) : Prop where
  snapshotId : e.snapshotId = s
  productId : e.productId = product.id
  productName : e.productName = product.document.info.name
  catalogId : e.catalogId = catalog.id
  catalogName : e.catalogName = catalog.name
  organizationId : e.organizationId = catalog.organization.id
  organizationName : e.organizationName = catalog.organization.name
  apiId : e.apiId = api.id
  apiName : e.apiName = api.document.info.name
  apiVersion : e.apiVersion = api.document.info.version
  apiBasePath : e.apiBasePath = api.document.basePath
  corsEnabled : e.corsEnabled = api.document.corsEnabled
  apiPaths : List.Forall₂ (RoutePath.Stands api.document) listed e.apiPaths

namespace Route

open Outcome

variable {r : Records} {s : SnapshotId} {id name version : String} {api : Api} {err : BuildError}
  {access : Access}

/-! ## APIs -/

/-- **The API that a name and a version stand for**: the first one of the
snapshot that bears both. -/
structure Reconciled (r : Records) (s : SnapshotId) (name version : String) (api : Api) :
    Prop where
  bears : api.Bears name version
  first : ∃ before id after, r.apis = before ++ ((s, id), api) :: after ∧
    ∀ p ∈ before, p.1.1 = s → ¬ p.2.Bears name version

theorem findApi?_eq_some_iff :
    r.findApi? s name version 0 = some api ↔ Reconciled r s name version api := by
  unfold Records.findApi?
  simp only [Collection.find?_zero_eq_some_iff, ← Bool.not_eq_true, Api.bears_iff]
  exact ⟨fun ⟨before, id, after, hsplit, hbears, hbefore⟩ =>
      ⟨hbears, before, id, after, hsplit, hbefore⟩,
    fun ⟨hbears, before, id, after, hsplit, hbefore⟩ =>
      ⟨before, id, after, hsplit, hbears, hbefore⟩⟩

theorem findApi?_eq_none_iff : r.findApi? s name version 0 = none ↔
    ∀ id api, ((s, id), api) ∈ r.apis → ¬ api.Bears name version := by
  unfold Records.findApi?
  simp only [Collection.find?_eq_none_iff, ← Bool.not_eq_true, Api.bears_iff]

/-- **Why an API cannot be joined**: no API of the snapshot bears the name
and the version, or the document of the one that stands for them breaks. -/
inductive ApiFails (r : Records) (s : SnapshotId) (name version : String) : BuildError → Prop where
  | missing : (∀ id api, ((s, id), api) ∈ r.apis → ¬ api.Bears name version) →
      ApiFails r s name version (.apiNotFound name version)
  | malformed {api : Api} {template : String} : Reconciled r s name version api →
      api.document.BreaksAt template → ApiFails r s name version (.invalidPathItem template)

theorem apiWithPaths_eq_error_iff :
    apiWithPaths r s access name version = .error err ↔ ApiFails r s name version err := by
  rw [apiWithPaths, bind_eq_error, orError_eq_error, findApi?_eq_none_iff]
  constructor
  · rintro (⟨hnone, rfl⟩ | ⟨api, hapi, h⟩)
    · exact .missing hnone
    · rcases bind_eq_error.1 h with h | ⟨paths, -, h⟩
      · obtain ⟨template, hbreaks, rfl⟩ := routePaths_eq_error_iff.1 h
        exact .malformed (findApi?_eq_some_iff.1 (orError_eq_ok.1 hapi)) hbreaks
      · cases h
  · rintro (hnone | ⟨hapi, hbreaks⟩)
    · exact Or.inl ⟨hnone, rfl⟩
    · exact Or.inr ⟨_, orError_eq_ok.2 (findApi?_eq_some_iff.2 hapi),
        bind_eq_error.2 (Or.inl (routePaths_eq_error_iff.2 ⟨_, hbreaks, rfl⟩))⟩

/-! ## Products and catalogs -/

/-- A product that the snapshot has under an id, with the catalog that it
names. -/
structure Placed (r : Records) (s : SnapshotId) (id : String) (p : Product) (c : Catalog) :
    Prop where
  product : r.product? s id = some p
  catalog : r.catalog? s p.catalog.id = some c

theorem productAndCatalog_eq_ok_iff {product : Product} {catalog : Catalog} :
    productAndCatalog r s id = .ok (product, catalog) ↔ Placed r s id product catalog := by
  unfold productAndCatalog
  simp only [bind_eq_ok, orError_eq_ok, pure_eq_ok, Prod.mk.injEq]
  constructor
  · rintro ⟨_, hproduct, _, hcatalog, rfl, rfl⟩
    exact ⟨hproduct, hcatalog⟩
  · rintro ⟨hproduct, hcatalog⟩
    exact ⟨product, hproduct, catalog, hcatalog, rfl, rfl⟩

/-- **Why a product cannot be placed**: it is missing, or its catalog is. -/
inductive PlacingFails (r : Records) (s : SnapshotId) (id : String) : BuildError → Prop where
  | product : r.product? s id = none → PlacingFails r s id (.productNotFound id)
  | catalog {product : Product} : r.product? s id = some product →
      r.catalog? s product.catalog.id = none →
      PlacingFails r s id (.catalogNotFound product.catalog.id)

theorem productAndCatalog_eq_error_iff :
    productAndCatalog r s id = .error err ↔ PlacingFails r s id err := by
  unfold productAndCatalog
  simp only [bind_eq_error, orError_eq_error, orError_eq_ok]
  constructor
  · rintro (⟨hproduct, rfl⟩ | ⟨product, hproduct, ⟨hcatalog, rfl⟩ | ⟨_, _, h⟩⟩)
    · exact .product hproduct
    · exact .catalog hproduct hcatalog
    · cases h
  · rintro (hproduct | ⟨hproduct, hcatalog⟩)
    · exact Or.inl ⟨hproduct, rfl⟩
    · exact Or.inr ⟨_, hproduct, Or.inl ⟨hcatalog, rfl⟩⟩

/-! ## Entries -/

/-- **Every entry joins** what it is put together from. -/
theorem joins_entry (s : SnapshotId) (scope : PlanScope) (c : Credential) (api : Api)
    (listed : ApiDocument.Listing) :
    (entry s scope c api (listed.map (listedPath api.document))).Joins s scope.product
      scope.catalog api listed := by
  refine ⟨rfl, rfl, rfl, rfl, rfl, rfl, rfl, rfl, rfl, rfl, rfl, rfl, ?_⟩
  change List.Forall₂ (RoutePath.Stands api.document) listed (listed.map (listedPath api.document))
  rw [List.forall₂_map_right_iff]
  exact List.forall₂_same.2 fun l _ => stands_listedPath api.document l

/-! ## A snapshot to build from -/

/-- An API whose document lists one operation for everybody and one for
callers with a key. -/
def halfOpen : Api :=
  ⟨"a", { ApiDocument.blank with
    info := ⟨none, "1.0.0", "climbs"⟩
    paths := [("/peaks", .object [("get", .object []),
      ("post", .object [("security", .array [.object [("key", .array [])]])])])] }⟩

/-- The API as a product names it. -/
def climbs : String × ProductApi := ("k", ⟨"climbs:1.0.0"⟩)

/-- A snapshot with a catalog, the API, and a product whose plan allows all
that it names. -/
def offering (s : SnapshotId) (apis : List (String × ProductApi)) : Records :=
  .after [.catalog s ⟨"c", "sandbox", none, ⟨"o", "acme"⟩⟩, .api s halfOpen,
    .product s ⟨"p", ⟨"c", ""⟩,
      ⟨⟨"outdoors", "1.0.0", none⟩, [("gold", ⟨none, [], none⟩)], apis⟩⟩]

end Route

end ApiGateway
