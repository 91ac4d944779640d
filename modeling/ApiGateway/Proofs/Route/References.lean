import ApiGateway.Proofs.Route.Joining
import ApiGateway.Proofs.Route.Stored
import ApiGateway.Proofs.Snapshots.Misuse
/-!
# Routes — what an entry refers to is there

A route entry names its API, its product and its catalog by their ids, and
has the templates of its API with what was worked out from them for
matching. What is named is there (`Intact`), in every state of the records:
a build takes its pieces from the records (`exists_pieces_of_build`), a
record that is put replaces one under the same id and takes none away, and a
purge takes the entries of a snapshot together with what they name. The
templates of an entry are those of a path item, with the score and the
pattern that anybody would work out again (`compiled_of_routePaths`).

The records change with everything that is done to the store (`Store.Op`).
As far as the records go, this comes to a sequence of puts, indexed events
and purges (`exists_changes`), with a purge for every snapshot that an
installation deletes.
-/

namespace ApiGateway

/-- **A template as it is worked out** under a base path: a text with a slash,
its own score and routing pattern, and known methods in upper case. -/
structure RoutePath.Compiled (base : String) (p : RoutePath) : Prop where
  slash : '/' ∈ p.path.toList
  score : p.matchingScore = Template.matchingScore p.path.toList
  pattern : p.pathRegex =
    String.ofList (Pattern.written (Template.routingPattern base.toList p.path.toList))
  methods : ∀ m ∈ p.pathMethods, m.method ∈ httpMethods ∧ m.method.asciiUpper = m.method

namespace Route

open Outcome

variable {r : Records} {s : SnapshotId} {e : RouteEntry}

/-- **The templates of an entry are worked out from the document.** -/
theorem compiled_of_routePaths {access : Access} {d : ApiDocument} {paths : List RoutePath}
    (h : routePaths access d = .ok paths) {p : RoutePath} (hp : p ∈ paths) :
    p.Compiled d.basePath := by
  obtain ⟨methods, heq, -⟩ := eq_routePath_of_mem h hp
  have hscore := congrArg RoutePath.matchingScore heq
  have hpattern := congrArg RoutePath.pathRegex heq
  refine ⟨?_, hscore, hpattern, fun m hm => ?_⟩
  · obtain ⟨template, item, ms, hitem, -, hgranted⟩ := mem_routePaths h hp
    obtain ⟨ms', rfl, -⟩ := eq_routePath_of_granted hgranted
    -- other members of the document than those with a slash are no path items
    obtain ⟨q, hq, hqe⟩ := List.mem_map.1 hitem
    obtain ⟨rfl, -⟩ := Prod.mk.inj hqe
    exact List.contains_iff_mem.1 (List.mem_filter.1 hq).2
  · obtain ⟨⟨method, o, hd, rfl⟩, -⟩ := declares_of_routePaths h hp hm
    have hknown : method ∈ httpMethods := mem_httpMethods_of_declares hd
    exact ⟨hknown, asciiUpper_of_mem_httpMethods method hknown⟩

/-! ## What a build takes from the records -/

/-- An event is for all operations of an API, or for the unsecured ones. -/
def accessOf : IndexEvent → Access
  | .subscription _ _ => .full
  | .product _ _ => .unsecuredOnly

/-- **Every entry is put together from records of its snapshot**, and its
API is the one of that name and version. -/
theorem exists_pieces_of_build {event : IndexEvent} (he : e ∈ (build r event).entries) :
    ∃ scope credential api paths,
      e = entry event.snapshot scope credential api paths ∧
      (∃ id, ((event.snapshot, id), scope.product) ∈ r.products) ∧
      (∃ id, ((event.snapshot, id), scope.catalog) ∈ r.catalogs) ∧
      r.findApi? event.snapshot api.document.info.name api.document.info.version 0 = some api ∧
      routePaths (accessOf event) api.document = .ok paths := by
  have hpieces : ∀ {s : SnapshotId} {id : String} {pc : Product × Catalog},
      productAndCatalog r s id = .ok pc →
      (∃ id, ((s, id), pc.1) ∈ r.products) ∧ ∃ id, ((s, id), pc.2) ∈ r.catalogs := by
    intro s id pc hpc
    obtain ⟨hproduct, hcatalog⟩ := productAndCatalog_eq_ok_iff.1 hpc
    exact ⟨⟨_, Collection.mem_of_get? hproduct⟩, ⟨_, Collection.mem_of_get? hcatalog⟩⟩
  have hfound : ∀ {s : SnapshotId} {access : Access} {name version : String} {api : Api}
      {paths : List RoutePath}, apiWithPaths r s access name version = .ok (api, paths) →
      r.findApi? s api.document.info.name api.document.info.version 0 = some api ∧
        routePaths access api.document = .ok paths := by
    intro s access name version api paths ha
    obtain ⟨hapi, hpaths⟩ := apiWithPaths_eq_ok.1 ha
    obtain ⟨rfl, rfl⟩ := (findApi?_eq_some_iff.1 hapi).bears
    exact ⟨hapi, hpaths⟩
  cases event with
  | subscription s id =>
    obtain ⟨entries, hok, he⟩ := mem_buildSubscription he
    obtain ⟨u, product, catalog, -, hpc, -, hspec⟩ := subscriptionEntries_spec hok
    obtain ⟨c, -, ref, -, api, paths, ha, rfl⟩ := (hspec e).1 he
    obtain ⟨hproduct, hcatalog⟩ := hpieces hpc
    obtain ⟨hapi, hpaths⟩ := hfound ha
    exact ⟨_, c, api, paths, rfl, hproduct, hcatalog, hapi, hpaths⟩
  | product s id =>
    obtain ⟨⟨product, catalog⟩, hpc, o, -, hok⟩ := mem_buildProduct he
    obtain ⟨⟨api, paths⟩, ha, hok⟩ := bind_eq_ok.1 hok
    obtain ⟨hproduct, hcatalog⟩ := hpieces hpc
    obtain ⟨hapi, hpaths⟩ := hfound ha
    have hentry := pure_eq_ok.1 hok
    by_cases hnil : paths = []
    · simp [hnil] at hentry
    · rw [if_neg hnil, Option.some.injEq] at hentry
      exact ⟨_, defaultCredential, api, paths, hentry.symm, hproduct, hcatalog, hapi, hpaths⟩

/-- **The templates of what is built are worked out.** -/
theorem compiled_of_build {event : IndexEvent} (he : e ∈ (build r event).entries)
    {p : RoutePath} (hp : p ∈ e.apiPaths) : p.Compiled e.apiBasePath := by
  obtain ⟨scope, c, api, paths, rfl, -, -, -, hpaths⟩ := exists_pieces_of_build he
  exact compiled_of_routePaths hpaths hp

/-! ## Records that are there -/

/-- What a snapshot has under the ids that an entry names. -/
structure Refers (r : Records) (s : SnapshotId) (e : RouteEntry) : Prop where
  api : (r.apis.get? s e.apiId).isSome = true
  product : (r.products.get? s e.productId).isSome = true
  catalog : (r.catalogs.get? s e.catalogId).isSome = true

/-- **Intact records**: APIs, products and catalogs stand under their own
ids, and every entry names such as are there and has its templates as they
are worked out. -/
structure Intact (r : Records) : Prop where
  apis : r.apis.All fun _ id a => a.id = id
  products : r.products.All fun _ id p => p.id = id
  catalogs : r.catalogs.All fun _ id c => c.id = id
  entries : r.routeEntries.All fun s _ e =>
    Refers r s e ∧ ∀ p ∈ e.apiPaths, p.Compiled e.apiBasePath

theorem intact_empty : Intact .empty :=
  ⟨Collection.all_nil, Collection.all_nil, Collection.all_nil, Collection.all_nil⟩

/-- A record under its own id is found under it. -/
theorem isSome_get?_of_own {α : Type} {c : Collection α} {own : α → String}
    (hc : c.All fun _ id a => own a = id) {id : String} {a : α} (h : ((s, id), a) ∈ c) :
    (c.get? s (own a)).isSome = true := by
  rw [hc s id a h]
  exact OrderedMap.isSome_get?_of_mem h

/-- **What a build gives names what is there.** -/
theorem Intact.build (h : Intact r) {event : IndexEvent} (he : e ∈ (build r event).entries) :
    e.snapshotId = event.snapshot ∧ Refers r event.snapshot e ∧
      ∀ p ∈ e.apiPaths, p.Compiled e.apiBasePath := by
  have hcompiled : ∀ p ∈ e.apiPaths, p.Compiled e.apiBasePath := fun p hp =>
    compiled_of_build he hp
  obtain ⟨scope, c, api, paths, rfl, ⟨_, hproduct⟩, ⟨_, hcatalog⟩, hfound, -⟩ :=
    exists_pieces_of_build he
  obtain ⟨_, hapi, -⟩ := Collection.mem_of_find? hfound
  exact ⟨rfl, ⟨isSome_get?_of_own h.apis hapi, isSome_get?_of_own h.products hproduct,
    isSome_get?_of_own h.catalogs hcatalog⟩, hcompiled⟩

/-! ## Changes keep the records intact -/

/-- A record that is put takes nothing away that an entry names. -/
theorem Refers.putApi (h : Refers r s e) (s' : SnapshotId) (a : Api) :
    Refers (r.putApi s' a) s e :=
  ⟨Collection.isSome_get?_put s' a.id a h.api, h.product, h.catalog⟩

theorem Refers.putProduct (h : Refers r s e) (s' : SnapshotId) (p : Product) :
    Refers (r.putProduct s' p) s e :=
  ⟨h.api, Collection.isSome_get?_put s' p.id p h.product, h.catalog⟩

/-- **A purge takes nothing away that an entry of another snapshot names.** -/
theorem Refers.purge (h : Refers r s e) {s' : SnapshotId} (hne : s ≠ s') :
    Refers (r.purge s') s e := by
  refine ⟨?_, ?_, ?_⟩
  · exact (Collection.get?_purge r.apis s' s e.apiId).trans (if_neg hne) ▸ h.api
  · exact (Collection.get?_purge r.products s' s e.productId).trans (if_neg hne) ▸ h.product
  · exact (Collection.get?_purge r.catalogs s' s e.catalogId).trans (if_neg hne) ▸ h.catalog

theorem Intact.putRouteEntry (h : Intact r) (hrefers : Refers r e.snapshotId e)
    (hpaths : ∀ p ∈ e.apiPaths, p.Compiled e.apiBasePath) : Intact (r.putRouteEntry e) := by
  have hsame : ∀ {s : SnapshotId} {e' : RouteEntry}, Refers r s e' →
      Refers (r.putRouteEntry e) s e' := fun h => ⟨h.api, h.product, h.catalog⟩
  have hentries : (r.routeEntries.put e.snapshotId e.key e).All fun s _ e' =>
      Refers r s e' ∧ ∀ p ∈ e'.apiPaths, p.Compiled e'.apiBasePath :=
    h.entries.put ⟨hrefers, hpaths⟩
  exact ⟨h.apis, h.products, h.catalogs,
    fun s key e' hm => (hentries s key e' hm).imp_left hsame⟩

/-- Entries that name what is there may be stored one after the other. -/
theorem Intact.putEntries (h : Intact r) {entries : List RouteEntry}
    (he : ∀ e ∈ entries, Refers r e.snapshotId e ∧ ∀ p ∈ e.apiPaths, p.Compiled e.apiBasePath) :
    Intact (putEntries r entries) := by
  induction entries generalizing r with
  | nil => exact h
  | cons e entries ih =>
    obtain ⟨hrefers, hpaths⟩ := he e List.mem_cons_self
    refine ih (h.putRouteEntry hrefers hpaths) fun e' he' => ?_
    obtain ⟨hrefers', hpaths'⟩ := he e' (List.mem_cons_of_mem _ he')
    exact ⟨⟨hrefers'.api, hrefers'.product, hrefers'.catalog⟩, hpaths'⟩

theorem Intact.putCatalog (h : Intact r) (s : SnapshotId) (c : Catalog) :
    Intact (r.putCatalog s c) := by
  obtain ⟨r', hr, hput⟩ := putCatalog_cases r s c
  have hr' : Intact r' := by
    rcases hr with rfl | rfl
    · exact h
    · exact { h with entries := fun s key e hm =>
        (h.entries s key e hm).imp_left fun h => ⟨h.api, h.product, h.catalog⟩ }
  rw [hput]
  refine ⟨hr'.apis, hr'.products, hr'.catalogs.put rfl, fun s' key e hm => ?_⟩
  obtain ⟨hrefers, hpaths⟩ := hr'.entries s' key e hm
  exact ⟨⟨hrefers.api, hrefers.product, Collection.isSome_get?_put s c.id c hrefers.catalog⟩,
    hpaths⟩

/-- The entries that are left after a purge are those of other snapshots. -/
theorem ne_of_mem_purge {c : Collection RouteEntry} {key : String} {s' : SnapshotId}
    (h : ((s, key), e) ∈ c.purge s') : ((s, key), e) ∈ c ∧ s ≠ s' := by
  obtain ⟨hmem, hne⟩ := List.mem_filter.1 h
  exact ⟨hmem, of_decide_eq_true hne⟩

/-- **One change** keeps the records intact. -/
theorem Intact.apply (h : Intact r) (change : Records.Change) : Intact (r.apply change) := by
  cases change with
  | organization s o =>
    exact { h with entries := fun s key e hm =>
      (h.entries s key e hm).imp_left fun h => ⟨h.api, h.product, h.catalog⟩ }
  | catalog s c => exact h.putCatalog s c
  | api s a =>
    exact ⟨h.apis.put rfl, h.products, h.catalogs,
      fun s' key e hm => (h.entries s' key e hm).imp_left fun h => h.putApi s a⟩
  | product s p =>
    exact ⟨h.apis, h.products.put rfl, h.catalogs,
      fun s' key e hm => (h.entries s' key e hm).imp_left fun h => h.putProduct s p⟩
  | subscription s u =>
    exact { h with entries := fun s key e hm =>
      (h.entries s key e hm).imp_left fun h => ⟨h.api, h.product, h.catalog⟩ }
  | indexed event =>
    refine h.putEntries fun e he => ?_
    obtain ⟨hsnapshot, hrefers, hpaths⟩ := h.build he
    exact ⟨hsnapshot ▸ hrefers, hpaths⟩
  | purged s =>
    refine ⟨h.apis.purge s, h.products.purge s, h.catalogs.purge s, fun s' key e hm => ?_⟩
    obtain ⟨hmem, hne⟩ := ne_of_mem_purge hm
    exact (h.entries s' key e hmem).imp_left fun h => h.purge hne

/-- **Every sequence of changes** keeps the records intact. -/
theorem intact_after (cs : List Records.Change) : Intact (.after cs) := by
  have hall : ∀ (cs : List Records.Change) (r : Records), Intact r →
      Intact (cs.foldl Records.apply r) := by
    intro cs
    induction cs with
    | nil => exact fun _ h => h
    | cons c cs ih => exact fun r h => ih _ (h.apply c)
  exact hall cs .empty intact_empty

end Route

/-! ## Everything that is done to the store -/

namespace Store

/-- What can be done to a store. -/
inductive Op where
  | organization (s : SnapshotId) (o : Organization)
  | catalog (s : SnapshotId) (c : Catalog)
  | api (s : SnapshotId) (a : Api)
  | product (s : SnapshotId) (p : Product)
  | subscription (s : SnapshotId) (u : Subscription)
  /-- An event is handled, whether or not it was ever announced. -/
  | handled (e : IndexEvent)
  | turn (t : Turn)

/-- The store after something is done to it. -/
def op (s : Store) : Op → Store
  | .organization id o => s.withRecords fun r => r.putOrganization id o
  | .catalog id c => s.withRecords fun r => r.putCatalog id c
  | .api id a => s.withRecords fun r => r.putApi id a
  | .product id p => s.putProduct id p
  | .subscription id u => s.putSubscription id u
  | .handled e => s.withRecords fun r => (Route.handle r e).2
  | .turn t => s.turn t

/-- The store after one thing after the other is done to it. -/
def ops (s : Store) (os : List Op) : Store := os.foldl op s

/-- The store without any records. -/
def withoutRecords (s : Store) : Store := { s with records := .empty }

variable {s : Store}

theorem records_announce (s : Store) (e : IndexEvent) : (s.announce e).records = s.records := by
  unfold announce
  split <;> rfl

/-- Giving a reference back changes the records by a purge, if at all. -/
theorem records_release_cases (s : Store) (id : SnapshotId) :
    ∃ cs : List Records.Change, (s.release id).2.records = cs.foldl Records.apply s.records := by
  rw [records_release]
  split
  · exact ⟨[.purged id], rfl⟩
  · exact ⟨[], rfl⟩

/-- **What is done to the store changes the records by puts, indexed events
and purges.** -/
theorem records_op (s : Store) (o : Op) :
    ∃ cs : List Records.Change, (s.op o).records = cs.foldl Records.apply s.records := by
  cases o with
  | organization id o => exact ⟨[.organization id o], rfl⟩
  | catalog id c => exact ⟨[.catalog id c], rfl⟩
  | api id a => exact ⟨[.api id a], rfl⟩
  | product id p => exact ⟨[.product id p], records_announce _ _⟩
  | subscription id u => exact ⟨[.subscription id u], records_announce _ _⟩
  | handled e => exact ⟨[.indexed e], rfl⟩
  | turn t =>
    have hturn : s.op (.turn t) = s.turn t := rfl
    rw [hturn]
    rcases s.turn_cases t with ⟨id, -, ht⟩ | ht | ⟨row, t', -, ht⟩ | ⟨id, -, ht⟩
    · -- a purge for each of those that are given back for the last time
      have hinstall : ∃ cs : List Records.Change,
          (s.install id).2.records = cs.foldl Records.apply s.records := by
        refine install_of_step
          (P := fun s' => ∃ cs : List Records.Change,
            s'.records = cs.foldl Records.apply s.records) s id ⟨[], rfl⟩ ?_
        rintro s' x - ⟨cs, hcs⟩
        obtain ⟨cs', hcs'⟩ := s'.records_release_cases x
        exact ⟨cs ++ cs', by rw [hcs', hcs, List.foldl_append]⟩
      exact ht ▸ hinstall
    · exact ⟨[], by rw [ht]; rfl⟩
    · exact ⟨[], by rw [ht]; rfl⟩
    · exact ht ▸ s.records_release_cases id

/-- **The records of every store that can be reached** are those after some
puts, indexed events and purges. -/
theorem exists_changes (s : Store) (os : List Op) :
    ∃ cs, (s.withoutRecords.ops os).records = .after cs := by
  have hall : ∀ (os : List Op) (s : Store),
      ∃ cs : List Records.Change, (s.ops os).records = cs.foldl Records.apply s.records := by
    intro os
    induction os with
    | nil => exact fun s => ⟨[], rfl⟩
    | cons o os ih =>
      intro s
      obtain ⟨cs, hcs⟩ := s.records_op o
      obtain ⟨cs', hcs'⟩ := ih (s.op o)
      exact ⟨cs ++ cs', by rw [List.foldl_append, ← hcs, ← hcs']; rfl⟩
  exact hall os s.withoutRecords

/-- **Every stored entry is where it belongs, what it names is there, and its
templates can be worked out again.** Whatever is put, overwritten, indexed
(with or without success, and as often as one likes), installed, acquired
and given back, and in whatever order: an entry stands under its own snapshot
and key, the snapshot has the API, the product and the catalog that the
entry names, each under its own id, and the templates have the scores,
patterns and methods that their texts give them. -/
theorem references_intact (s : Store) (os : List Op) (id : SnapshotId) (key : String)
    (e : RouteEntry) (he : ((id, key), e) ∈ (s.withoutRecords.ops os).records.routeEntries) :
    let r := (s.withoutRecords.ops os).records
    (e.key = key ∧ e.snapshotId = id) ∧
    (∃ a, r.api? id e.apiId = some a ∧ a.id = e.apiId) ∧
    (∃ p, r.product? id e.productId = some p ∧ p.id = e.productId) ∧
    (∃ c, r.catalog? id e.catalogId = some c ∧ c.id = e.catalogId) ∧
    ∀ p ∈ e.apiPaths, p.Compiled e.apiBasePath := by
  intro r
  obtain ⟨cs, hcs⟩ := s.exists_changes os
  have hintact : Route.Intact r := (show r = .after cs from hcs) ▸ Route.intact_after cs
  have hkeyed : Route.Keyed r.routeEntries :=
    (show r = .after cs from hcs) ▸ Route.keyed_after cs
  obtain ⟨hsnapshot, hkey⟩ := hkeyed.own id key e he
  obtain ⟨hrefers, hpaths⟩ := hintact.entries id key e he
  obtain ⟨a, ha⟩ := Option.isSome_iff_exists.1 hrefers.api
  obtain ⟨p, hp⟩ := Option.isSome_iff_exists.1 hrefers.product
  obtain ⟨c, hc⟩ := Option.isSome_iff_exists.1 hrefers.catalog
  exact ⟨⟨hkey, hsnapshot⟩, ⟨a, ha, hintact.apis.get? ha⟩, ⟨p, hp, hintact.products.get? hp⟩,
    ⟨c, hc, hintact.catalogs.get? hc⟩, hpaths⟩

/-- A subscription that is indexed, an API that is put again as another
document after that, an event of a snapshot that has no such product, and
another snapshot that comes and goes. -/
def overwrittenCase (one two : SnapshotId) : List Op :=
  let document : ApiDocument :=
    { ApiDocument.blank with
      info := ⟨none, "1.0.0", "climbs"⟩
      basePath := "/v1"
      paths := [("/peaks/\x7bpeak\x7d", .object [("get", .object [])])] }
  [.catalog one ⟨"c", "sandbox", none, ⟨"o", "acme"⟩⟩, .api one ⟨"a", document⟩,
    .product one ⟨"p", ⟨"c", ""⟩, .blank⟩,
    .subscription one ⟨"u", ⟨"app", none, [⟨"k", none⟩]⟩,
      ⟨"r", ⟨"g", "gold", none⟩, ⟨"p"⟩, [⟨none, ⟨⟨none, "1.0.0", "climbs"⟩⟩⟩]⟩⟩,
    .handled (.subscription one "u"),
    .api one ⟨"a", { document with basePath := "/v2" }⟩, .api two ⟨"a", document⟩,
    .handled (.product two "p"), .turn (.install two), .turn (.release two)]

/-- The entry of the subscription still names the API, and has the template
as it was worked out under the base path that it has itself. -/
theorem references_of_overwritten :
    let one : SnapshotId := ⟨1, by decide⟩
    let r := (Store.empty.withoutRecords.ops (overwrittenCase one ⟨2, by decide⟩)).records
    ∃ e, ((one, "u|k|a"), e) ∈ r.routeEntries ∧ e.key = "u|k|a" ∧ e.apiPaths ≠ [] ∧
      (∃ a, r.api? one e.apiId = some a ∧ a.id = e.apiId) ∧
      ∀ p ∈ e.apiPaths, p.Compiled e.apiBasePath := by
  intro one r
  have hstored : (r.routeEntries.get? one "u|k|a").any (fun e => !e.apiPaths.isEmpty) = true := by
    decide +kernel
  obtain ⟨e, he, hpaths⟩ := (Option.any_eq_true _ _).1 hstored
  have hmem : ((one, "u|k|a"), e) ∈ r.routeEntries := Collection.mem_of_get? he
  obtain ⟨⟨hkey, -⟩, hapi, -, -, hcompiled⟩ :=
    references_intact Store.empty (overwrittenCase one ⟨2, by decide⟩) one "u|k|a" e hmem
  exact ⟨e, hmem, hkey, by simpa using hpaths, hapi, hcompiled⟩

end Store

end ApiGateway
