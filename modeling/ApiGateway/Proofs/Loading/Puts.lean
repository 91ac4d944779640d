import ApiGateway.Proofs.Loading.Steps
import ApiGateway.Proofs.Records.Belonging
import ApiGateway.Proofs.Route.Stored
import Mathlib.Data.List.Basic
/-!
# Loading — the records of a snapshot, one after the other

What a load reads is stored record by record, in a fixed order
(`SnapshotFiles.records`), and `Store.putFiles` is that
(`putFiles_eq_foldl`). Products and subscriptions are announced when they
are stored, so others can come between two of these steps and find some
records stored and others not. The order is such that what an announced
record refers to comes before it (`pairwise_rank`).

Storing a record changes the collection of its kind, and for a catalog the
organizations (`Records.put_eq`). For one snapshot, it does not touch the
records of another (`only_put_of_ne`), and no route entry of any
(`routeEntries_put`). Events handled in the end bring route entries only
(`records_settle`).
-/

namespace ApiGateway

/-- A record in one of the files of a snapshot. -/
inductive FileRecord where
  | catalog (c : Catalog)
  | api (a : Api)
  | tlsProfile (o : OpaqueRecord)
  | registry (o : OpaqueRecord)
  | product (p : Product)
  | subscription (u : Subscription)

namespace FileRecord

/-- The event by which a record of a snapshot is announced, for those that
are. -/
def event? (s : SnapshotId) : FileRecord → Option IndexEvent
  | product p => some (.product s p.id)
  | subscription u => some (.subscription s u.id)
  | _ => none

/-- The place of the kinds in the order of storing. -/
def rank : FileRecord → Nat
  | catalog _ => 0
  | api _ => 1
  | tlsProfile _ => 2
  | registry _ => 3
  | product _ => 4
  | subscription _ => 5

/-! ### The record, if it is of one kind -/

def catalog? : FileRecord → Option Catalog
  | catalog c => some c
  | _ => none

def api? : FileRecord → Option Api
  | api a => some a
  | _ => none

def tlsProfile? : FileRecord → Option OpaqueRecord
  | tlsProfile o => some o
  | _ => none

def registry? : FileRecord → Option OpaqueRecord
  | registry o => some o
  | _ => none

def product? : FileRecord → Option Product
  | product p => some p
  | _ => none

def subscription? : FileRecord → Option Subscription
  | subscription u => some u
  | _ => none

end FileRecord

/-- The records of a snapshot in the order in which they are stored. -/
def SnapshotFiles.records (f : SnapshotFiles) : List FileRecord :=
  f.catalogs.map .catalog ++ f.apis.map .api ++ f.tlsProfiles.map .tlsProfile
    ++ f.registries.map .registry ++ f.products.map .product
    ++ f.subscriptions.map .subscription

/-- **The records of one kind**, found again among all. -/
theorem SnapshotFiles.filterMap_records (f : SnapshotFiles) :
    f.records.filterMap FileRecord.catalog? = f.catalogs ∧
      f.records.filterMap FileRecord.api? = f.apis ∧
      f.records.filterMap FileRecord.tlsProfile? = f.tlsProfiles ∧
      f.records.filterMap FileRecord.registry? = f.registries ∧
      f.records.filterMap FileRecord.product? = f.products ∧
      f.records.filterMap FileRecord.subscription? = f.subscriptions := by
  simp [records, List.filterMap_map, Function.comp_def, FileRecord.catalog?, FileRecord.api?,
    FileRecord.tlsProfile?, FileRecord.registry?, FileRecord.product?, FileRecord.subscription?]

/-- The records with one more. -/
def Records.put (r : Records) (s : SnapshotId) : FileRecord → Records
  | .catalog c => r.putCatalog s c
  | .api a => r.putApi s a
  | .tlsProfile o => r.putTlsProfile s o
  | .registry o => r.putRegistry s o
  | .product p => r.putProduct s p
  | .subscription u => r.putSubscription s u

/-- The events of the records of a snapshot. -/
def SnapshotFiles.events (f : SnapshotFiles) (s : SnapshotId) : List IndexEvent :=
  f.records.filterMap fun x => x.event? s

/-- The records with more of them, one after the other. -/
def Records.putAll (r : Records) (s : SnapshotId) (xs : List FileRecord) : Records :=
  xs.foldl (fun r x => r.put s x) r

/-- The store with one more record, which is announced if its kind is. -/
def Store.put (s : Store) (id : SnapshotId) (x : FileRecord) : Store :=
  match x.event? id with
  | some e => (s.withRecords fun r => r.put id x).announce e
  | none => s.withRecords fun r => r.put id x

/-! ## The order of storing -/

/-- **What a load stores, it stores record by record.** -/
theorem Store.putFiles_eq_foldl (s : Store) (id : SnapshotId) (f : SnapshotFiles) :
    s.putFiles id f = f.records.foldl (fun s x => s.put id x) s := by
  have hplain : ∀ {α : Type} (kind : α → FileRecord) (put : Records → α → Records),
      (∀ a, (kind a).event? id = none) → (∀ r a, r.put id (kind a) = put r a) →
      ∀ (xs : List α) (s : Store),
        (xs.map kind).foldl (fun s x => s.put id x) s = s.withRecords fun r => xs.foldl put r := by
    intro α kind put hevent hput xs
    induction xs with
    | nil => exact fun s => rfl
    | cons x xs ih =>
      intro s
      rw [List.map_cons, List.foldl_cons, ih, Store.put, hevent]
      simp only [Store.withRecords, hput, List.foldl_cons]
  simp only [SnapshotFiles.records, List.foldl_append]
  rw [hplain .catalog (fun r c => r.putCatalog id c) (fun _ => rfl) (fun _ _ => rfl),
    hplain .api (fun r a => r.putApi id a) (fun _ => rfl) (fun _ _ => rfl),
    hplain .tlsProfile (fun r o => r.putTlsProfile id o) (fun _ => rfl) (fun _ _ => rfl),
    hplain .registry (fun r o => r.putRegistry id o) (fun _ => rfl) (fun _ _ => rfl),
    List.foldl_map, List.foldl_map]
  rfl

/-- **Kinds are stored in their order**: catalogs and APIs before products,
and products before subscriptions. -/
theorem SnapshotFiles.pairwise_rank (f : SnapshotFiles) :
    f.records.Pairwise fun x y => x.rank ≤ y.rank := by
  have hkind : ∀ {α : Type} (kind : α → FileRecord) (n : Nat), (∀ a, (kind a).rank = n) →
      ∀ xs : List α, (xs.map kind).Pairwise (fun x y => x.rank ≤ y.rank) ∧
        ∀ x ∈ xs.map kind, x.rank = n := by
    intro α kind n hn xs
    have hall : ∀ x ∈ xs.map kind, x.rank = n := fun x hx => by
      obtain ⟨a, -, rfl⟩ := List.mem_map.1 hx
      exact hn a
    refine ⟨List.pairwise_of_forall_mem_list fun x hx y hy => ?_, hall⟩
    exact Nat.le_of_eq ((hall x hx).trans (hall y hy).symm)
  obtain ⟨h0, r0⟩ := hkind .catalog 0 (fun _ => rfl) f.catalogs
  obtain ⟨h1, r1⟩ := hkind .api 1 (fun _ => rfl) f.apis
  obtain ⟨h2, r2⟩ := hkind .tlsProfile 2 (fun _ => rfl) f.tlsProfiles
  obtain ⟨h3, r3⟩ := hkind .registry 3 (fun _ => rfl) f.registries
  obtain ⟨h4, r4⟩ := hkind .product 4 (fun _ => rfl) f.products
  obtain ⟨h5, r5⟩ := hkind .subscription 5 (fun _ => rfl) f.subscriptions
  simp only [records, List.pairwise_append, List.mem_append]
  refine ⟨⟨⟨⟨⟨h0, h1, ?_⟩, h2, ?_⟩, h3, ?_⟩, h4, ?_⟩, h5, ?_⟩ <;> intro x hx y hy <;> grind

/-- Where the products of a snapshot have different ids, and its
subscriptions, no event comes twice. -/
theorem SnapshotFiles.nodup_events (f : SnapshotFiles) (id : SnapshotId)
    (hproducts : (f.products.map Product.id).Nodup)
    (hsubscriptions : (f.subscriptions.map Subscription.id).Nodup) :
    (f.events id).Nodup := by
  have hevents : f.events id =
      (f.products.map Product.id).map (.product id)
        ++ (f.subscriptions.map Subscription.id).map (.subscription id) := by
    simp [events, records, FileRecord.event?, List.filterMap_map, Function.comp_def]
  rw [hevents, List.nodup_append]
  refine ⟨List.Pairwise.map _ (fun _ _ hne heq => hne (IndexEvent.product.inj heq).2) hproducts,
    List.Pairwise.map _ (fun _ _ hne heq => hne (IndexEvent.subscription.inj heq).2)
      hsubscriptions, ?_⟩
  intro e he e' he' heq
  obtain ⟨_, -, rfl⟩ := List.mem_map.1 he
  obtain ⟨_, -, rfl⟩ := List.mem_map.1 he'
  cases heq

/-! ## What storing a record changes -/

namespace Collection

variable {α : Type}

/-- The collection with a record, unless there is one with its id. -/
def putNew (c : Collection α) (s : SnapshotId) (id : String) (a : α) : Collection α :=
  if (c.get? s id).isSome then c else c.put s id a

theorem only_put_of_ne (c : Collection α) {s s' : SnapshotId} (h : s' ≠ s) (id : String) (a : α) :
    (c.put s id a).only s' = c.only s' := by
  have hne : ∀ {k : SnapshotId × String}, k.1 = s → ¬ k.1 = s' := fun hk he => h (he.symm.trans hk)
  rw [only, only, put]
  induction c with
  | nil => simp [OrderedMap.insert, Ne.symm h]
  | cons p c ih =>
    by_cases hp : p.1 = (s, id)
    · have hs : p.1.1 = s := congrArg Prod.fst hp
      simp [OrderedMap.insert, hp, Ne.symm h]
    · rw [OrderedMap.insert, if_neg hp, List.filter_cons, List.filter_cons, ih]

end Collection

namespace Records

variable {r : Records} {s s' : SnapshotId}

/-- A catalog is stored with its organization, if that is new. -/
theorem putCatalog_eq (r : Records) (s : SnapshotId) (c : Catalog) :
    r.putCatalog s c =
      { r with
        organizations := r.organizations.putNew s c.organization.id c.organization
        catalogs := r.catalogs.put s c.id c } := by
  rw [putCatalog, Collection.putNew]
  cases r.organizations.get? s c.organization.id <;> rfl

/-- **Everything that storing a record changes**: a collection of its kind,
and for a catalog the organizations. -/
theorem put_eq (r : Records) (s : SnapshotId) (x : FileRecord) :
    r.put s x =
      { organizations := (x.catalog?.map fun c =>
          r.organizations.putNew s c.organization.id c.organization).getD r.organizations
        catalogs := (x.catalog?.map fun c => r.catalogs.put s c.id c).getD r.catalogs
        products := (x.product?.map fun p => r.products.put s p.id p).getD r.products
        apis := (x.api?.map fun a => r.apis.put s a.id a).getD r.apis
        subscriptions := (x.subscription?.map fun u =>
          r.subscriptions.put s u.id u).getD r.subscriptions
        routeEntries := r.routeEntries
        tlsProfiles := (x.tlsProfile?.map fun o => r.tlsProfiles.put s o.id o).getD r.tlsProfiles
        registries := (x.registry?.map fun o => r.registries.put s o.id o).getD r.registries } := by
  cases x with
  | catalog c => exact putCatalog_eq r s c
  | _ => rfl

theorem apis_putCatalog (r : Records) (s : SnapshotId) (c : Catalog) :
    (r.putCatalog s c).apis = r.apis := by
  rw [putCatalog_eq]

/-- Storing a record leaves the route entries alone. -/
theorem routeEntries_put (r : Records) (s : SnapshotId) (x : FileRecord) :
    (r.put s x).routeEntries = r.routeEntries := by
  rw [put_eq]

theorem routeEntries_putAll (r : Records) (s : SnapshotId) (xs : List FileRecord) :
    (r.putAll s xs).routeEntries = r.routeEntries := by
  induction xs generalizing r with
  | nil => rfl
  | cons x xs ih => exact (ih (r.put s x)).trans (routeEntries_put r s x)

/-- Storing a record does not look at the route entries, so it may come
before them as well as after. -/
theorem put_putEntries (r : Records) (es : List RouteEntry) (s : SnapshotId) (x : FileRecord) :
    (Route.putEntries r es).put s x = Route.putEntries (r.put s x) es := by
  induction es generalizing r with
  | nil => rfl
  | cons e es ih =>
    have hone : (r.putRouteEntry e).put s x = (r.put s x).putRouteEntry e := by
      rw [put_eq, put_eq]
      rfl
    exact (ih (r.putRouteEntry e)).trans (congrArg (Route.putEntries · es) hone)

/-- **A collection is changed by the records of its kind**, one after the
other. -/
theorem field_putAll {α β : Type} (field : Records → Collection α) (pick : FileRecord → Option β)
    (change : Collection α → β → Collection α)
    (hput : ∀ r x, field (r.put s x) = ((pick x).map (change (field r))).getD (field r))
    (r : Records) (xs : List FileRecord) :
    field (r.putAll s xs) = (xs.filterMap pick).foldl change (field r) := by
  induction xs generalizing r with
  | nil => rfl
  | cons x xs ih =>
    have hrest : field (r.putAll s (x :: xs)) =
        (xs.filterMap pick).foldl change (field (r.put s x)) := ih (r.put s x)
    rw [hrest, hput, List.filterMap_cons]
    cases pick x <;> rfl

/-- **Storing a record for a snapshot leaves the others alone.** -/
theorem only_put_of_ne (r : Records) (h : s' ≠ s) (x : FileRecord) :
    (r.put s x).only s' = r.only s' := by
  cases x with
  | catalog c =>
    rw [put, putCatalog]
    split <;> simp only [only, putOrganization, Collection.only_put_of_ne _ h]
  | _ => simp only [put, only, putApi, putTlsProfile, putRegistry, putProduct, putSubscription,
      Collection.only_put_of_ne _ h]

/-- A route entry is stored in its own snapshot. -/
theorem only_putRouteEntry_of_ne (r : Records) {e : RouteEntry} (h : s' ≠ e.snapshotId) :
    (r.putRouteEntry e).only s' = r.only s' := by
  simp only [putRouteEntry, only, Collection.only_put_of_ne _ h]

end Records

namespace Store

variable {s : Store} {id : SnapshotId} {x : FileRecord}

/-- The events that storing records brings about: those of the records, if
anything is announced and somebody can take it. -/
def published (s : Store) (id : SnapshotId) (xs : List FileRecord) : List IndexEvent :=
  if s.announces && s.queue.isOpen then xs.filterMap fun x => x.event? id else []

/-- **Everything that storing a record does to the store.** -/
theorem put_eq (s : Store) (id : SnapshotId) (x : FileRecord) :
    s.put id x =
      { s with
        records := s.records.put id x
        queue := { s.queue with
          waiting := s.queue.waiting ++ s.published id [x]
          inFlight := s.queue.inFlight + (s.published id [x]).length } } := by
  obtain ⟨records, ⟨waiting, inFlight, isOpen⟩, announces, snapshots, files⟩ := s
  cases he : x.event? id with
  | none => simp [put, he, published, withRecords]
  | some e =>
    cases announces <;> cases isOpen <;>
      simp [put, he, published, withRecords, announce, IndexQueue.publish]

theorem published_nil (s : Store) (id : SnapshotId) : s.published id [] = [] := by
  rw [published, List.filterMap_nil, ite_self]

theorem published_put (s : Store) (id : SnapshotId) (x : FileRecord) (xs : List FileRecord) :
    (s.put id x).published id xs = s.published id xs := by
  rw [put_eq]
  rfl

theorem published_append (s : Store) (id : SnapshotId) (xs ys : List FileRecord) :
    s.published id (xs ++ ys) = s.published id xs ++ s.published id ys := by
  rw [published, published, published]
  split
  · exact List.filterMap_append
  · rfl

/-- What is published is the events of records. -/
theorem mem_of_mem_published {xs : List FileRecord} {e : IndexEvent}
    (h : e ∈ s.published id xs) : e ∈ xs.filterMap fun x => x.event? id := by
  rw [published] at h
  split at h
  · exact h
  · cases h

/-- The events of a snapshot's records are events of that snapshot. -/
theorem snapshot_of_mem_published {xs : List FileRecord} {e : IndexEvent}
    (h : e ∈ s.published id xs) : e.snapshot = id := by
  obtain ⟨x, -, hx⟩ := List.mem_filterMap.1 (mem_of_mem_published h)
  cases x <;> cases hx <;> rfl

/-- **What storing all records of a snapshot does to the store.** -/
theorem putFiles_spec (s : Store) (id : SnapshotId) (f : SnapshotFiles) :
    (s.putFiles id f).records = s.records.putAll id f.records ∧
      (s.putFiles id f).queue.waiting = s.queue.waiting ++ s.published id f.records := by
  rw [putFiles_eq_foldl]
  generalize f.records = xs
  induction xs generalizing s with
  | nil => exact ⟨rfl, by rw [published_nil, List.append_nil]; rfl⟩
  | cons x xs ih =>
    obtain ⟨hrecords, hwaiting⟩ := ih (s.put id x)
    rw [List.foldl_cons]
    refine ⟨?_, ?_⟩
    · rw [hrecords, put_eq]
      rfl
    · rw [hwaiting, published_put, put_eq, List.append_assoc,
        ← published_append, List.singleton_append]

/-! ## What handling events does to the records -/

/-- **Handling the events that wait stores what is built for them.** -/
theorem records_settle (s : Store) :
    s.settle.records = Route.putEntries s.records (Route.builtBy s.records s.queue.waiting) := by
  have hfold : ∀ (es : List IndexEvent) (s : Store), (es.foldl complete s).records =
      es.foldl (fun r e => (Route.handle r e).2) s.records := by
    intro es
    induction es with
    | nil => exact fun s => rfl
    | cons e es ih => exact fun s => ih (s.complete e)
  rw [settle, hfold, Route.foldl_handle]

/-- What is stored together and indexed afterwards. -/
theorem records_settle_putFiles (s : Store) (id : SnapshotId) (f : SnapshotFiles) :
    (s.settle.putFiles id f).settle.records =
      Route.putEntries (s.settle.records.putAll id f.records)
        (Route.builtBy (s.settle.records.putAll id f.records)
          (s.settle.published id f.records)) := by
  obtain ⟨hrecords, hwaiting⟩ := s.settle.putFiles_spec id f
  rw [records_settle, hrecords, hwaiting, waiting_settle, List.nil_append]

end Store

end ApiGateway
