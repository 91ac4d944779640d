import ApiGateway.Proofs.Loading.Puts
import ApiGateway.Proofs.Records.Listing
/-!
# Loading — what files bring into a snapshot

All records of a snapshot but the route entries come from its files, and
each goes to the records of its own snapshot (`only_put_self`). What a
collection then holds is said by the records in the order in which they
take precedence (`Collection.Holds`). Of records with one id the last one
stays (`holds_foldl_put`). An organization comes with a catalog and does
not replace another one, so there the first one stays
(`holds_foldl_putNew`).

A snapshot without any records that gets those of its files holds these,
kind by kind (`Records.holds_putAll`).
-/

namespace ApiGateway

/-! ## One kind of record -/

namespace Collection

variable {α : Type} {c c' : Collection α} {s : SnapshotId} {idOf : α → String} {xs : List α}

theorem only_put_self (c : Collection α) (s : SnapshotId) (id : String) (a : α) :
    (c.put s id a).only s = (c.only s).put s id a := by
  rw [only, only, put, put]
  induction c with
  | nil => simp [OrderedMap.insert]
  | cons p c ih =>
    by_cases hp : p.1 = (s, id)
    · have hs : p.1.1 = s := congrArg Prod.fst hp
      simp [OrderedMap.insert, hp]
    · by_cases hs : p.1.1 = s
      · simp [OrderedMap.insert, hp, hs, ih]
      · simp [OrderedMap.insert, hp, hs, ih]

theorem get?_put (c : Collection α) (s : SnapshotId) (id id' : String) (a : α) :
    (c.put s id a).get? s id' = if id' = id then some a else c.get? s id' := by
  rw [get?, put, OrderedMap.get?_insert, get?]
  exact if_congr ⟨fun h => congrArg Prod.snd h, fun h => congrArg (Prod.mk s) h⟩ rfl rfl

theorem get?_putNew (c : Collection α) (s : SnapshotId) (id id' : String) (a : α) :
    (c.putNew s id a).get? s id' = (c.get? s id').or (if id' = id then some a else none) := by
  rw [putNew]
  by_cases hsome : (c.get? s id).isSome = true
  · rw [if_pos hsome]
    by_cases hid : id' = id
    · obtain ⟨x, hx⟩ := Option.isSome_iff_exists.1 hsome
      rw [hid, hx, Option.some_or]
    · rw [if_neg hid, Option.or_none]
  · rw [if_neg hsome, get?_put]
    by_cases hid : id' = id
    · have hnone : c.get? s id = none := Option.not_isSome_iff_eq_none.1 hsome
      rw [hid, if_pos rfl, if_pos rfl, hnone, Option.none_or]
    · rw [if_neg hid, if_neg hid, Option.or_none]

/-- **What a collection holds for a snapshot**: under each id the first of
these records that has it, and nothing under one that none has. -/
structure Holds (c : Collection α) (s : SnapshotId) (idOf : α → String) (xs : List α) : Prop where
  get?_eq : ∀ id, c.get? s id = xs.find? fun x => idOf x = id
  nodup : ((c.ofSnapshot s).map (·.1)).Nodup

theorem Holds.congr (h : c.Holds s idOf xs) (heq : c'.only s = c.only s) :
    c'.Holds s idOf xs := by
  constructor
  · intro id
    rw [← get?_only, heq, get?_only]
    exact h.get?_eq id
  · rw [← ofSnapshot_only, heq, ofSnapshot_only]
    exact h.nodup

/-- Changes that keep keys distinct do so one after the other. -/
theorem nodup_keys_foldl {change : Collection α → α → Collection α}
    (h : ∀ c x, (OrderedMap.keys c).Nodup → (OrderedMap.keys (change c x)).Nodup) (xs : List α)
    (c : Collection α) (hc : (OrderedMap.keys c).Nodup) :
    (OrderedMap.keys (xs.foldl change c)).Nodup := by
  induction xs generalizing c with
  | nil => exact hc
  | cons x xs ih => exact ih (change c x) (h c x hc)

/-- **Of records that are stored one after the other the last one under an
id stays.** -/
theorem holds_foldl_put (s : SnapshotId) (idOf : α → String) (xs : List α) :
    Holds (xs.foldl (fun (c : Collection α) x => c.put s (idOf x) x) []) s idOf xs.reverse := by
  have hget : ∀ (xs : List α) (c : Collection α) (id : String),
      (xs.foldl (fun c x => c.put s (idOf x) x) c).get? s id =
        (xs.reverse.find? fun x => idOf x = id).or (c.get? s id) := by
    intro xs
    induction xs with
    | nil => exact fun c id => rfl
    | cons x xs ih =>
      intro c id
      rw [List.foldl_cons, ih, get?_put, List.reverse_cons, List.find?_append, Option.or_assoc,
        List.find?_singleton]
      by_cases hid : id = idOf x
      · rw [if_pos hid, decide_eq_true hid.symm, if_pos rfl, Option.some_or]
      · rw [if_neg hid, decide_eq_false (Ne.symm hid)]
        rfl
  have hkeys : ∀ (c : Collection α) (x : α), (OrderedMap.keys c).Nodup →
      (OrderedMap.keys (c.put s (idOf x) x)).Nodup := fun _ _ h => OrderedMap.nodup_keys_insert h
  refine ⟨fun id => ?_, nodup_ofSnapshot (nodup_keys_foldl hkeys xs [] List.nodup_nil) s⟩
  rw [hget]
  exact Option.or_none

/-- **Of records that do not replace others the first one under an id
stays.** -/
theorem holds_foldl_putNew (s : SnapshotId) (idOf : α → String) (xs : List α) :
    Holds (xs.foldl (fun (c : Collection α) x => c.putNew s (idOf x) x) []) s idOf xs := by
  have hget : ∀ (xs : List α) (c : Collection α) (id : String),
      (xs.foldl (fun c x => c.putNew s (idOf x) x) c).get? s id =
        (c.get? s id).or (xs.find? fun x => idOf x = id) := by
    intro xs
    induction xs with
    | nil => exact fun c id => Option.or_none.symm
    | cons x xs ih =>
      intro c id
      rw [List.foldl_cons, ih, get?_putNew, Option.or_assoc, List.find?_cons]
      by_cases hid : id = idOf x
      · rw [if_pos hid, decide_eq_true hid.symm, Option.some_or]
      · rw [if_neg hid, decide_eq_false (Ne.symm hid), Option.none_or]
  have hkeys : ∀ (c : Collection α) (x : α), (OrderedMap.keys c).Nodup →
      (OrderedMap.keys (c.putNew s (idOf x) x)).Nodup := by
    intro c x h
    rw [putNew]
    split
    · exact h
    · exact OrderedMap.nodup_keys_insert h
  refine ⟨fun id => ?_, nodup_ofSnapshot (nodup_keys_foldl hkeys xs [] List.nodup_nil) s⟩
  rw [hget]
  rfl

end Collection

/-! ## All kinds of records -/

namespace Records

variable {r r' : Records} {s : SnapshotId} {f : SnapshotFiles}

/-- The records without the route entries, which are built from the
others. -/
def filed (r : Records) : Records := { r with routeEntries := [] }

theorem filed_put (r : Records) (s : SnapshotId) (x : FileRecord) :
    (r.put s x).filed = r.filed.put s x := by
  rw [put_eq, put_eq]
  rfl

/-- Route entries that are stored are not from files. -/
theorem filed_putEntries (r : Records) (es : List RouteEntry) :
    (Route.putEntries r es).filed = r.filed := by
  induction es generalizing r with
  | nil => rfl
  | cons e es ih => exact ih (r.putRouteEntry e)

/-- **A record goes to the records of its snapshot.** -/
theorem only_put_self (r : Records) (s : SnapshotId) (x : FileRecord) :
    (r.put s x).only s = (r.only s).put s x := by
  cases x with
  | catalog c =>
    change (r.putCatalog s c).only s = (r.only s).putCatalog s c
    have horganization : (r.only s).organizations.get? s c.organization.id =
        r.organizations.get? s c.organization.id := Collection.get?_only _ _ _
    rw [putCatalog, putCatalog, horganization]
    split <;> simp only [only, putOrganization, Collection.only_put_self]
  | _ => simp only [put, only, putApi, putTlsProfile, putRegistry, putProduct, putSubscription,
      Collection.only_put_self]

theorem filed_only_put (r : Records) (s : SnapshotId) (x : FileRecord) :
    ((r.put s x).only s).filed = ((r.only s).filed).put s x := by
  rw [only_put_self, filed_put]

/-- **So do all records of files.** -/
theorem filed_only_putAll (r : Records) (s : SnapshotId) (xs : List FileRecord) :
    ((r.putAll s xs).only s).filed = ((r.only s).filed).putAll s xs := by
  induction xs generalizing r with
  | nil => rfl
  | cons x xs ih => exact (ih (r.put s x)).trans (by rw [filed_only_put]; rfl)

/-- Storing the records of a snapshot leaves the others alone. -/
theorem only_putAll_of_ne {x : SnapshotId} (h : x ≠ s) (r : Records) (xs : List FileRecord) :
    (r.putAll s xs).only x = r.only x := by
  induction xs generalizing r with
  | nil => rfl
  | cons y xs ih => exact (ih (r.put s y)).trans (only_put_of_ne r h y)

/-- **What a snapshot holds is what its files say**: of each kind the last
record under an id, and of the organizations in its catalogs the first
one. -/
structure Holds (r : Records) (s : SnapshotId) (f : SnapshotFiles) : Prop where
  organizations : r.organizations.Holds s Organization.id (f.catalogs.map Catalog.organization)
  catalogs : r.catalogs.Holds s Catalog.id f.catalogs.reverse
  products : r.products.Holds s Product.id f.products.reverse
  apis : r.apis.Holds s Api.id f.apis.reverse
  subscriptions : r.subscriptions.Holds s Subscription.id f.subscriptions.reverse
  tlsProfiles : r.tlsProfiles.Holds s OpaqueRecord.id f.tlsProfiles.reverse
  registries : r.registries.Holds s OpaqueRecord.id f.registries.reverse

/-- What is held is told by the records from files. -/
theorem Holds.congr (h : r.Holds s f) (heq : (r'.only s).filed = (r.only s).filed) :
    r'.Holds s f where
  organizations := h.organizations.congr (congrArg Records.organizations heq)
  catalogs := h.catalogs.congr (congrArg Records.catalogs heq)
  products := h.products.congr (congrArg Records.products heq)
  apis := h.apis.congr (congrArg Records.apis heq)
  subscriptions := h.subscriptions.congr (congrArg Records.subscriptions heq)
  tlsProfiles := h.tlsProfiles.congr (congrArg Records.tlsProfiles heq)
  registries := h.registries.congr (congrArg Records.registries heq)

/-- **One kind of the records of files**, in a collection that was empty. -/
theorem holds_field {α : Type} {idOf : α → String} {xs : List α} (field : Records → Collection α)
    (pick : FileRecord → Option α) (hempty : field empty = [])
    (hput : ∀ r x, field (r.put s x) =
      ((pick x).map fun a => (field r).put s (idOf a) a).getD (field r))
    (hpick : f.records.filterMap pick = xs) :
    (field (empty.putAll s f.records)).Holds s idOf xs.reverse := by
  rw [field_putAll field pick (fun c a => c.put s (idOf a) a) hput, hpick, hempty]
  exact Collection.holds_foldl_put s idOf xs

/-- The organizations in the catalogs of files. -/
theorem holds_organizations (s : SnapshotId) (f : SnapshotFiles) :
    (empty.putAll s f.records).organizations.Holds s Organization.id
      (f.catalogs.map Catalog.organization) := by
  obtain ⟨hpick, -⟩ := f.filterMap_records
  have hheld := Collection.holds_foldl_putNew s Organization.id (f.catalogs.map Catalog.organization)
  rw [List.foldl_map, ← hpick] at hheld
  rw [field_putAll organizations FileRecord.catalog?
    (fun os c => os.putNew s c.organization.id c.organization)
    (fun r x => congrArg organizations (put_eq r s x))]
  rwa [← hpick]

/-- **A snapshot that gets the records of its files holds them.** -/
theorem holds_putAll (s : SnapshotId) (f : SnapshotFiles) :
    (empty.putAll s f.records).Holds s f := by
  obtain ⟨hcatalogs, hapis, htlsProfiles, hregistries, hproducts, hsubscriptions⟩ :=
    f.filterMap_records
  constructor
  case organizations => exact holds_organizations s f
  case catalogs =>
    exact holds_field catalogs _ rfl (fun r x => congrArg catalogs (put_eq r s x)) hcatalogs
  case products =>
    exact holds_field products _ rfl (fun r x => congrArg products (put_eq r s x)) hproducts
  case apis => exact holds_field apis _ rfl (fun r x => congrArg apis (put_eq r s x)) hapis
  case subscriptions =>
    exact holds_field subscriptions _ rfl (fun r x => congrArg subscriptions (put_eq r s x))
      hsubscriptions
  case tlsProfiles =>
    exact holds_field tlsProfiles _ rfl (fun r x => congrArg tlsProfiles (put_eq r s x))
      htlsProfiles
  case registries =>
    exact holds_field registries _ rfl (fun r x => congrArg registries (put_eq r s x)) hregistries

end Records

end ApiGateway
