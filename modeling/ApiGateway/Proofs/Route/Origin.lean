import ApiGateway.Proofs.Outcomes
import ApiGateway.Proofs.Records.Reading
import ApiGateway.Store.Records
import ApiGateway.Route.Build
/-!
# Routes — where the stored entries come from

Records change by what is put, by events that are indexed, and by purges
(`Records.Change`), in any order and any number of times. Every stored
entry comes from a product, a catalog, an API and, if it is for a
credential, a subscription that were put in its snapshot (`Origin`):
each build takes its pieces from the records (`Traced.build`), and
what the records hold was put (`Traced`). The operations of an entry are
those that its API declares, and of a product's entry those without
security (`declares_of_routePaths`).
-/

namespace ApiGateway

/-! ## The operations of an entry -/

/-- A document declares an operation under a template for a method. -/
def ApiDocument.Declares (d : ApiDocument) (template method : String) (o : Operation) : Prop :=
  ∃ item operations, (template, some item) ∈ d.pathItems ∧ item.operations? = some operations ∧
    (method, o) ∈ operations

namespace Route

open Outcome

theorem orError_eq_ok {ε α : Type} {e : ε} {o : Option α} {a : α} :
    orError e o = .ok a ↔ o = some a := by
  cases o <;> simp [orError]

theorem orError_eq_error {ε α : Type} {e e' : ε} {o : Option α} :
    orError e o = .error e' ↔ o = none ∧ e' = e := by
  cases o with
  | none => exact ⟨fun h => ⟨rfl, (Except.error.inj h).symm⟩, fun ⟨_, h⟩ => h ▸ rfl⟩
  | some a => exact ⟨nofun, fun h => nomatch h.1⟩

/-- Under an access, an entry has a template with methods of the item,
and for callers without a client id unsecured ones. -/
theorem mem_granted {access : Access} {template : String} {d : ApiDocument}
    {methods : List MethodEntry} {p : RoutePath} {m : MethodEntry}
    (hp : p ∈ granted access template d methods) (hm : m ∈ p.pathMethods) :
    p.path = template ∧ m ∈ methods ∧ (access = .unsecuredOnly → m.isUnsecured = true) := by
  cases access with
  | full =>
    obtain rfl := List.mem_singleton.1 hp
    exact ⟨rfl, hm, nofun⟩
  | unsecuredOnly =>
    unfold granted at hp
    by_cases hnil : methods.filter MethodEntry.isUnsecured = []
    · simp [hnil] at hp
    · simp only [hnil, if_false, List.mem_singleton] at hp
      subst hp
      obtain ⟨hmem, hun⟩ := List.mem_filter.1 hm
      exact ⟨rfl, hmem, fun _ => hun⟩

/-- A template of an entry comes from a path item of its document. -/
theorem mem_routePaths {access : Access} {d : ApiDocument} {paths : List RoutePath}
    (h : routePaths access d = .ok paths) {p : RoutePath} (hp : p ∈ paths) :
    ∃ template item methods, (template, item) ∈ d.pathItems ∧
      methodEntries d template item = .ok methods ∧ p ∈ granted access template d methods := by
  obtain ⟨pathss, hmap, h⟩ := bind_eq_ok.1 h
  obtain rfl := pure_eq_ok.1 h
  obtain ⟨ps, hps, hp⟩ := List.mem_flatten.1 hp
  obtain ⟨⟨template, item⟩, hitem, hf⟩ := mem_of_mapM hmap hps
  obtain ⟨methods, hmethods, hf⟩ := bind_eq_ok.1 hf
  obtain rfl := pure_eq_ok.1 hf
  exact ⟨template, item, methods, hitem, hmethods, hp⟩

/-- **The operations of an entry are declared by its API**, and the
entries of a product have no others than the unsecured ones. -/
theorem declares_of_routePaths {access : Access} {d : ApiDocument} {paths : List RoutePath}
    (h : routePaths access d = .ok paths) {p : RoutePath} (hp : p ∈ paths) {m : MethodEntry}
    (hm : m ∈ p.pathMethods) :
    (∃ method o, d.Declares p.path method o ∧ m = methodEntry d method o) ∧
      (access = .unsecuredOnly → m.isUnsecured = true) := by
  obtain ⟨template, item, methods, hitem, hmethods, hp⟩ := mem_routePaths h hp
  -- from the method back to the operation of the path item
  obtain ⟨rfl, hm, hun⟩ := mem_granted hp hm
  obtain ⟨operations, ho, hmethods⟩ := bind_eq_ok.1 hmethods
  obtain rfl := pure_eq_ok.1 hmethods
  obtain ⟨⟨method, o⟩, hmem, rfl⟩ := List.mem_map.1 hm
  obtain ⟨item, rfl, hops⟩ := Option.bind_eq_some_iff.1 (orError_eq_ok.1 ho)
  exact ⟨⟨method, o, ⟨item, operations, hitem, hops, hmem⟩, rfl⟩, hun⟩

end Route

/-! ## Changes of the records -/

/-- A change of the records: a record put into a snapshot, an event
indexed, or a snapshot purged. -/
inductive Records.Change where
  | organization (s : SnapshotId) (o : Organization)
  | catalog (s : SnapshotId) (c : Catalog)
  | api (s : SnapshotId) (a : Api)
  | product (s : SnapshotId) (p : Product)
  | subscription (s : SnapshotId) (u : Subscription)
  | indexed (e : IndexEvent)
  | purged (s : SnapshotId)

/-- The records with a change. -/
def Records.apply (r : Records) : Change → Records
  | .organization s o => r.putOrganization s o
  | .catalog s c => r.putCatalog s c
  | .api s a => r.putApi s a
  | .product s p => r.putProduct s p
  | .subscription s u => r.putSubscription s u
  | .indexed e => (Route.handle r e).2
  | .purged s => r.purge s

/-- The records after changes, from none on. -/
def Records.after (cs : List Change) : Records := cs.foldl apply empty

namespace Route

open Outcome

variable {cs : List Records.Change} {r : Records} {s : SnapshotId} {e : RouteEntry}

/-- An entry of a snapshot comes from a plan of a product, for callers
without a client id, by what was put into the snapshot. -/
inductive OfPlan (cs : List Records.Change) (s : SnapshotId) : RouteEntry → Prop where
  | intro {product : Product} {catalog : Catalog} {name : String} {plan : Plan} {api : Api}
      {paths : List RoutePath} :
      .product s product ∈ cs → .catalog s catalog ∈ cs → .api s api ∈ cs →
      routePaths .unsecuredOnly api.document = .ok paths →
      OfPlan cs s (entry s (planScope product catalog name plan) defaultCredential api paths)

/-- An entry of a snapshot comes from a subscription, for one of its
credentials, by what was put into the snapshot. -/
inductive OfSubscription (cs : List Records.Change) (s : SnapshotId) : RouteEntry → Prop where
  | intro {u : Subscription} {c : Credential} {product : Product} {catalog : Catalog}
      {api : Api} {paths : List RoutePath} :
      .subscription s u ∈ cs → c ∈ u.application.credentials →
      .product s product ∈ cs → .catalog s catalog ∈ cs → .api s api ∈ cs →
      routePaths .full api.document = .ok paths →
      OfSubscription cs s (entry s (subscriptionScope u product catalog) c api paths)

/-- **Where an entry of a snapshot comes from.** -/
def Origin (cs : List Records.Change) (s : SnapshotId) (e : RouteEntry) : Prop :=
  OfPlan cs s e ∨ OfSubscription cs s e

theorem OfPlan.snapshotId_eq (h : OfPlan cs s e) : e.snapshotId = s := by
  cases h
  rfl

theorem OfSubscription.snapshotId_eq (h : OfSubscription cs s e) : e.snapshotId = s := by
  cases h
  rfl

theorem Origin.snapshotId_eq (h : Origin cs s e) : e.snapshotId = s :=
  h.elim OfPlan.snapshotId_eq OfSubscription.snapshotId_eq

/-- **Everything that the records hold goes back to what was put.** -/
structure Traced (cs : List Records.Change) (r : Records) : Prop where
  catalogs : r.catalogs.All fun s _ c => .catalog s c ∈ cs
  products : r.products.All fun s _ p => .product s p ∈ cs
  apis : r.apis.All fun s _ a => .api s a ∈ cs
  subscriptions : r.subscriptions.All fun s _ u => .subscription s u ∈ cs
  entries : r.routeEntries.All fun s _ e => Origin cs s e

theorem traced_empty (cs : List Records.Change) : Traced cs .empty :=
  ⟨Collection.all_nil, Collection.all_nil, Collection.all_nil, Collection.all_nil,
    Collection.all_nil⟩

/-! ## What a build takes from the records -/

theorem Traced.productAndCatalog (h : Traced cs r) {id : String} {pc : Product × Catalog}
    (hpc : productAndCatalog r s id = .ok pc) : .product s pc.1 ∈ cs ∧ .catalog s pc.2 ∈ cs := by
  obtain ⟨product, hp, hpc⟩ := bind_eq_ok.1 hpc
  obtain ⟨catalog, hc, hpc⟩ := bind_eq_ok.1 hpc
  obtain rfl := pure_eq_ok.1 hpc
  exact ⟨h.products.get? (orError_eq_ok.1 hp), h.catalogs.get? (orError_eq_ok.1 hc)⟩

theorem Traced.apiWithPaths (h : Traced cs r) {access : Access} {name version : String}
    {a : Api × List RoutePath} (ha : apiWithPaths r s access name version = .ok a) :
    .api s a.1 ∈ cs ∧ routePaths access a.1.document = .ok a.2 := by
  obtain ⟨api, hapi, ha⟩ := bind_eq_ok.1 ha
  obtain ⟨paths, hpaths, ha⟩ := bind_eq_ok.1 ha
  obtain rfl := pure_eq_ok.1 ha
  obtain ⟨id, hmem, -⟩ := Collection.mem_of_find? (orError_eq_ok.1 hapi)
  exact ⟨h.apis s id api hmem, hpaths⟩

theorem Traced.subscriptionEntries (h : Traced cs r) {id : String} {entries : List RouteEntry}
    (hok : subscriptionEntries r s id = .ok entries) (he : e ∈ entries) :
    OfSubscription cs s e := by
  obtain ⟨u, hu, hok⟩ := bind_eq_ok.1 hok
  obtain ⟨pc, hpc, hok⟩ := bind_eq_ok.1 hok
  obtain ⟨apis, hapis, hok⟩ := bind_eq_ok.1 hok
  obtain rfl := pure_eq_ok.1 hok
  obtain ⟨c, hc, he⟩ := List.mem_flatMap.1 he
  obtain ⟨a, ha, rfl⟩ := List.mem_map.1 he
  obtain ⟨_, -, ha⟩ := mem_of_mapM hapis ha
  obtain ⟨hproduct, hcatalog⟩ := h.productAndCatalog hpc
  obtain ⟨hapi, hpaths⟩ := h.apiWithPaths ha
  exact .intro (h.subscriptions.get? (orError_eq_ok.1 hu)) hc hproduct hcatalog hapi hpaths

theorem Traced.offerEntry (h : Traced cs r) {product : Product} {catalog : Catalog}
    (hproduct : .product s product ∈ cs) (hcatalog : .catalog s catalog ∈ cs)
    {offer : (String × Plan) × ProductApi}
    (hok : offerEntry r s product catalog offer = .ok (some e)) : OfPlan cs s e := by
  obtain ⟨a, ha, hok⟩ := bind_eq_ok.1 hok
  obtain ⟨hapi, hpaths⟩ := h.apiWithPaths ha
  by_cases hnil : a.2 = []
  · simp [hnil, pure, Except.pure] at hok
  · simp only [hnil, if_false, pure_eq_ok, Option.some.injEq] at hok
    exact hok ▸ .intro hproduct hcatalog hapi hpaths

/-- Entries are stored one by one, each from an offer that did not
fail. -/
theorem mem_offerEntries {product : Product} {catalog : Catalog}
    {os : List ((String × Plan) × ProductApi)} (he : e ∈ (offerEntries r s product catalog os).1) :
    ∃ o ∈ os, offerEntry r s product catalog o = .ok (some e) := by
  induction os with
  | nil => cases he
  | cons o os ih =>
    rw [offerEntries] at he
    cases ho : offerEntry r s product catalog o with
    | error err =>
      -- nothing is built after a failure
      rw [ho] at he
      cases he
    | ok built =>
      rw [ho] at he
      rcases List.mem_append.1 he with he | he
      · exact ⟨o, List.mem_cons_self, Option.mem_toList.1 he ▸ ho⟩
      · obtain ⟨o', ho', hok⟩ := ih he
        exact ⟨o', List.mem_cons_of_mem _ ho', hok⟩

theorem mem_buildSubscription {id : String} (he : e ∈ (buildSubscription r s id).entries) :
    ∃ entries, subscriptionEntries r s id = .ok entries ∧ e ∈ entries := by
  unfold buildSubscription at he
  cases hok : subscriptionEntries r s id with
  | error err => simp [hok] at he
  | ok entries =>
    rw [hok] at he
    exact ⟨entries, rfl, he⟩

theorem mem_buildProduct {id : String} (he : e ∈ (buildProduct r s id).entries) :
    ∃ pc, productAndCatalog r s id = .ok pc ∧
      ∃ o ∈ offers pc.1, offerEntry r s pc.1 pc.2 o = .ok (some e) := by
  unfold buildProduct at he
  cases hpc : productAndCatalog r s id with
  | error err => simp [hpc] at he
  | ok pc =>
    rw [hpc] at he
    exact ⟨pc, rfl, mem_offerEntries he⟩

/-- **What a build gives goes back to what was put.** -/
theorem Traced.build (h : Traced cs r) {event : IndexEvent} (he : e ∈ (build r event).entries) :
    Origin cs event.snapshot e := by
  cases event with
  | subscription s id =>
    obtain ⟨entries, hok, he⟩ := mem_buildSubscription he
    exact Or.inr (h.subscriptionEntries hok he)
  | product s id =>
    obtain ⟨pc, hpc, o, -, hok⟩ := mem_buildProduct he
    obtain ⟨hproduct, hcatalog⟩ := h.productAndCatalog hpc
    exact Or.inl (h.offerEntry hproduct hcatalog hok)

/-! ## Changes keep the trace -/

theorem Traced.putRouteEntry (h : Traced cs r) (he : Origin cs s e) :
    Traced cs (r.putRouteEntry e) :=
  { h with entries := h.entries.put (he.snapshotId_eq.symm ▸ he) }

theorem Traced.putEntries (h : Traced cs r) {entries : List RouteEntry}
    (he : ∀ e ∈ entries, Origin cs s e) : Traced cs (putEntries r entries) := by
  induction entries generalizing r with
  | nil => exact h
  | cons e entries ih =>
    exact ih (h.putRouteEntry (he e List.mem_cons_self))
      fun e' he' => he e' (List.mem_cons_of_mem _ he')

theorem Traced.putOrganization (h : Traced cs r) (s : SnapshotId) (o : Organization) :
    Traced cs (r.putOrganization s o) :=
  { h with }

/-- A catalog is stored in the records, or in those with its
organization. -/
theorem putCatalog_cases (r : Records) (s : SnapshotId) (c : Catalog) :
    ∃ r', (r' = r ∨ r' = r.putOrganization s c.organization) ∧
      r.putCatalog s c = { r' with catalogs := r'.catalogs.put s c.id c } := by
  unfold Records.putCatalog
  cases r.organizations.get? s c.organization.id with
  | some o => exact ⟨r, Or.inl rfl, rfl⟩
  | none => exact ⟨_, Or.inr rfl, rfl⟩

/-- **One change** keeps the trace. -/
theorem Traced.apply (h : Traced cs r) {c : Records.Change} (hc : c ∈ cs) :
    Traced cs (r.apply c) := by
  cases c with
  | organization s o => exact h.putOrganization s o
  | catalog s c =>
    obtain ⟨r', hr, hput⟩ := putCatalog_cases r s c
    have hr' : Traced cs r' := by
      rcases hr with rfl | rfl
      · exact h
      · exact h.putOrganization s c.organization
    exact (show r.apply (.catalog s c) = _ from hput) ▸
      { hr' with catalogs := hr'.catalogs.put hc }
  | api s a => exact { h with apis := h.apis.put hc }
  | product s p => exact { h with products := h.products.put hc }
  | subscription s u => exact { h with subscriptions := h.subscriptions.put hc }
  | indexed event => exact h.putEntries fun e he => h.build he
  | purged s =>
    exact ⟨h.catalogs.purge s, h.products.purge s, h.apis.purge s, h.subscriptions.purge s,
      h.entries.purge s⟩

/-- **Every sequence of changes** keeps the trace: whatever the order,
the records go back to what was put. -/
theorem traced_after (cs : List Records.Change) : Traced cs (.after cs) := by
  suffices ∀ l : List Records.Change, (∀ c ∈ l, c ∈ cs) → ∀ r, Traced cs r →
      Traced cs (l.foldl Records.apply r) from this cs (fun _ hc => hc) .empty (traced_empty cs)
  -- the changes are taken one by one, while what was put in all is fixed
  intro l
  induction l with
  | nil => exact fun _ _ h => h
  | cons c l ih =>
    intro hl r h
    exact ih (fun c' hc' => hl c' (List.mem_cons_of_mem _ hc')) (r.apply c)
      (h.apply (hl c List.mem_cons_self))

end Route

end ApiGateway
