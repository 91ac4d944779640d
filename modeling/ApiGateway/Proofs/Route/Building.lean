import ApiGateway.Proofs.Route.Origin
/-!
# Routes — what a build is made of

The templates of an entry are those of its document, ready for matching
(`eq_routePath_of_mem`), and no operation that is granted is missing
(`exists_routePath`). A build for a subscription that succeeds gives one
entry for each credential and each API of the registration, and no other
(`subscriptionEntries_spec`). A build for a product goes through its
offers (`mem_offers`) and gives an entry for those whose API has an
unsecured operation (`offerEntry_eq_ok`), if it gets to the end for all of
them (`exists_offerEntry`).
-/

namespace ApiGateway

namespace Route

open Outcome

variable {access : Access} {d : ApiDocument} {paths : List RoutePath}

/-! ## Templates -/

theorem eq_routePath_of_granted {template : String} {methods : List MethodEntry} {p : RoutePath}
    (hp : p ∈ granted access template d methods) :
    ∃ ms, p = routePath d template ms ∧ (access = .unsecuredOnly → ms ≠ []) := by
  cases access with
  | full => exact ⟨methods, List.mem_singleton.1 hp, nofun⟩
  | unsecuredOnly =>
    unfold granted at hp
    by_cases hnil : methods.filter MethodEntry.isUnsecured = []
    · simp [hnil] at hp
    · simp only [hnil, if_false, List.mem_singleton] at hp
      exact ⟨_, hp, fun _ => hnil⟩

/-- An operation is granted if all are or if it is unsecured. -/
theorem exists_granted {template : String} {methods : List MethodEntry} {m : MethodEntry}
    (hm : m ∈ methods) (hm' : access = .full ∨ m.isUnsecured = true) :
    ∃ ms, routePath d template ms ∈ granted access template d methods ∧ m ∈ ms := by
  cases access with
  | full => exact ⟨methods, List.mem_singleton_self _, hm⟩
  | unsecuredOnly =>
    have hun : m ∈ methods.filter MethodEntry.isUnsecured :=
      List.mem_filter.2 ⟨hm, hm'.resolve_left nofun⟩
    have hne : methods.filter MethodEntry.isUnsecured ≠ [] := List.ne_nil_of_mem hun
    refine ⟨_, ?_, hun⟩
    simp only [granted, hne, if_false, List.mem_singleton]

/-- **A template of an entry is one of its document**, ready for
matching; one for callers without a client id has operations. -/
theorem eq_routePath_of_mem (h : routePaths access d = .ok paths) {p : RoutePath}
    (hp : p ∈ paths) :
    ∃ methods, p = routePath d p.path methods ∧ (access = .unsecuredOnly → methods ≠ []) := by
  obtain ⟨template, item, methods, -, -, hp⟩ := mem_routePaths h hp
  obtain ⟨ms, rfl, hne⟩ := eq_routePath_of_granted hp
  exact ⟨ms, rfl, hne⟩

/-- **No declared operation that is granted is left out.** -/
theorem exists_routePath (h : routePaths access d = .ok paths) {template method : String}
    {o : Operation} (hd : d.Declares template method o)
    (hgranted : access = .full ∨ (methodEntry d method o).isUnsecured = true) :
    ∃ methods, routePath d template methods ∈ paths ∧ methodEntry d method o ∈ methods := by
  obtain ⟨item, operations, hitem, hops, hmem⟩ := hd
  obtain ⟨pathss, hmap, h⟩ := bind_eq_ok.1 h
  obtain rfl := pure_eq_ok.1 h
  obtain ⟨ps, hps, hf⟩ := exists_of_mapM hmap hitem
  obtain ⟨methods, hmethods, hf⟩ := bind_eq_ok.1 hf
  obtain rfl := pure_eq_ok.1 hf
  obtain ⟨operations', ho, hmethods⟩ := bind_eq_ok.1 hmethods
  obtain rfl := pure_eq_ok.1 hmethods
  -- the path item is well-formed, so these are its operations
  have hsame : operations' = operations := by
    have hok : (some item).bind PathItem.operations? = some operations := hops
    rw [orError_eq_ok.1 ho] at hok
    exact Option.some.inj hok
  subst hsame
  have hentry : methodEntry d method o ∈ operations'.map fun o => methodEntry d o.1 o.2 :=
    List.mem_map.2 ⟨(method, o), hmem, rfl⟩
  obtain ⟨ms, hms, hin⟩ := exists_granted hentry hgranted
  exact ⟨ms, List.mem_flatten.2 ⟨_, hps, hms⟩, hin⟩

/-- A document has an operation that no security requirement applies
to. -/
def HasUnsecured (d : ApiDocument) : Prop :=
  ∃ template method o, d.Declares template method o ∧ (methodEntry d method o).isUnsecured = true

/-- **An API has templates for callers without a client id** exactly if it
has an unsecured operation. -/
theorem routePaths_unsecuredOnly_ne_nil_iff (h : routePaths .unsecuredOnly d = .ok paths) :
    paths ≠ [] ↔ HasUnsecured d := by
  constructor
  · intro hne
    obtain ⟨p, hp⟩ := List.exists_mem_of_ne_nil paths hne
    obtain ⟨methods, hmethods, hmne⟩ := eq_routePath_of_mem h hp
    obtain ⟨m, hm⟩ := List.exists_mem_of_ne_nil methods (hmne rfl)
    have hm' : m ∈ p.pathMethods := by
      rw [hmethods]
      exact hm
    obtain ⟨⟨method, o, hd, rfl⟩, hun⟩ := declares_of_routePaths h hp hm'
    exact ⟨p.path, method, o, hd, hun rfl⟩
  · rintro ⟨template, method, o, hd, hun⟩
    obtain ⟨methods, hmem, -⟩ := exists_routePath h hd (Or.inr hun)
    exact List.ne_nil_of_mem hmem

/-- An operation is declared for one of the known methods. -/
theorem mem_httpMethods_of_declares {template method : String} {o : Operation}
    (hd : d.Declares template method o) : method ∈ httpMethods := by
  obtain ⟨item, operations, -, hops, hmem⟩ := hd
  obtain ⟨⟨name, raw⟩, hentry, hf⟩ := mem_of_mapM_eq_some hops hmem
  obtain ⟨o', -, he⟩ := Option.map_eq_some_iff.1 hf
  obtain ⟨rfl, rfl⟩ := Prod.mk.inj he
  -- other members of the path item are passed over
  obtain ⟨e, -, he⟩ := List.mem_filterMap.1 hentry
  obtain ⟨hknown, he⟩ := Option.ite_none_right_eq_some.1 he
  obtain ⟨rfl, rfl⟩ := Prod.mk.inj (Option.some.inj he)
  exact List.contains_iff_mem.1 hknown

/-- The known methods are in upper case. -/
theorem asciiUpper_of_mem_httpMethods : ∀ method ∈ httpMethods, method.asciiUpper = method := by
  decide

/-! ## Subscriptions -/

variable {r : Records} {s : SnapshotId}

theorem apiWithPaths_eq_ok {name version : String} {api : Api} :
    apiWithPaths r s access name version = .ok (api, paths) ↔
      r.findApi? s name version 0 = some api ∧ routePaths access api.document = .ok paths := by
  unfold apiWithPaths
  constructor
  · intro h
    obtain ⟨api', hapi, h⟩ := bind_eq_ok.1 h
    obtain ⟨paths', hpaths, h⟩ := bind_eq_ok.1 h
    obtain ⟨rfl, rfl⟩ := Prod.mk.inj (pure_eq_ok.1 h)
    exact ⟨orError_eq_ok.1 hapi, hpaths⟩
  · rintro ⟨hapi, hpaths⟩
    exact bind_eq_ok.2 ⟨api, orError_eq_ok.2 hapi, bind_eq_ok.2 ⟨paths, hpaths, rfl⟩⟩

/-- **The entries of a subscription**, if the build for it succeeds: every
API of the registration is found, and each credential has one entry for
each of them. -/
theorem subscriptionEntries_spec {id : String} {entries : List RouteEntry}
    (h : subscriptionEntries r s id = .ok entries) :
    ∃ u product catalog, r.subscription? s id = some u ∧
      productAndCatalog r s u.planRegistration.product.id = .ok (product, catalog) ∧
      (∀ ref ∈ u.planRegistration.apis, ∃ api paths,
        apiWithPaths r s .full ref.document.info.name ref.document.info.version =
          .ok (api, paths)) ∧
      ∀ e, e ∈ entries ↔ ∃ c ∈ u.application.credentials, ∃ ref ∈ u.planRegistration.apis,
        ∃ api paths, apiWithPaths r s .full ref.document.info.name ref.document.info.version =
          .ok (api, paths) ∧ e = entry s (subscriptionScope u product catalog) c api paths := by
  obtain ⟨u, hu, h⟩ := bind_eq_ok.1 h
  obtain ⟨⟨product, catalog⟩, hpc, h⟩ := bind_eq_ok.1 h
  obtain ⟨apis, hapis, h⟩ := bind_eq_ok.1 h
  obtain rfl := pure_eq_ok.1 h
  refine ⟨u, product, catalog, orError_eq_ok.1 hu, hpc, fun ref href => ?_, fun e => ?_⟩
  · obtain ⟨⟨api, paths⟩, -, hf⟩ := exists_of_mapM hapis href
    exact ⟨api, paths, hf⟩
  · rw [List.mem_flatMap]
    constructor
    · rintro ⟨c, hc, he⟩
      obtain ⟨⟨api, paths⟩, ha, rfl⟩ := List.mem_map.1 he
      obtain ⟨ref, href, hf⟩ := mem_of_mapM hapis ha
      exact ⟨c, hc, ref, href, api, paths, hf, rfl⟩
    · rintro ⟨c, hc, ref, href, api, paths, hf, rfl⟩
      obtain ⟨a, ha, hf'⟩ := exists_of_mapM hapis href
      obtain rfl := Except.ok.inj (hf.symm.trans hf')
      exact ⟨c, hc, List.mem_map.2 ⟨_, ha, rfl⟩⟩

/-- A build for a subscription that does not fail gives its entries. -/
theorem subscriptionEntries_of_build {id : String}
    (h : (buildSubscription r s id).failure = none) :
    subscriptionEntries r s id = .ok (buildSubscription r s id).entries := by
  unfold buildSubscription at h ⊢
  cases hse : subscriptionEntries r s id with
  | error err =>
    rw [hse] at h
    cases h
  | ok entries => rfl

/-! ## Products -/

variable {product : Product} {catalog : Catalog}

/-- **The entry of an offer**, if the API is found: there is one exactly if
the API has an unsecured operation. -/
theorem offerEntry_eq_ok {offer : (String × Plan) × ProductApi} {built : Option RouteEntry}
    (h : offerEntry r s product catalog offer = .ok built) :
    ∃ api paths, r.findApi? s offer.2.nameAndVersion.1 offer.2.nameAndVersion.2 0 = some api ∧
      (built.isSome = true ↔ HasUnsecured api.document) ∧
      ∀ e, built = some e →
        e = entry s (planScope product catalog offer.1.1 offer.1.2) defaultCredential api
          paths := by
  obtain ⟨⟨api, paths⟩, hap, h⟩ := bind_eq_ok.1 h
  obtain ⟨hapi, hpaths⟩ := apiWithPaths_eq_ok.1 hap
  have hne := routePaths_unsecuredOnly_ne_nil_iff hpaths
  obtain rfl := pure_eq_ok.1 h
  refine ⟨api, paths, hapi, ?_, fun e he => ?_⟩
  · rw [← hne]
    by_cases hnil : paths = []
    · simp [hnil]
    · simp [hnil]
  · by_cases hnil : paths = []
    · simp [hnil] at he
    · simp only [hnil, if_false, Option.some.injEq] at he
      exact he.symm

/-- If no offer fails, the entries of all are there. -/
theorem exists_offerEntry {os : List ((String × Plan) × ProductApi)}
    (h : (offerEntries r s product catalog os).2 = none) {o : (String × Plan) × ProductApi}
    (ho : o ∈ os) : ∃ built, offerEntry r s product catalog o = .ok built ∧
      ∀ e, built = some e → e ∈ (offerEntries r s product catalog os).1 := by
  induction os with
  | nil => cases ho
  | cons o' os ih =>
    rw [offerEntries] at h ⊢
    cases hb : offerEntry r s product catalog o' with
    | error err =>
      rw [hb] at h
      cases h
    | ok built =>
      rw [hb] at h
      rcases List.mem_cons.1 ho with rfl | ho
      · exact ⟨built, hb, fun e he => List.mem_append_left _ (he ▸ List.mem_singleton_self e)⟩
      · obtain ⟨built', hb', hmem⟩ := ih h ho
        exact ⟨built', hb', fun e he => List.mem_append_right _ (hmem e he)⟩

/-- A build for a product that does not fail gives the entries of all its
offers. -/
theorem offerEntries_of_build {id : String} (h : (buildProduct r s id).failure = none) :
    ∃ product catalog, productAndCatalog r s id = .ok (product, catalog) ∧
      offerEntries r s product catalog (offers product) =
        ((buildProduct r s id).entries, none) := by
  unfold buildProduct at h ⊢
  cases hpc : productAndCatalog r s id with
  | error err =>
    rw [hpc] at h
    cases h
  | ok pc =>
    obtain ⟨product, catalog⟩ := pc
    rw [hpc] at h
    exact ⟨product, catalog, rfl, Prod.ext rfl h⟩

/-- The offers of a product: each plan with each API that it covers. -/
theorem mem_offers {name : String} {plan : Plan} {a : ProductApi} :
    ((name, plan), a) ∈ offers product ↔ (name, plan) ∈ product.document.plans ∧
      ∃ key, (key, a) ∈ product.document.apis ∧ plan.covers key = true := by
  rw [offers, List.mem_flatMap]
  constructor
  · rintro ⟨p, hp, ha⟩
    obtain ⟨⟨key, a'⟩, ha', heq⟩ := List.mem_map.1 ha
    obtain ⟨rfl, rfl⟩ := Prod.mk.inj heq
    obtain ⟨hmem, hcovers⟩ := List.mem_filter.1 ha'
    exact ⟨hp, key, hmem, hcovers⟩
  · rintro ⟨hp, key, hmem, hcovers⟩
    exact ⟨_, hp, List.mem_map.2 ⟨(key, a), List.mem_filter.2 ⟨hmem, hcovers⟩, rfl⟩⟩

end Route

end ApiGateway
