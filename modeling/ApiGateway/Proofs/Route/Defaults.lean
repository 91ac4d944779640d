import ApiGateway.Proofs.Route.Joining
import ApiGateway.Proofs.Route.Rewriting
import Mathlib.Data.List.ProdSigma
/-!
# Routes — the entries of a product

A product is open to callers without a client id as far as its plans and
APIs are: each pair of a plan and an API that the plan allows has an entry
with what the API's document lists for everybody, unless that is nothing
(`Defaults`). The entries come plan by plan, and if the build succeeds they
are all there. The pairs are walked one after the other, and each entry is
stored before the next pair is looked at. So a build that fails leaves
behind the entries of the pairs before the one that failed
(`ProductFails`).
-/

namespace ApiGateway

/-- **A plan allows the APIs under the keys it names**, or all if it names
none. -/
def Plan.Allows (p : Plan) (key : String) : Prop :=
  ∀ apis, p.apis = some apis → key ∈ OrderedMap.keys apis

theorem Plan.covers_iff {p : Plan} {key : String} : p.covers key = true ↔ p.Allows key := by
  unfold covers Allows
  cases p.apis with
  | none => exact iff_of_true rfl nofun
  | some apis =>
    change (OrderedMap.get? apis key).isSome = true ↔ _
    rw [OrderedMap.isSome_get?_iff]
    exact ⟨fun h _ happs => Option.some.inj happs ▸ h, fun h => h apis rfl⟩

/-- **What an entry without a client id has of its plan**: ids made of the
product's and the plan's, and the limits of the plan. -/
structure RouteEntry.ForPlan (product : Product) (plan : String × Plan) (e : RouteEntry) :
    Prop where
  subscriptionId : e.subscriptionId = "product:" ++ product.id ++ ":" ++ plan.1
  clientId : e.clientId = "default"
  clientSecret : e.clientSecret = none
  planId : e.planId =
    product.document.info.name ++ ":" ++ product.document.info.version ++ ":" ++ plan.1
  planName : e.planName = plan.1
  rateLimits : e.rateLimits = plan.2.rateLimitList

namespace Route

open Outcome

/-- A plan with its name, and an API as a product has it, with its key. -/
abbrev Pair := (String × Plan) × (String × ProductApi)

variable {r : Records} {s : SnapshotId} {id : String} {err : BuildError}
  {product : Product} {catalog : Catalog} {entries : List RouteEntry}
  {pair : Pair} {pairs : List Pair}

/-- The pairs of a plan and an API, plan by plan. -/
def pairsOf (product : Product) : List Pair :=
  product.document.plans.product product.document.apis

/-- The API that the product means is the one of a snapshot. -/
abbrev Meant (r : Records) (s : SnapshotId) (a : ProductApi) (api : Api) : Prop :=
  Reconciled r s a.nameAndVersion.1 a.nameAndVersion.2 api

/-- **The entries for callers without a client id**, pair by pair: none for
an API that the plan does not allow or that lists nothing for everybody, and
one for any other. -/
inductive Defaults (r : Records) (s : SnapshotId) (product : Product) (catalog : Catalog) :
    List Pair → List RouteEntry → Prop where
  | nil : Defaults r s product catalog [] []
  | excluded {pair : Pair} {pairs entries} :
      ¬ pair.1.2.Allows pair.2.1 → Defaults r s product catalog pairs entries →
      Defaults r s product catalog (pair :: pairs) entries
  | secured {pair : Pair} {api : Api} {listed pairs entries} :
      pair.1.2.Allows pair.2.1 → Meant r s pair.2.2 api → api.document.Lists listed →
      api.document.openPart listed = [] → Defaults r s product catalog pairs entries →
      Defaults r s product catalog (pair :: pairs) entries
  | opened {pair : Pair} {api : Api} {e : RouteEntry} {listed pairs entries} :
      pair.1.2.Allows pair.2.1 → Meant r s pair.2.2 api → api.document.Lists listed →
      api.document.openPart listed ≠ [] →
      e.Joins s product catalog api (api.document.openPart listed) → e.ForPlan product pair.1 →
      Defaults r s product catalog pairs entries →
      Defaults r s product catalog (pair :: pairs) (e :: entries)

/-- **Where the walk over the pairs stops**: at their end, or with an error
at one that is allowed and whose API cannot be joined. -/
inductive Stops (r : Records) (s : SnapshotId) : List Pair → Option BuildError → Prop where
  | done : Stops r s [] none
  | failed {pair : Pair} {pairs err} :
      pair.1.2.Allows pair.2.1 →
      ApiFails r s pair.2.2.nameAndVersion.1 pair.2.2.nameAndVersion.2 err →
      Stops r s (pair :: pairs) (some err)

/-! ## One pair -/

theorem offerEntry_eq_error_iff {offer : (String × Plan) × ProductApi} :
    offerEntry r s product catalog offer = .error err ↔
      ApiFails r s offer.2.nameAndVersion.1 offer.2.nameAndVersion.2 err := by
  unfold offerEntry
  rw [bind_eq_error, apiWithPaths_eq_error_iff, or_iff_left]
  exact fun ⟨_, _, h⟩ => nomatch h

/-- **A pair that is allowed** adds what is built for it, if its API can be
joined. -/
theorem Defaults.cons_of_offerEntry (hrest : Defaults r s product catalog pairs entries)
    {built : Option RouteEntry}
    (h : offerEntry r s product catalog (pair.1, pair.2.2) = .ok built)
    (hallows : pair.1.2.Allows pair.2.1) :
    Defaults r s product catalog (pair :: pairs) (built.toList ++ entries) := by
  obtain ⟨⟨api, paths⟩, hap, h⟩ := bind_eq_ok.1 h
  obtain ⟨hapi, hpaths⟩ := apiWithPaths_eq_ok.1 hap
  have hmeant : Meant r s pair.2.2 api := findApi?_eq_some_iff.1 hapi
  obtain ⟨listed, hlists, rfl⟩ := routePaths_unsecuredOnly.1 hpaths
  obtain rfl := pure_eq_ok.1 h
  by_cases hnone : api.document.openPart listed = []
  · rw [if_pos (List.map_eq_nil_iff.2 hnone)]
    exact .secured hallows hmeant hlists hnone hrest
  · rw [if_neg fun hnil => hnone (List.map_eq_nil_iff.1 hnil)]
    exact .opened hallows hmeant hlists hnone (joins_entry s (planScope product catalog ..) ..)
      ⟨rfl, rfl, rfl, rfl, rfl, rfl⟩ hrest

/-! ## The walk over the pairs -/

/-- The offers among pairs: those that are allowed. -/
def offersAmong (pairs : List Pair) : List ((String × Plan) × ProductApi) :=
  (pairs.filter fun pair => pair.1.2.covers pair.2.1).map fun pair => (pair.1, pair.2.2)

theorem offers_eq (product : Product) : offers product = offersAmong (pairsOf product) := by
  simp only [offers, offersAmong, pairsOf, List.product, List.filter_flatMap, List.filter_map,
    List.map_flatMap, List.map_map, Function.comp_def]

theorem offersAmong_cons_of_allows (h : pair.1.2.Allows pair.2.1) (pairs : List Pair) :
    offersAmong (pair :: pairs) = (pair.1, pair.2.2) :: offersAmong pairs := by
  simp [offersAmong, Plan.covers_iff.2 h]

theorem offersAmong_cons_of_not_allows (h : ¬ pair.1.2.Allows pair.2.1) (pairs : List Pair) :
    offersAmong (pair :: pairs) = offersAmong pairs := by
  simp [offersAmong, mt Plan.covers_iff.1 h]

theorem offerEntries_cons_of_error {o : (String × Plan) × ProductApi}
    (h : offerEntry r s product catalog o = .error err) (os : List ((String × Plan) × ProductApi)) :
    offerEntries r s product catalog (o :: os) = ([], some err) := by
  rw [offerEntries, h]

theorem offerEntries_cons_of_ok {o : (String × Plan) × ProductApi} {built : Option RouteEntry}
    (h : offerEntry r s product catalog o = .ok built) (os : List ((String × Plan) × ProductApi)) :
    offerEntries r s product catalog (o :: os) =
      (built.toList ++ (offerEntries r s product catalog os).1,
        (offerEntries r s product catalog os).2) := by
  rw [offerEntries, h]

/-- **The walk stores the entries of the pairs up to where it stops.** -/
theorem exists_defaults (r : Records) (s : SnapshotId) (product : Product) (catalog : Catalog)
    (pairs : List Pair) : ∃ before after,
      pairs = before ++ after ∧
        Defaults r s product catalog before
          (offerEntries r s product catalog (offersAmong pairs)).1 ∧
        Stops r s after (offerEntries r s product catalog (offersAmong pairs)).2 := by
  induction pairs with
  | nil => exact ⟨[], [], rfl, .nil, .done⟩
  | cons pair pairs ih =>
    obtain ⟨before, after, rfl, hbefore, hafter⟩ := ih
    by_cases hallows : pair.1.2.Allows pair.2.1
    · rw [offersAmong_cons_of_allows hallows]
      cases hbuilt : offerEntry r s product catalog (pair.1, pair.2.2) with
      | error err =>
        have hfails := offerEntry_eq_error_iff.1 hbuilt
        rw [offerEntries_cons_of_error hbuilt]
        exact ⟨[], _, rfl, .nil, .failed hallows hfails⟩
      | ok built =>
        have hmore := hbefore.cons_of_offerEntry hbuilt hallows
        rw [offerEntries_cons_of_ok hbuilt]
        exact ⟨pair :: before, after, rfl, hmore, hafter⟩
    · rw [offersAmong_cons_of_not_allows hallows]
      exact ⟨pair :: before, after, rfl, .excluded hallows hbefore, hafter⟩

/-! ## The build -/

/-- **Why a build for a product fails, and what it has built by then**:
nothing if the product cannot be placed, and otherwise the entries of the
pairs before the first one that fails. -/
inductive ProductFails (r : Records) (s : SnapshotId) (id : String) :
    List RouteEntry → BuildError → Prop where
  | placing {err : BuildError} : PlacingFails r s id err → ProductFails r s id [] err
  | pair {product : Product} {catalog : Catalog} {pair : Pair} {before after : List Pair}
      {entries err} :
      Placed r s id product catalog → pairsOf product = before ++ pair :: after →
      Defaults r s product catalog before entries → pair.1.2.Allows pair.2.1 →
      ApiFails r s pair.2.2.nameAndVersion.1 pair.2.2.nameAndVersion.2 err →
      ProductFails r s id entries err

theorem buildProduct_of_placed (h : Placed r s id product catalog) :
    buildProduct r s id = ⟨(offerEntries r s product catalog (offers product)).1,
      (offerEntries r s product catalog (offers product)).2⟩ := by
  rw [buildProduct, productAndCatalog_eq_ok_iff.2 h]

/-- **What a build for a product gives**: all entries, or those up to a
failure. -/
theorem buildProduct_cases (r : Records) (s : SnapshotId) (id : String) :
    (∃ product catalog entries, Placed r s id product catalog ∧
      Defaults r s product catalog (pairsOf product) entries ∧
      buildProduct r s id = ⟨entries, none⟩) ∨
    ∃ entries err, ProductFails r s id entries err ∧ buildProduct r s id = ⟨entries, some err⟩ := by
  cases hpc : productAndCatalog r s id with
  | error err =>
    refine Or.inr ⟨[], err, .placing (productAndCatalog_eq_error_iff.1 hpc), ?_⟩
    rw [buildProduct, hpc]
  | ok pc =>
    obtain ⟨product, catalog⟩ := pc
    have hplaced := productAndCatalog_eq_ok_iff.1 hpc
    obtain ⟨before, after, hsplit, hbefore, hafter⟩ :=
      exists_defaults r s product catalog (pairsOf product)
    have hbuild := buildProduct_of_placed hplaced
    rw [← offers_eq] at hbefore hafter
    -- the walk is at its end, or at the pair that fails
    cases hstop : (offerEntries r s product catalog (offers product)).2 with
    | none =>
      rw [hstop] at hafter hbuild
      cases hafter
      rw [List.append_nil] at hsplit
      exact Or.inl ⟨product, catalog, _, hplaced, hsplit ▸ hbefore, hbuild⟩
    | some err =>
      rw [hstop] at hafter hbuild
      cases hafter with
      | failed hallows hfails =>
        exact Or.inr ⟨_, err, .pair hplaced hsplit hbefore hallows hfails, hbuild⟩

/-! ## What handling the event gives -/

/-- **What indexing a product gives if it succeeds.** The pairs of its plans
and APIs have their entries, plan by plan. Exactly these are stored, of those
with one key the last one, and handling the event again changes nothing. -/
theorem product_exact (h : (handle r (.product s id)).1.result = .ok entries) :
    ∃ product catalog, Placed r s id product catalog ∧
      Defaults r s product catalog (pairsOf product) entries ∧
      Stores r entries (handle r (.product s id)).2 ∧
      handle (handle r (.product s id)).2 (.product s id) = handle r (.product s id) := by
  have hstores := stores_handle h
  change (buildProduct r s id).result = .ok entries at h
  rcases buildProduct_cases r s id with
    ⟨product, catalog, built, hplaced, hbuilt, hbuild⟩ | ⟨built, err, -, hbuild⟩
  · rw [hbuild] at h
    obtain rfl : built = entries := Except.ok.inj h
    exact ⟨product, catalog, hplaced, hbuilt, hstores, handle_handle r _⟩
  · rw [hbuild] at h
    cases h

/-- The API has an entry, with the operation for everybody alone. -/
theorem product_exact_of_halfOpen : ∃ entries,
    (handle (offering ⟨1, by decide⟩ [climbs]) (.product ⟨1, by decide⟩ "p")).1.result =
      .ok entries ∧
    (entries.map fun e => (e.key, e.apiPaths.map fun p => (p.path, p.pathMethods.map (·.method)))) =
      [("product:p:gold|default|a", [("/peaks", ["GET"])])] ∧
    ∃ product catalog,
      Placed (offering ⟨1, by decide⟩ [climbs]) ⟨1, by decide⟩ "p" product catalog ∧
      Defaults (offering ⟨1, by decide⟩ [climbs]) ⟨1, by decide⟩ product catalog (pairsOf product)
        entries ∧
      Stores (offering ⟨1, by decide⟩ [climbs]) entries
        (handle (offering ⟨1, by decide⟩ [climbs]) (.product ⟨1, by decide⟩ "p")).2 := by
  have hok : (handle (offering ⟨1, by decide⟩ [climbs]) (.product ⟨1, by decide⟩ "p")).1.result =
      .ok (build (offering ⟨1, by decide⟩ [climbs]) (.product ⟨1, by decide⟩ "p")).entries := rfl
  obtain ⟨product, catalog, hplaced, hentries, hstores, -⟩ := product_exact hok
  exact ⟨_, hok, by decide +kernel, product, catalog, hplaced, hentries, hstores⟩

/-- **What indexing a product leaves behind if it fails.** The entries of the
pairs before the one that failed are stored. So the stored entries are those
before exactly if these were there already, of those with one key the last
one. -/
theorem product_failed (h : (handle r (.product s id)).1.result = .error err) :
    ∃ built, ProductFails r s id built err ∧ Stores r built (handle r (.product s id)).2 ∧
      ((handle r (.product s id)).2.routeEntries = r.routeEntries ↔
        ∀ e ∈ built, r.routeEntries.get? e.snapshotId e.key =
          lastUnder built e.snapshotId e.key) := by
  change (buildProduct r s id).result = .error err at h
  rcases buildProduct_cases r s id with
    ⟨product, catalog, built, -, -, hbuild⟩ | ⟨built, err', hfails, hbuild⟩
  · rw [hbuild] at h
    cases h
  · rw [hbuild] at h
    obtain rfl : err' = err := Except.error.inj h
    have hafter : (handle r (.product s id)).2 = putEntries r built := by
      change putEntries r (buildProduct r s id).entries = _
      rw [hbuild]
    rw [hafter]
    exact ⟨built, hfails, stores_putEntries r built, routeEntries_putEntries_eq_iff⟩

/-- An API that the snapshot does not have. -/
def peaks : String × ProductApi := ("l", ⟨"peaks:1.0.0"⟩)

/-- An API that is found has its entry stored, though the one that is looked
up next is missing. -/
theorem product_failed_after_climbs : ∃ built,
    (handle (offering ⟨1, by decide⟩ [climbs, peaks]) (.product ⟨1, by decide⟩ "p")).1.result =
      .error (.apiNotFound "peaks" "1.0.0") ∧
    ProductFails (offering ⟨1, by decide⟩ [climbs, peaks]) ⟨1, by decide⟩ "p" built
      (.apiNotFound "peaks" "1.0.0") ∧
    Stores (offering ⟨1, by decide⟩ [climbs, peaks]) built
      (handle (offering ⟨1, by decide⟩ [climbs, peaks]) (.product ⟨1, by decide⟩ "p")).2 := by
  have herr : (handle (offering ⟨1, by decide⟩ [climbs, peaks])
      (.product ⟨1, by decide⟩ "p")).1.result = .error (.apiNotFound "peaks" "1.0.0") := rfl
  obtain ⟨built, hfails, hstores, -⟩ := product_failed herr
  exact ⟨built, herr, hfails, hstores⟩

/-- **A failed build for a product may write entries.** -/
theorem written_by_failed_build : ¬ ∀ (r : Records) (s : SnapshotId) (id : String)
    (err : BuildError), (handle r (.product s id)).1.result = .error err →
      (handle r (.product s id)).2.routeEntries = r.routeEntries := by
  intro h
  have hsame := h (offering ⟨1, by decide⟩ [climbs, peaks]) ⟨1, by decide⟩ "p"
    (.apiNotFound "peaks" "1.0.0") rfl
  have hkeys : ((handle (offering ⟨1, by decide⟩ [climbs, peaks])
      (.product ⟨1, by decide⟩ "p")).2.routeEntries.map (·.1.2)) =
        ["product:p:gold|default|a"] := by
    decide +kernel
  rw [hsame] at hkeys
  cases hkeys

end Route

end ApiGateway
