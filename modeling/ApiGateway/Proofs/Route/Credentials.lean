import ApiGateway.Proofs.Route.Joining
import ApiGateway.Proofs.Route.Rewriting
import Mathlib.Data.List.ProdSigma
/-!
# Routes — the entries of a subscription

A subscription joins its credentials with the APIs of its registration. If
all that it names is there (`Complete`), each credential has an entry for
each reference to an API, credential by credential, with what the
registration says of the plan (`RouteEntry.ForCredential`), and exactly
these are stored. Otherwise the first piece that is missing or malformed is
the error, and nothing is stored (`SubscriptionFails`): a build for a
subscription gives entries only after everything is found.
-/

namespace ApiGateway

/-- **What an entry has of its subscription and credential**: the ids of
both, the plan of the registration, and the limits that the product has for
a plan of that name. -/
structure RouteEntry.ForCredential (u : Subscription) (product : Product) (c : Credential)
    (e : RouteEntry) : Prop where
  subscriptionId : e.subscriptionId = u.id
  clientId : e.clientId = c.clientId
  clientSecret : e.clientSecret = c.clientSecret
  planId : e.planId = u.planRegistration.plan.id
  planName : e.planName = u.planRegistration.plan.name
  limits : ∀ plan, OrderedMap.get? product.document.plans u.planRegistration.plan.name = some plan →
    e.rateLimits = plan.rateLimitList
  noLimits : OrderedMap.get? product.document.plans u.planRegistration.plan.name = none →
    e.rateLimits = []

namespace Route

open Outcome

variable {r : Records} {s : SnapshotId} {id : String} {err : BuildError}
  {entries : List RouteEntry}

/-- **All that a subscription names is there**, and the documents of its APIs
list their templates. The APIs are in the order of the registration's
references. -/
structure Complete (r : Records) (s : SnapshotId) (id : String) (u : Subscription) (p : Product)
    (c : Catalog) (apis : List (Api × ApiDocument.Listing)) : Prop where
  subscription : r.subscription? s id = some u
  placed : Placed r s u.planRegistration.product.id p c
  apis : List.Forall₂
    (fun ref a => Reconciled r s ref.document.info.name ref.document.info.version a.1 ∧
      a.1.document.Lists a.2) u.planRegistration.apis apis

/-- **Why a build for a subscription fails**: the first piece, in the order
in which they are looked up, that is missing or malformed. -/
inductive SubscriptionFails (r : Records) (s : SnapshotId) (id : String) : BuildError → Prop where
  | missing : r.subscription? s id = none →
      SubscriptionFails r s id (.subscriptionNotFound id)
  | placing {u : Subscription} {err : BuildError} : r.subscription? s id = some u →
      PlacingFails r s u.planRegistration.product.id err → SubscriptionFails r s id err
  | api {u : Subscription} {p : Product} {c : Catalog} {before after : List ApiRef} {ref : ApiRef}
      {err : BuildError} : r.subscription? s id = some u →
      Placed r s u.planRegistration.product.id p c →
      u.planRegistration.apis = before ++ ref :: after →
      (∀ ref' ∈ before, ∃ api listed,
        Reconciled r s ref'.document.info.name ref'.document.info.version api ∧
          api.document.Lists listed) →
      ApiFails r s ref.document.info.name ref.document.info.version err →
      SubscriptionFails r s id err

/-! ## What the build gives -/

theorem apiWithPaths_full_eq_ok {name version : String} {api : Api} {paths : List RoutePath} :
    apiWithPaths r s .full name version = .ok (api, paths) ↔
      ∃ listed, (Reconciled r s name version api ∧ api.document.Lists listed) ∧
        paths = listed.map (listedPath api.document) := by
  rw [apiWithPaths_eq_ok, findApi?_eq_some_iff, routePaths_full]
  constructor
  · rintro ⟨hapi, listed, hlists, rfl⟩
    exact ⟨listed, ⟨hapi, hlists⟩, rfl⟩
  · rintro ⟨listed, ⟨hapi, hlists⟩, rfl⟩
    exact ⟨hapi, listed, hlists, rfl⟩

/-- The entries of a subscription for its credentials and APIs. -/
def joined (s : SnapshotId) (u : Subscription) (p : Product) (c : Catalog)
    (apis : List (Api × ApiDocument.Listing)) : List RouteEntry :=
  (u.application.credentials.product apis).map fun ca =>
    entry s (subscriptionScope u p c) ca.1 ca.2.1 (ca.2.2.map (listedPath ca.2.1.document))

/-- **A build for a subscription gives the entries** of its credentials and
APIs, if all that it names is there. -/
theorem subscriptionEntries_eq_ok_iff : subscriptionEntries r s id = .ok entries ↔
    ∃ u p c apis, Complete r s id u p c apis ∧ entries = joined s u p c apis := by
  have hstep : ∀ (ref : ApiRef) (found : Api × List RoutePath),
      apiWithPaths r s .full ref.document.info.name ref.document.info.version = .ok found ↔
        ∃ a : Api × ApiDocument.Listing,
          (Reconciled r s ref.document.info.name ref.document.info.version a.1 ∧
            a.1.document.Lists a.2) ∧ (a.1, a.2.map (listedPath a.1.document)) = found := by
    rintro ref ⟨api, paths⟩
    rw [apiWithPaths_full_eq_ok]
    constructor
    · rintro ⟨listed, h, rfl⟩
      exact ⟨(api, listed), h, rfl⟩
    · rintro ⟨⟨api, listed⟩, h, ⟨⟩⟩
      exact ⟨listed, h, rfl⟩
  unfold subscriptionEntries
  simp only [bind_eq_ok, orError_eq_ok, pure_eq_ok, mapM_eq_ok_iff_exists hstep, joined,
    List.product, List.map_flatMap, List.map_map, Function.comp_def]
  constructor
  · rintro ⟨u, hu, ⟨p, c⟩, hpc, _, ⟨apis, hapis, rfl⟩, rfl⟩
    refine ⟨u, p, c, apis, ⟨hu, productAndCatalog_eq_ok_iff.1 hpc, hapis⟩, ?_⟩
    simp only [List.map_map, Function.comp_def]
  · rintro ⟨u, p, c, apis, ⟨hu, hpc, hapis⟩, rfl⟩
    refine ⟨u, hu, (p, c), productAndCatalog_eq_ok_iff.2 hpc, _, ⟨apis, hapis, rfl⟩, ?_⟩
    simp only [List.map_map, Function.comp_def]

/-- **A build for a subscription fails** at the first piece that is missing
or malformed. -/
theorem subscriptionEntries_eq_error_iff :
    subscriptionEntries r s id = .error err ↔ SubscriptionFails r s id err := by
  have hfound : ∀ ref : ApiRef,
      (∃ a, apiWithPaths r s .full ref.document.info.name ref.document.info.version = .ok a) ↔
        ∃ api listed, Reconciled r s ref.document.info.name ref.document.info.version api ∧
          api.document.Lists listed := by
    intro ref
    constructor
    · rintro ⟨⟨api, paths⟩, h⟩
      obtain ⟨listed, h, -⟩ := apiWithPaths_full_eq_ok.1 h
      exact ⟨api, listed, h⟩
    · rintro ⟨api, listed, h⟩
      exact ⟨_, apiWithPaths_full_eq_ok.2 ⟨listed, h, rfl⟩⟩
  unfold subscriptionEntries
  simp only [bind_eq_error, orError_eq_error, orError_eq_ok, productAndCatalog_eq_error_iff,
    mapM_eq_error_iff, apiWithPaths_eq_error_iff, hfound]
  constructor
  · rintro (⟨hnone, rfl⟩ | ⟨u, hu, herr | ⟨⟨p, c⟩, hpc, h⟩⟩)
    · exact .missing hnone
    · exact .placing hu herr
    · rcases h with ⟨before, ref, after, hsplit, hbefore, href⟩ | ⟨_, _, h⟩
      · exact .api hu (productAndCatalog_eq_ok_iff.1 hpc) hsplit hbefore href
      · cases h
  · rintro (hnone | ⟨hu, herr⟩ | ⟨hu, hpc, hsplit, hbefore, href⟩)
    · exact Or.inl ⟨hnone, rfl⟩
    · exact Or.inr ⟨_, hu, Or.inl herr⟩
    · exact Or.inr ⟨_, hu, Or.inr ⟨_, productAndCatalog_eq_ok_iff.2 hpc,
        Or.inl ⟨_, _, _, hsplit, hbefore, href⟩⟩⟩

/-- **The entries of a subscription**, credential by credential, and for each
API by API. -/
theorem forall₂_joined (s : SnapshotId) (u : Subscription) (p : Product) (c : Catalog)
    (apis : List (Api × ApiDocument.Listing)) :
    List.Forall₂ (fun ca e => e.Joins s p c ca.2.1 ca.2.2 ∧ e.ForCredential u p ca.1)
      (u.application.credentials.product apis) (joined s u p c apis) := by
  rw [joined, List.forall₂_map_right_iff]
  refine List.forall₂_same.2 fun ca _ => ⟨joins_entry s (subscriptionScope u p c) .., ?_⟩
  refine ⟨rfl, rfl, rfl, rfl, rfl, fun plan hplan => ?_, fun hnone => ?_⟩
  · simp only [entry, subscriptionScope, hplan]
  · simp only [entry, subscriptionScope, hnone]

/-! ## What handling the event does -/

theorem result_subscription (r : Records) (s : SnapshotId) (id : String) :
    (handle r (.subscription s id)).1.result = subscriptionEntries r s id := by
  change (buildSubscription r s id).result = _
  unfold buildSubscription
  cases subscriptionEntries r s id with
  | ok entries => rfl
  | error err => rfl

theorem handle_subscription_of_error (h : subscriptionEntries r s id = .error err) :
    (handle r (.subscription s id)).2 = r := by
  change putEntries r (buildSubscription r s id).entries = r
  unfold buildSubscription
  rw [h]
  rfl

/-- **What indexing a subscription does.** If all that it names is there, it
gives one entry for each credential and each reference to an API, credential
by credential, which joins the two with the plan, the product, the catalog
and the catalog's organization. Exactly these are stored, of those with one
key the last one, and handling the event again changes nothing. In every
other case it gives the error of the first piece that is missing or
malformed, and the records are as before. -/
theorem subscription_exact (r : Records) (s : SnapshotId) (id : String) :
    (∀ u p c apis, Complete r s id u p c apis →
      ∃ entries, (handle r (.subscription s id)).1.result = .ok entries ∧
        List.Forall₂ (fun ca e => e.Joins s p c ca.2.1 ca.2.2 ∧ e.ForCredential u p ca.1)
          (u.application.credentials.product apis) entries ∧
        Stores r entries (handle r (.subscription s id)).2 ∧
        handle (handle r (.subscription s id)).2 (.subscription s id) =
          handle r (.subscription s id)) ∧
    (∀ err, SubscriptionFails r s id err →
      (handle r (.subscription s id)).1.result = .error err ∧
        (handle r (.subscription s id)).2 = r) ∧
    ((∃ u p c apis, Complete r s id u p c apis) ∨ ∃ err, SubscriptionFails r s id err) := by
  refine ⟨fun u p c apis hall => ?_, fun err hfails => ?_, ?_⟩
  · have hok : (handle r (.subscription s id)).1.result = .ok (joined s u p c apis) := by
      rw [result_subscription]
      exact subscriptionEntries_eq_ok_iff.2 ⟨u, p, c, apis, hall, rfl⟩
    exact ⟨_, hok, forall₂_joined s u p c apis, stores_handle hok, handle_handle r _⟩
  · have herr := subscriptionEntries_eq_error_iff.2 hfails
    exact ⟨(result_subscription r s id).trans herr, handle_subscription_of_error herr⟩
  · cases hres : subscriptionEntries r s id with
    | ok entries =>
      obtain ⟨u, p, c, apis, hall, -⟩ := subscriptionEntries_eq_ok_iff.1 hres
      exact Or.inl ⟨u, p, c, apis, hall⟩
    | error err => exact Or.inr ⟨err, subscriptionEntries_eq_error_iff.1 hres⟩

/-- A subscription of two credentials to the API. -/
def twoCredentials : Subscription :=
  ⟨"u", ⟨"app", none, [⟨"first", none⟩, ⟨"second", some "secret"⟩]⟩,
    ⟨"r", ⟨"g", "gold", none⟩, ⟨"p"⟩, [⟨none, ⟨halfOpen.document.info⟩⟩]⟩⟩

/-- Both credentials have an entry with both operations. -/
theorem subscription_exact_of_twoCredentials : ∃ u p c apis entries,
    Complete ((offering ⟨1, by decide⟩ [climbs]).putSubscription ⟨1, by decide⟩ twoCredentials)
      ⟨1, by decide⟩ "u" u p c apis ∧
    (handle ((offering ⟨1, by decide⟩ [climbs]).putSubscription ⟨1, by decide⟩ twoCredentials)
      (.subscription ⟨1, by decide⟩ "u")).1.result = .ok entries ∧
    (entries.map fun e => (e.key, e.apiPaths.map fun p => (p.path, p.pathMethods.map (·.method)))) =
      [("u|first|a", [("/peaks", ["GET", "POST"])]),
        ("u|second|a", [("/peaks", ["GET", "POST"])])] ∧
    List.Forall₂ (fun ca e => e.Joins ⟨1, by decide⟩ p c ca.2.1 ca.2.2 ∧ e.ForCredential u p ca.1)
      (u.application.credentials.product apis) entries := by
  have hbuilt : subscriptionEntries
      ((offering ⟨1, by decide⟩ [climbs]).putSubscription ⟨1, by decide⟩ twoCredentials)
      ⟨1, by decide⟩ "u" =
      .ok (build ((offering ⟨1, by decide⟩ [climbs]).putSubscription ⟨1, by decide⟩ twoCredentials)
        (.subscription ⟨1, by decide⟩ "u")).entries := rfl
  obtain ⟨u, p, c, apis, hall, -⟩ := subscriptionEntries_eq_ok_iff.1 hbuilt
  obtain ⟨entries, hok, hentries, -⟩ := (subscription_exact _ _ _).1 u p c apis hall
  obtain rfl := Except.ok.inj (hok.symm.trans ((result_subscription _ _ _).trans hbuilt))
  exact ⟨u, p, c, apis, _, hall, hok, by decide +kernel, hentries⟩

end Route

end ApiGateway
