import ApiGateway.Proofs.Route.Joining
import ApiGateway.Proofs.Route.Stored
import ApiGateway.Proofs.Text.Cutting
/-!
# Routes — what indexing promises, and what is kept of it

Indexing a subscription promises an entry for each of its credentials and
each API of its registration, indexing a product one for each plan and
each API of the plan with an unsecured operation (`Promised`). Every
build that succeeds gives an entry for each of its promises
(`Promised.kept_by_build`), and no others (`exists_promised`).

But entries are stored under a key that joins three ids with a bar, and
one of them joins a product and a plan with a colon, so different
promises may have one key. Then the last entry under it stays
(`Handled.kept_iff`). `promises_exact` says when all is kept: ids without
these signs make keys of their own (`Plain.eq_of_key_eq`), and of two
promises of one kind with one key one is lost. In `promise_lost` that
happens.
-/

namespace ApiGateway

namespace Route

open Outcome

/-- **What indexing promises**: an entry for a credential of a
subscription and an API, or one for a plan of a product and an API. -/
inductive Promise where
  | credential (subscription client api : String)
  | offer (product plan api : String)
  deriving DecidableEq

namespace Promise

variable {p q : Promise} {e : RouteEntry}

def subscriptionId : Promise → String
  | credential subscription _ _ => subscription
  | offer product plan _ => "product:" ++ product ++ ":" ++ plan

def clientId : Promise → String
  | credential _ client _ => client
  | offer _ _ _ => defaultClientId

def apiId : Promise → String
  | credential _ _ api => api
  | offer _ _ api => api

/-- The key of an entry that keeps the promise. -/
def key (p : Promise) : String := p.subscriptionId ++ "|" ++ p.clientId ++ "|" ++ p.apiId

/-- What a caller presents to see such an entry: the client id of the
credential, or none. -/
def presented : Promise → Option String
  | credential _ client _ => some client
  | offer _ _ _ => none

/-- An entry is for the product and the plan of an offer. -/
def NamesOffer : Promise → RouteEntry → Prop
  | credential _ _ _, _ => True
  | offer product plan _, e => e.productId = product ∧ e.planName = plan

/-- **An entry keeps a promise** if it has its ids. -/
def KeptBy (p : Promise) (e : RouteEntry) : Prop :=
  e.subscriptionId = p.subscriptionId ∧ e.clientId = p.clientId ∧ e.apiId = p.apiId ∧
    p.NamesOffer e

instance (p : Promise) (e : RouteEntry) : Decidable (p.NamesOffer e) :=
  match p with
  | credential _ _ _ => inferInstanceAs (Decidable True)
  | offer _ _ _ => inferInstanceAs (Decidable (_ ∧ _))

instance (p : Promise) (e : RouteEntry) : Decidable (p.KeptBy e) :=
  inferInstanceAs (Decidable (_ ∧ _))

theorem KeptBy.key_eq (h : p.KeptBy e) : e.key = p.key := by
  obtain ⟨hsubscription, hclient, hapi, -⟩ := h
  rw [RouteEntry.key, key, hsubscription, hclient, hapi]

/-- **An entry keeps one promise of each kind**, for a credential and for
an offer. -/
theorem KeptBy.eq (hp : p.KeptBy e) (hq : q.KeptBy e)
    (hkind : p.presented.isSome = q.presented.isSome) : p = q := by
  obtain ⟨hsubscription, hclient, hapi, hoffer⟩ := hp
  obtain ⟨hsubscription', hclient', hapi', hoffer'⟩ := hq
  have hsub : p.subscriptionId = q.subscriptionId := hsubscription.symm.trans hsubscription'
  have hcl : p.clientId = q.clientId := hclient.symm.trans hclient'
  have hap : p.apiId = q.apiId := hapi.symm.trans hapi'
  cases p with
  | credential u c a =>
    cases q with
    | credential u' c' a' => exact congr (congr (congrArg credential hsub) hcl) hap
    | offer p' n' a' => cases hkind
  | offer p n a =>
    cases q with
    | credential u' c' a' => cases hkind
    | offer p' n' a' =>
      have hproduct : p = p' := hoffer.1.symm.trans hoffer'.1
      have hplan : n = n' := hoffer.2.symm.trans hoffer'.2
      exact congr (congr (congrArg offer hproduct) hplan) hap

theorem clientId_eq (p : Promise) : p.clientId = p.presented.getD defaultClientId := by
  cases p with
  | credential => rfl
  | offer => rfl

/-! ## Keys -/

/-- The ids of a promise have no sign that parts them in its key, and that
of a subscription is not of the form that offers have. -/
def Plain : Promise → Prop
  | credential subscription client _ =>
    '|' ∉ subscription.toList ∧ '|' ∉ client.toList ∧ ¬ "product:".toList <+: subscription.toList
  | offer product plan _ =>
    '|' ∉ product.toList ∧ '|' ∉ plan.toList ∧ ':' ∉ product.toList

instance (p : Promise) : Decidable p.Plain :=
  match p with
  | credential _ _ _ => inferInstanceAs (Decidable (_ ∧ _ ∧ _))
  | offer _ _ _ => inferInstanceAs (Decidable (_ ∧ _ ∧ _))

theorem toList_key (p : Promise) : p.key.toList =
    p.subscriptionId.toList ++ '|' :: (p.clientId.toList ++ '|' :: p.apiId.toList) := by
  simp [key, String.toList_append]

theorem toList_subscriptionId_offer (product plan api : String) :
    (offer product plan api).subscriptionId.toList =
      "product:".toList ++ (product.toList ++ ':' :: plan.toList) := by
  simp [subscriptionId, String.toList_append]

theorem Plain.not_mem (h : p.Plain) :
    '|' ∉ p.subscriptionId.toList ∧ '|' ∉ p.clientId.toList := by
  cases p with
  | credential subscription client api => exact ⟨h.1, h.2.1⟩
  | offer product plan api =>
    refine ⟨?_, show '|' ∉ defaultClientId.toList by decide⟩
    rw [toList_subscriptionId_offer]
    simp only [List.mem_append, List.mem_cons, not_or]
    exact ⟨by decide, h.1, by decide, h.2.1⟩

/-- No plain credential has the subscription id of an offer. -/
theorem Plain.subscriptionId_ne {subscription client api product plan api' : String}
    (h : (credential subscription client api).Plain) :
    subscription ≠ (offer product plan api').subscriptionId := by
  intro heq
  refine h.2.2 ?_
  rw [heq, toList_subscriptionId_offer]
  exact List.prefix_append _ _

/-- **Plain promises have keys of their own.** -/
theorem Plain.eq_of_key_eq (hp : p.Plain) (hq : q.Plain) (h : p.key = q.key) : p = q := by
  have hlist := congrArg String.toList h
  rw [toList_key, toList_key] at hlist
  -- the first bar ends the first id, and the next one the second
  obtain ⟨hsubscription, hlist⟩ := Text.append_sep_inj hp.not_mem.1 hq.not_mem.1 hlist
  obtain ⟨hclient, hapi⟩ := Text.append_sep_inj hp.not_mem.2 hq.not_mem.2 hlist
  rw [String.toList_inj] at hclient hapi
  cases p with
  | credential u c a =>
    rw [String.toList_inj] at hsubscription
    cases q with
    | credential u' c' a' => exact congr (congr (congrArg credential hsubscription) hclient) hapi
    | offer p' n' a' => exact absurd hsubscription hp.subscriptionId_ne
  | offer p n a =>
    cases q with
    | credential u' c' a' =>
      rw [String.toList_inj] at hsubscription
      exact absurd hsubscription.symm hq.subscriptionId_ne
    | offer p' n' a' =>
      -- within the first id the first colon ends the product
      rw [toList_subscriptionId_offer, toList_subscriptionId_offer,
        List.append_cancel_left_eq] at hsubscription
      obtain ⟨hproduct, hplan⟩ := Text.append_sep_inj hp.2.2 hq.2.2 hsubscription
      rw [String.toList_inj] at hproduct hplan
      exact congr (congr (congrArg offer hproduct) hplan) hapi

end Promise

/-! ## What a build keeps -/

variable {cs : List Records.Change} {r : Records} {s : SnapshotId} {event : IndexEvent}
  {p q : Promise} {e : RouteEntry}

/-- **What handling an event promises**, by the records it is handled
with. -/
inductive Promised (r : Records) (s : SnapshotId) : IndexEvent → Promise → Prop where
  | credential {id : String} {u : Subscription} {c : Credential} {ref : ApiRef} {api : Api} :
      r.subscription? s id = some u → c ∈ u.application.credentials →
      ref ∈ u.planRegistration.apis →
      r.findApi? s ref.document.info.name ref.document.info.version 0 = some api →
      Promised r s (.subscription s id) (.credential u.id c.clientId api.id)
  | offer {id name key : String} {product : Product} {plan : Plan} {ref : ProductApi} {api : Api} :
      r.product? s id = some product → (name, plan) ∈ product.document.plans →
      (key, ref) ∈ product.document.apis → plan.covers key = true →
      r.findApi? s ref.nameAndVersion.1 ref.nameAndVersion.2 0 = some api →
      HasUnsecured api.document →
      Promised r s (.product s id) (.offer product.id name api.id)

/-- **A build that succeeds keeps what it promises.** -/
theorem Promised.kept_by_build (h : Promised r s event p) (hok : (build r event).failure = none) :
    ∃ e ∈ (build r event).entries, e.snapshotId = s ∧ p.KeptBy e := by
  cases h with
  | @credential id u c ref api hu hc href hapi =>
    obtain ⟨u', product, catalog, hu', -, hfound, hmem⟩ :=
      subscriptionEntries_spec (subscriptionEntries_of_build hok)
    obtain rfl : u = u' := Option.some.inj (hu.symm.trans hu')
    -- the API that was promised is the one that was found
    obtain ⟨api', paths, hap⟩ := hfound ref href
    obtain rfl : api = api' := Option.some.inj (hapi.symm.trans (apiWithPaths_eq_ok.1 hap).1)
    have he := (hmem _).2 ⟨c, hc, ref, href, api, paths, hap, rfl⟩
    exact ⟨_, he, rfl, rfl, rfl, rfl, trivial⟩
  | @offer id name key product plan ref api hproduct hplan href hcovers hapi hun =>
    obtain ⟨product', catalog, hpc, hoffers⟩ := offerEntries_of_build hok
    obtain rfl : product = product' :=
      Option.some.inj (hproduct.symm.trans (productAndCatalog_eq_ok_iff.1 hpc).product)
    have hoffer : ((name, plan), ref) ∈ offers product := mem_offers.2 ⟨hplan, key, href, hcovers⟩
    obtain ⟨built, hb, hmem⟩ := exists_offerEntry (congrArg Prod.snd hoffers) hoffer
    obtain ⟨api', paths, hapi', hsome, hentry⟩ := offerEntry_eq_ok hb
    obtain rfl : api = api' := Option.some.inj (hapi.symm.trans hapi')
    -- it has an unsecured operation, so there is an entry
    obtain ⟨e, rfl⟩ := Option.isSome_iff_exists.1 (hsome.2 hun)
    have he := hmem e rfl
    rw [hoffers] at he
    obtain rfl := hentry e rfl
    exact ⟨_, he, rfl, rfl, rfl, rfl, rfl, rfl⟩

/-- **A build gives nothing else.** -/
theorem exists_promised (he : e ∈ (build r event).entries) :
    e.snapshotId = event.snapshot ∧ ∃ p, Promised r event.snapshot event p ∧ p.KeptBy e := by
  cases event with
  | subscription s id =>
    obtain ⟨entries, hok, he⟩ := mem_buildSubscription he
    obtain ⟨u, product, catalog, hu, -, -, hmem⟩ := subscriptionEntries_spec hok
    obtain ⟨c, hc, ref, href, api, paths, hap, rfl⟩ := (hmem e).1 he
    exact ⟨rfl, _, .credential hu hc href (apiWithPaths_eq_ok.1 hap).1, rfl, rfl, rfl, trivial⟩
  | product s id =>
    obtain ⟨⟨product, catalog⟩, hpc, ⟨⟨name, plan⟩, ref⟩, ho, hok⟩ := mem_buildProduct he
    obtain ⟨hplan, key, href, hcovers⟩ := mem_offers.1 ho
    obtain ⟨api, paths, hapi, hsome, hentry⟩ := offerEntry_eq_ok hok
    obtain rfl := hentry e rfl
    have hun : HasUnsecured api.document := hsome.1 rfl
    have hproduct := (productAndCatalog_eq_ok_iff.1 hpc).product
    exact ⟨rfl, _, .offer hproduct hplan href hcovers hapi hun, rfl, rfl, rfl, rfl, rfl⟩

/-! ## What is kept of it -/

/-- A caller who presents the client id of a promise sees an entry that
keeps it. -/
def Kept (r : Records) (s : SnapshotId) (p : Promise) : Prop :=
  ∃ e ∈ r.visibleEntries s p.presented, p.KeptBy e

instance (r : Records) (s : SnapshotId) (p : Promise) : Decidable (Kept r s p) :=
  inferInstanceAs (Decidable (∃ e ∈ _, _))

/-- A promise is kept if its key gives an entry that keeps it. -/
theorem Keyed.kept_iff (h : Keyed r.routeEntries) :
    Kept r s p ↔ ∃ e, r.routeEntries.get? s p.key = some e ∧ p.KeptBy e := by
  constructor
  · rintro ⟨e, he, hkept⟩
    have hget := (h.mem_visibleEntries.1 he).1
    rw [hkept.key_eq] at hget
    exact ⟨e, hget, hkept⟩
  · rintro ⟨e, hget, hkept⟩
    refine ⟨e, h.mem_visibleEntries.2 ⟨?_, ?_⟩, hkept⟩
    · rw [hkept.key_eq]
      exact hget
    · rw [← p.clientId_eq]
      exact hkept.2.1

variable {events : List IndexEvent}

/-- An event is among those handled, in the snapshot and with success. -/
def Handled (cs : List Records.Change) (events : List IndexEvent) (s : SnapshotId) (p : Promise) :
    Prop :=
  ∃ event ∈ events, (build (.after cs) event).failure = none ∧ Promised (.after cs) s event p

/-- The entries under the key of a promise that was made: there is a last
one. -/
theorem Handled.exists_lastUnder (h : Handled cs events s p) :
    ∃ e, lastUnder (builtBy (.after cs) events) s p.key = some e := by
  obtain ⟨event, hevent, hok, hp⟩ := h
  obtain ⟨e, he, hs, hkept⟩ := hp.kept_by_build hok
  have hbuilt : e ∈ builtBy (.after cs) events := List.mem_flatMap.2 ⟨event, hevent, he⟩
  have hlast := Route.exists_lastUnder hbuilt
  rwa [hs, hkept.key_eq] at hlast

/-- **A promise is kept exactly if the last entry under its key keeps
it.** -/
theorem Handled.kept_iff (h : Handled cs events s p) :
    Kept (.after (cs ++ events.map .indexed)) s p ↔
      ∃ e, lastUnder (builtBy (.after cs) events) s p.key = some e ∧ p.KeptBy e := by
  obtain ⟨last, hlast⟩ := h.exists_lastUnder
  rw [(keyed_after _).kept_iff, after_indexed, get?_putEntries, hlast, Option.some_or]

/-- **A promise with a key of its own is kept.** -/
theorem Handled.kept_of_unique (h : Handled cs events s p)
    (hunique : ∀ event ∈ events, ∀ q, Promised (.after cs) s event q → q.key = p.key → q = p) :
    Kept (.after (cs ++ events.map .indexed)) s p := by
  obtain ⟨last, hlast⟩ := h.exists_lastUnder
  refine h.kept_iff.2 ⟨last, hlast, ?_⟩
  -- the last entry was built for a promise with the same key
  obtain ⟨hmem, hs, hkey⟩ := mem_of_lastUnder hlast
  obtain ⟨event, hevent, he⟩ := List.mem_flatMap.1 hmem
  obtain ⟨hsnapshot, q, hq, hkept⟩ := exists_promised he
  rw [← hsnapshot, hs] at hq
  have hsame : q = p := hunique event hevent q hq (hkept.key_eq.symm.trans hkey)
  exact hsame ▸ hkept

/-- **Of two promises of one kind with one key one is lost**, whatever is
stored. -/
theorem not_kept_of_key_eq (h : Keyed r.routeEntries)
    (hkind : p.presented.isSome = q.presented.isSome) (hne : p ≠ q) (hkey : p.key = q.key) :
    ¬ (Kept r s p ∧ Kept r s q) := by
  rintro ⟨hp, hq⟩
  obtain ⟨e, he, hkept⟩ := h.kept_iff.1 hp
  obtain ⟨e', he', hkept'⟩ := h.kept_iff.1 hq
  rw [hkey, he'] at he
  obtain rfl := Option.some.inj he
  exact hne (hkept.eq hkept' hkind)

/-- **What is kept of all promises, exactly.** After events were handled
with success, in any order and whatever was stored before, a promise is
kept exactly if the last entry under its key keeps it. It is kept if no
other promise has its key, and so all are kept whose ids have no sign that
parts them in keys. Of two promises of one kind with one key one is
lost. -/
theorem promises_exact (cs : List Records.Change) (events : List IndexEvent) (s : SnapshotId)
    (hok : ∀ event ∈ events, (build (.after cs) event).failure = none) :
    (∀ event ∈ events, ∀ p, Promised (.after cs) s event p →
      (Kept (.after (cs ++ events.map .indexed)) s p ↔
        ∃ e, lastUnder (builtBy (.after cs) events) s p.key = some e ∧ p.KeptBy e)) ∧
    (∀ event ∈ events, ∀ p, Promised (.after cs) s event p →
      (∀ event ∈ events, ∀ q, Promised (.after cs) s event q → q.key = p.key → q = p) →
      Kept (.after (cs ++ events.map .indexed)) s p) ∧
    ((∀ event ∈ events, ∀ p, Promised (.after cs) s event p → p.Plain) →
      ∀ event ∈ events, ∀ p, Promised (.after cs) s event p →
        Kept (.after (cs ++ events.map .indexed)) s p) ∧
    ∀ p q : Promise, p.presented.isSome = q.presented.isSome → p ≠ q → p.key = q.key →
      ¬ (Kept (.after (cs ++ events.map .indexed)) s p ∧
        Kept (.after (cs ++ events.map .indexed)) s q) := by
  have hhandled : ∀ event ∈ events, ∀ p, Promised (.after cs) s event p → Handled cs events s p :=
    fun event hevent p hp => ⟨event, hevent, hok event hevent, hp⟩
  refine ⟨?_, ?_, ?_, ?_⟩
  · intro event hevent p hp
    exact (hhandled event hevent p hp).kept_iff
  · intro event hevent p hp hunique
    exact (hhandled event hevent p hp).kept_of_unique hunique
  · intro hplain event hevent p hp
    refine (hhandled event hevent p hp).kept_of_unique fun event' hevent' q hq hkey => ?_
    exact (hplain event' hevent' q hq).eq_of_key_eq (hplain event hevent p hp) hkey
  · intro p q hkind hne hkey
    exact not_kept_of_key_eq (keyed_after _) hkind hne hkey

/-! ## A promise lost -/

/-- An API that two subscriptions are for. -/
def sharedApi : Api := ⟨"x", { ApiDocument.blank with info := ⟨none, "1.0.0", "climbs"⟩ }⟩

def sharedRef : ApiRef := ⟨none, ⟨sharedApi.document.info⟩⟩

/-- A subscription to it of one credential. -/
def sharing (id client : String) : Subscription :=
  ⟨id, ⟨"app", none, [⟨client, none⟩]⟩, ⟨"r", ⟨"g", "gold", none⟩, ⟨"p"⟩, [sharedRef]⟩⟩

/-- Two subscriptions to the API whose ids and client ids are the same
once a bar joins them. -/
def joinedAlike (s : SnapshotId) : List Records.Change :=
  [.catalog s ⟨"c", "sandbox", none, ⟨"o", "acme"⟩⟩, .api s sharedApi,
    .product s ⟨"p", ⟨"c", ""⟩, .blank⟩,
    .subscription s (sharing "a|b" "c"), .subscription s (sharing "a" "b|c")]

/-- Indexing the first one promises an entry for its credential. -/
theorem promised_joinedAlike :
    Promised (.after (joinedAlike ⟨1, by decide⟩)) ⟨1, by decide⟩
      (.subscription ⟨1, by decide⟩ "a|b") (.credential "a|b" "c" "x") := by
  have hu : (Records.after (joinedAlike ⟨1, by decide⟩)).subscription? ⟨1, by decide⟩ "a|b" =
      some (sharing "a|b" "c") := rfl
  have hapi : (Records.after (joinedAlike ⟨1, by decide⟩)).findApi? ⟨1, by decide⟩
      sharedRef.document.info.name sharedRef.document.info.version 0 = some sharedApi := rfl
  have hc : ⟨"c", none⟩ ∈ (sharing "a|b" "c").application.credentials := List.mem_cons_self
  exact .credential hu hc List.mem_cons_self hapi

/-- Indexed alone, the first subscription has its entry. -/
theorem promise_kept_alone :
    (∀ event ∈ [IndexEvent.subscription ⟨1, by decide⟩ "a|b"],
      (build (.after (joinedAlike ⟨1, by decide⟩)) event).failure = none) ∧
    Kept (.after (joinedAlike ⟨1, by decide⟩ ++
      [IndexEvent.subscription ⟨1, by decide⟩ "a|b"].map .indexed)) ⟨1, by decide⟩
      (.credential "a|b" "c" "x") := by
  have hok : ∀ event ∈ [IndexEvent.subscription ⟨1, by decide⟩ "a|b"],
      (build (.after (joinedAlike ⟨1, by decide⟩)) event).failure = none := by
    intro event hevent
    rw [List.mem_singleton.1 hevent]
    rfl
  obtain ⟨hkept, -⟩ := promises_exact (joinedAlike ⟨1, by decide⟩)
    [.subscription ⟨1, by decide⟩ "a|b"] ⟨1, by decide⟩ hok
  refine ⟨hok, (hkept _ List.mem_cons_self _ promised_joinedAlike).2 ⟨_, rfl, ?_⟩⟩
  decide +kernel

/-- Once the second is indexed as well, it has none, though both builds
succeed. -/
theorem promise_lost :
    (build (.after (joinedAlike ⟨1, by decide⟩)) (.subscription ⟨1, by decide⟩ "a|b")).failure =
      none ∧
    (build (.after (joinedAlike ⟨1, by decide⟩)) (.subscription ⟨1, by decide⟩ "a")).failure =
      none ∧
    Promised (.after (joinedAlike ⟨1, by decide⟩)) ⟨1, by decide⟩
      (.subscription ⟨1, by decide⟩ "a|b") (.credential "a|b" "c" "x") ∧
    ¬ Kept (.after (joinedAlike ⟨1, by decide⟩ ++ [.indexed (.subscription ⟨1, by decide⟩ "a|b"),
      .indexed (.subscription ⟨1, by decide⟩ "a")])) ⟨1, by decide⟩ (.credential "a|b" "c" "x") := by
  refine ⟨rfl, rfl, promised_joinedAlike, ?_⟩
  decide +kernel

end Route

end ApiGateway
