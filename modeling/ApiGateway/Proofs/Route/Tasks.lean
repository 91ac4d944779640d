import ApiGateway.Proofs.Route.Stored
/-!
# Routes — an event handled one access at a time

`Route.handle` handles an event at once. In truth it is a sequence of
accesses to the store, and others come between them: records are looked
up one by one, and entries are stored one by one. A `Task` is what is left
to do for an event. It asks a question and goes on with the answer, or
stores an entry and goes on, or it is done.

An API is looked up by name and version, and the first one found is
taken. In which order the APIs of a snapshot are gone through is not
fixed, so the answer is any one of those that match
(`Records.answer?`), and it is settled only where no two do
(`answer?_of_length_le`).

A task that is left alone stores what the build for its event gives
(`entries_ofEvent`). Whatever the answers are, it asks for nothing but the
record of its event and what that refers to (`asksOnly_ofEvent`), and it
stores entries of the snapshot for APIs that it was given
(`grounded_ofEvent`).
-/

namespace ApiGateway

/-- A question to the records of one snapshot. -/
inductive Query where
  | subscription (id : String)
  | product (id : String)
  | catalog (id : String)
  | api (name version : String)
  deriving DecidableEq

/-- The kind of record that answers a question. -/
def Query.Answer : Query → Type
  | subscription _ => Subscription
  | product _ => Product
  | catalog _ => Catalog
  | api .. => Api

/-- The records of a snapshot that answer a question. -/
def Records.answers (r : Records) (s : SnapshotId) : (q : Query) → List q.Answer
  | .subscription id => (r.subscription? s id).toList
  | .product id => (r.product? s id).toList
  | .catalog id => (r.catalog? s id).toList
  | .api name version => r.apis.matching s (bears name version)

/-- One of the records that answer a question, if there are any. -/
def Records.answer? (r : Records) (s : SnapshotId) (q : Query) (pick : Nat) : Option q.Answer :=
  (r.answers s q)[pick % (r.answers s q).length]?

/-- What is left to do for an event. -/
inductive Task where
  | done
  | ask (q : Query) (next : Option q.Answer → Task)
  | store (e : RouteEntry) (next : Task)

namespace Task

/-! ## The task of an event -/

/-- Entries are stored one by one. -/
def storeAll : List RouteEntry → Task
  | [] => done
  | e :: es => store e (storeAll es)

/-- An API is looked up by name and version, and its templates are gone
through. -/
def findApi (access : Route.Access) (name version : String) (next : Api → List RoutePath → Task) :
    Task :=
  ask (.api name version) fun
    | none => done
    | some api =>
      match Route.routePaths access api.document with
      | .error _ => done
      | .ok paths => next api paths

/-- The APIs of a registration are looked up one by one, and nothing is
done unless every one is found. -/
def findAll : List ApiRef → (List (Api × List RoutePath) → Task) → Task
  | [], next => next []
  | ref :: refs, next =>
    findApi .full ref.document.info.name ref.document.info.version fun api paths =>
      findAll refs fun apis => next ((api, paths) :: apis)

/-- A product and its catalog are looked up. -/
def findProduct (id : String) (next : Product → Catalog → Task) : Task :=
  ask (.product id) fun
    | none => done
    | some product =>
      ask (.catalog product.catalog.id) fun
        | none => done
        | some catalog => next product catalog

/-- The offers of a product are gone through, up to the first whose API is
not found. -/
def ofOffers (s : SnapshotId) (product : Product) (catalog : Catalog) :
    List ((String × Plan) × ProductApi) → Task
  | [] => done
  | o :: os =>
    findApi .unsecuredOnly o.2.nameAndVersion.1 o.2.nameAndVersion.2 fun api paths =>
      if paths = [] then ofOffers s product catalog os
      else
        store
          (Route.entry s (Route.planScope product catalog o.1.1 o.1.2) Route.defaultCredential api
            paths)
          (ofOffers s product catalog os)

/-- The entries of a subscription, credential by credential. -/
def subscriptionEntries (s : SnapshotId) (u : Subscription) (product : Product)
    (catalog : Catalog) (apis : List (Api × List RoutePath)) : List RouteEntry :=
  u.application.credentials.flatMap fun c =>
    apis.map fun a => Route.entry s (Route.subscriptionScope u product catalog) c a.1 a.2

/-- Everything that is to be done for an event. -/
def ofEvent : IndexEvent → Task
  | .subscription s id =>
    ask (.subscription id) fun
      | none => done
      | some u =>
        findProduct u.planRegistration.product.id fun product catalog =>
          findAll u.planRegistration.apis fun apis =>
            storeAll (subscriptionEntries s u product catalog apis)
  | .product s id =>
    findProduct id fun product catalog => ofOffers s product catalog (Route.offers product)

/-! ## A task that is left alone -/

/-- The entries that a task stores if the records of its snapshot stay as
they are, and the first answer is taken. -/
def entries (r : Records) (s : SnapshotId) : Task → List RouteEntry
  | done => []
  | ask q next => (next (r.answer? s q 0)).entries r s
  | store e next => e :: next.entries r s

end Task

/-! ## What questions are answered with -/

namespace Records

variable {r r' : Records} {s : SnapshotId}

/-- A lookup by id has one answer at most. -/
theorem toList_pick {α : Type} (o : Option α) (pick : Nat) :
    o.toList[pick % o.toList.length]? = o := by
  cases o with
  | none => rfl
  | some a => simp [Nat.mod_one]

theorem answer?_subscription (r : Records) (s : SnapshotId) (id : String) (pick : Nat) :
    r.answer? s (.subscription id) pick = r.subscription? s id := toList_pick _ pick

theorem answer?_product (r : Records) (s : SnapshotId) (id : String) (pick : Nat) :
    r.answer? s (.product id) pick = r.product? s id := toList_pick _ pick

theorem answer?_catalog (r : Records) (s : SnapshotId) (id : String) (pick : Nat) :
    r.answer? s (.catalog id) pick = r.catalog? s id := toList_pick _ pick

/-- **An answer for a name and a version** is an API that is found for
them. -/
theorem answer?_api (r : Records) (s : SnapshotId) (name version : String) (pick : Nat) :
    r.answer? s (.api name version) pick = r.findApi? s name version pick := rfl

/-- An API that is an answer is stored for the snapshot. -/
theorem mem_of_answer?_api {name version : String} {pick : Nat} {api : Api}
    (h : r.answer? s (.api name version) pick = some api) : ∃ id, ((s, id), api) ∈ r.apis := by
  obtain ⟨id, hmem, -⟩ := Collection.mem_of_find? (r.answer?_api s name version pick ▸ h)
  exact ⟨id, hmem⟩

/-- **Where no two records answer, it does not matter which is taken.** -/
theorem answer?_of_length_le {q : Query} (h : (r.answers s q).length ≤ 1) (pick pick' : Nat) :
    r.answer? s q pick = r.answer? s q pick' := by
  rw [answer?, answer?]
  match hl : (r.answers s q).length, h with
  | 0, _ => simp [List.length_eq_zero_iff.1 hl]
  | 1, _ => rw [Nat.mod_one, Nat.mod_one]

theorem answer?_congr {q : Query} (h : r.answers s q = r'.answers s q) (pick : Nat) :
    r.answer? s q pick = r'.answer? s q pick := by
  rw [answer?, answer?, h]

/-- Route entries are not asked for. -/
theorem answers_putEntries (r : Records) (es : List RouteEntry) (s : SnapshotId) (q : Query) :
    (Route.putEntries r es).answers s q = r.answers s q := by
  induction es generalizing r with
  | nil => rfl
  | cons e es ih => exact (ih (r.putRouteEntry e)).trans (by cases q <;> rfl)

end Records

namespace Task

open Route Outcome

variable {r : Records} {s : SnapshotId}

/-! ## A task and a build -/

@[simp] theorem entries_done : done.entries r s = [] := rfl

@[simp] theorem entries_ask (q : Query) (next : Option q.Answer → Task) :
    (ask q next).entries r s = (next (r.answer? s q 0)).entries r s := rfl

@[simp] theorem entries_store (e : RouteEntry) (next : Task) :
    (store e next).entries r s = e :: next.entries r s := rfl

@[simp] theorem entries_storeAll (es : List RouteEntry) : (storeAll es).entries r s = es := by
  induction es with
  | nil => rfl
  | cons e es ih => rw [storeAll, entries_store, ih]

/-- What comes after a product and its catalog were looked up. -/
theorem entries_findProduct (id : String) (next : Product → Catalog → Task) :
    (findProduct id next).entries r s =
      match productAndCatalog r s id with
      | .error _ => []
      | .ok (product, catalog) => (next product catalog).entries r s := by
  rw [findProduct, entries_ask, Records.answer?_product]
  unfold productAndCatalog
  cases r.product? s id with
  | none => rfl
  | some product =>
    change (ask (.catalog product.catalog.id) _).entries r s = _
    rw [entries_ask, Records.answer?_catalog]
    cases hc : r.catalog? s product.catalog.id with
    | none => simp [orError, hc, bind, Except.bind]
    | some catalog => simp [orError, hc, bind, Except.bind, pure, Except.pure]

/-- What comes after an API was looked up. -/
theorem entries_findApi (access : Access) (name version : String)
    (next : Api → List RoutePath → Task) :
    (findApi access name version next).entries r s =
      match apiWithPaths r s access name version with
      | .error _ => []
      | .ok (api, paths) => (next api paths).entries r s := by
  rw [findApi, entries_ask, Records.answer?_api]
  unfold apiWithPaths
  cases r.findApi? s name version 0 with
  | none => rfl
  | some api =>
    cases hp : routePaths access api.document with
    | error err => simp [orError, hp, bind, Except.bind]
    | ok paths => simp [orError, hp, bind, Except.bind, pure, Except.pure]

/-- What comes after the APIs of a registration were looked up. -/
theorem entries_findAll (refs : List ApiRef) (next : List (Api × List RoutePath) → Task) :
    (findAll refs next).entries r s =
      match refs.mapM fun a =>
        apiWithPaths r s .full a.document.info.name a.document.info.version with
      | .error _ => []
      | .ok apis => (next apis).entries r s := by
  induction refs generalizing next with
  | nil => rfl
  | cons ref refs ih =>
    rw [findAll, entries_findApi, List.mapM_cons]
    cases apiWithPaths r s .full ref.document.info.name ref.document.info.version with
    | error err => rfl
    | ok a =>
      dsimp only
      rw [ih]
      cases refs.mapM fun a =>
        apiWithPaths r s .full a.document.info.name a.document.info.version <;> rfl

/-- The offers give their entries up to the first that fails. -/
theorem entries_ofOffers (product : Product) (catalog : Catalog)
    (os : List ((String × Plan) × ProductApi)) :
    (ofOffers s product catalog os).entries r s = (offerEntries r s product catalog os).1 := by
  induction os with
  | nil => rfl
  | cons o os ih =>
    rw [ofOffers, entries_findApi, offerEntries, offerEntry]
    cases ha : apiWithPaths r s .unsecuredOnly o.2.nameAndVersion.1 o.2.nameAndVersion.2 with
    | error err => simp [ha, bind, Except.bind]
    | ok a =>
      by_cases hnil : a.2 = []
      · simp [ha, hnil, ih, bind, Except.bind, pure, Except.pure]
      · simp [ha, hnil, ih, bind, Except.bind, pure, Except.pure]

/-- **A task that is left alone stores what is built for its event.** -/
theorem entries_ofEvent (r : Records) (e : IndexEvent) :
    (ofEvent e).entries r e.snapshot = (build r e).entries := by
  cases e with
  | subscription s id =>
    rw [ofEvent, IndexEvent.snapshot, entries_ask, Records.answer?_subscription, build,
      buildSubscription, Route.subscriptionEntries]
    cases r.subscription? s id with
    | none => rfl
    | some u =>
      change (findProduct u.planRegistration.product.id _).entries r s = _
      rw [entries_findProduct]
      cases hpc : productAndCatalog r s u.planRegistration.product.id with
      | error err => simp [orError, hpc, bind, Except.bind]
      | ok pc =>
        dsimp only
        rw [entries_findAll]
        cases ha : u.planRegistration.apis.mapM fun a =>
            apiWithPaths r s .full a.document.info.name a.document.info.version with
        | error err => simp [orError, hpc, ha, bind, Except.bind]
        | ok apis =>
          simp [orError, hpc, ha, bind, Except.bind, pure, Except.pure, subscriptionEntries]
  | product s id =>
    rw [ofEvent, IndexEvent.snapshot, entries_findProduct, build, buildProduct]
    cases productAndCatalog r s id with
    | error err => rfl
    | ok pc => exact entries_ofOffers pc.1 pc.2 (offers pc.1)

/-! ## What a task asks for -/

/-- Whatever the answers are, a task asks no other questions than these. -/
inductive AsksOnly (allowed : Query → Prop) : Task → Prop where
  | done : AsksOnly allowed done
  | ask {q : Query} {next : Option q.Answer → Task} :
      allowed q → (∀ a, AsksOnly allowed (next a)) → AsksOnly allowed (ask q next)
  | store {e : RouteEntry} {next : Task} : AsksOnly allowed next → AsksOnly allowed (store e next)

section

variable {allowed : Query → Prop}

theorem asksOnly_storeAll (es : List RouteEntry) : AsksOnly allowed (storeAll es) := by
  induction es with
  | nil => exact .done
  | cons e es ih => exact .store ih

theorem asksOnly_findApi {access : Access} {name version : String}
    {next : Api → List RoutePath → Task} (hq : allowed (.api name version))
    (h : ∀ api paths, AsksOnly allowed (next api paths)) :
    AsksOnly allowed (findApi access name version next) := by
  refine .ask hq fun a => ?_
  cases a with
  | none => exact .done
  | some api =>
    dsimp only
    split
    · exact .done
    · exact h _ _

theorem asksOnly_findAll {refs : List ApiRef} {next : List (Api × List RoutePath) → Task}
    (hq : ∀ name version, allowed (.api name version)) (h : ∀ apis, AsksOnly allowed (next apis)) :
    AsksOnly allowed (findAll refs next) := by
  induction refs generalizing next with
  | nil => exact h []
  | cons ref refs ih => exact asksOnly_findApi (hq _ _) fun _ _ => ih fun _ => h _

theorem asksOnly_findProduct {id : String} {next : Product → Catalog → Task}
    (hp : allowed (.product id)) (hc : ∀ id, allowed (.catalog id))
    (h : ∀ product catalog, AsksOnly allowed (next product catalog)) :
    AsksOnly allowed (findProduct id next) := by
  refine .ask hp fun a => ?_
  cases a with
  | none => exact .done
  | some product =>
    refine .ask (hc _) fun a => ?_
    cases a with
    | none => exact .done
    | some catalog => exact h product catalog

theorem asksOnly_ofOffers (product : Product) (catalog : Catalog)
    {os : List ((String × Plan) × ProductApi)} (hq : ∀ name version, allowed (.api name version)) :
    AsksOnly allowed (ofOffers s product catalog os) := by
  induction os with
  | nil => exact .done
  | cons o os ih =>
    refine asksOnly_findApi (hq _ _) fun api paths => ?_
    split
    · exact ih
    · exact .store ih

end

end Task

/-- The questions that the handling of an event may come to: for the record
that was announced, and for what such a record refers to. -/
def IndexEvent.Concerns : IndexEvent → Query → Prop
  | .subscription _ id, .subscription id' => id' = id
  | .product _ id, .product id' => id' = id
  | .product .., .subscription _ => False
  | _, _ => True

namespace Task

open Route

variable {s : SnapshotId}

/-- **What the handling of an event asks for**, whatever the answers
are. -/
theorem asksOnly_ofEvent (e : IndexEvent) : AsksOnly e.Concerns (ofEvent e) := by
  cases e with
  | subscription s id =>
    refine .ask rfl fun a => ?_
    cases a with
    | none => exact .done
    | some u =>
      refine asksOnly_findProduct trivial (fun _ => trivial) fun product catalog => ?_
      exact asksOnly_findAll (fun _ _ => trivial) fun apis => asksOnly_storeAll _
  | product s id =>
    refine asksOnly_findProduct rfl (fun _ => trivial) fun product catalog => ?_
    exact asksOnly_ofOffers product catalog fun _ _ => trivial

/-! ## What a task stores -/

/-- The ids of the APIs that an answer gives. -/
def given : (q : Query) → Option q.Answer → List String
  | .api .., some api => [api.id]
  | _, _ => []

/-- Whatever the answers are, a task stores entries of this snapshot only,
for APIs that are known or that it was given as an answer. -/
inductive Grounded (s : SnapshotId) : List String → Task → Prop where
  | done {known : List String} : Grounded s known done
  | ask {known : List String} {q : Query} {next : Option q.Answer → Task} :
      (∀ a, Grounded s (given q a ++ known) (next a)) → Grounded s known (ask q next)
  | store {known : List String} {e : RouteEntry} {next : Task} :
      e.snapshotId = s → e.apiId ∈ known → Grounded s known next → Grounded s known (store e next)

theorem grounded_storeAll {known : List String} {es : List RouteEntry}
    (h : ∀ e ∈ es, e.snapshotId = s ∧ e.apiId ∈ known) : Grounded s known (storeAll es) := by
  induction es with
  | nil => exact .done
  | cons e es ih =>
    obtain ⟨hs, ha⟩ := h e List.mem_cons_self
    exact .store hs ha (ih fun e' he' => h e' (List.mem_cons_of_mem _ he'))

theorem grounded_findApi {known : List String} {access : Access} {name version : String}
    {next : Api → List RoutePath → Task}
    (h : ∀ api paths, Grounded s (api.id :: known) (next api paths)) :
    Grounded s known (findApi access name version next) := by
  refine .ask fun a => ?_
  cases a with
  | none => exact .done
  | some api =>
    dsimp only
    split
    · exact .done
    · exact h _ _

theorem grounded_findAll {refs : List ApiRef} {known : List String}
    {next : List (Api × List RoutePath) → Task}
    (h : ∀ more apis, (∀ a ∈ apis, a.1.id ∈ more ++ known) →
      Grounded s (more ++ known) (next apis)) :
    Grounded s known (findAll refs next) := by
  induction refs generalizing known next with
  | nil => exact h [] [] fun _ ha => absurd ha List.not_mem_nil
  | cons ref refs ih =>
    refine grounded_findApi fun api paths => ih fun more apis happs => ?_
    -- the API that was found first is known from here on
    have hcons : more ++ api.id :: known = (more ++ [api.id]) ++ known := by simp
    rw [hcons] at happs ⊢
    refine h _ _ fun a ha => ?_
    rcases List.mem_cons.1 ha with rfl | ha
    · simp
    · exact happs a ha

theorem grounded_findProduct {known : List String} {id : String} {next : Product → Catalog → Task}
    (h : ∀ product catalog, Grounded s known (next product catalog)) :
    Grounded s known (findProduct id next) := by
  refine .ask fun a => ?_
  cases a with
  | none => exact .done
  | some product =>
    refine .ask fun a => ?_
    cases a with
    | none => exact .done
    | some catalog => exact h product catalog

theorem grounded_ofOffers (product : Product) (catalog : Catalog) {known : List String}
    {os : List ((String × Plan) × ProductApi)} :
    Grounded s known (ofOffers s product catalog os) := by
  induction os generalizing known with
  | nil => exact .done
  | cons o os ih =>
    refine grounded_findApi fun api paths => ?_
    split
    · exact ih
    · exact .store rfl List.mem_cons_self ih

/-- **What the handling of an event stores**, whatever the answers are:
entries of the event's snapshot, for APIs that were found. -/
theorem grounded_ofEvent (e : IndexEvent) : Grounded e.snapshot [] (ofEvent e) := by
  cases e with
  | subscription s id =>
    refine .ask fun a => ?_
    cases a with
    | none => exact .done
    | some u =>
      refine grounded_findProduct fun product catalog => grounded_findAll fun more apis happs => ?_
      refine grounded_storeAll fun e he => ?_
      obtain ⟨c, -, he⟩ := List.mem_flatMap.1 he
      obtain ⟨a, ha, rfl⟩ := List.mem_map.1 he
      exact ⟨rfl, happs a ha⟩
  | product s id => exact grounded_findProduct fun product catalog => grounded_ofOffers _ _

end Task

end ApiGateway
