import ApiGateway.Proofs.Route.Selection
import ApiGateway.Proofs.Route.Stored
/-!
# Routes — what callers without a client id reach

Such callers see the entries under the reserved client id. The entries
of products are stored under it and have unsecured operations only; but
a credential of a subscription may bear that client id as well, and the
entries for it have all operations. So an operation that these callers
reach is unsecured, or belongs to such a subscription
(`anonymous_exact`); and each such subscription that is indexed is seen
by them, secured operations and all. `anonymous_reaches_secured` is a
case where they reach one.
-/

namespace ApiGateway

namespace Route

variable {cs : List Records.Change} {r : Records} {s : SnapshotId} {e : RouteEntry}

/-- An operation that a template has comes from an API put into the
snapshot. -/
def FromApi (cs : List Records.Change) (s : SnapshotId) (template : String) (m : MethodEntry) :
    Prop :=
  ∃ api method o, .api s api ∈ cs ∧ api.document.Declares template method o ∧
    m = methodEntry api.document method o

/-- An entry is that of a subscription put into the snapshot, for a
credential under the client id of callers who present none. -/
def UnderReservedId (cs : List Records.Change) (s : SnapshotId) (e : RouteEntry) : Prop :=
  ∃ u c, .subscription s u ∈ cs ∧ c ∈ u.application.credentials ∧ c.clientId = defaultClientId ∧
    e.subscriptionId = u.id ∧ e.clientSecret = c.clientSecret

/-! ## What is visible -/

theorem OfPlan.operation (h : OfPlan cs s e) {p : RoutePath} (hp : p ∈ e.apiPaths)
    {m : MethodEntry} (hm : m ∈ p.pathMethods) : FromApi cs s p.path m ∧ m.isUnsecured = true := by
  cases h with
  | intro _ _ hapi hpaths =>
    obtain ⟨⟨method, o, hd, rfl⟩, hun⟩ := declares_of_routePaths hpaths hp hm
    exact ⟨⟨_, method, o, hapi, hd, rfl⟩, hun rfl⟩

theorem OfSubscription.operation (h : OfSubscription cs s e) {p : RoutePath}
    (hp : p ∈ e.apiPaths) {m : MethodEntry} (hm : m ∈ p.pathMethods) : FromApi cs s p.path m := by
  cases h with
  | intro _ _ _ _ hapi hpaths =>
    obtain ⟨⟨method, o, hd, rfl⟩, -⟩ := declares_of_routePaths hpaths hp hm
    exact ⟨_, method, o, hapi, hd, rfl⟩

theorem OfSubscription.underReservedId (h : OfSubscription cs s e)
    (hid : e.clientId = defaultClientId) : UnderReservedId cs s e := by
  cases h with
  | @intro u c _ _ _ _ hu hc _ _ _ _ => exact ⟨u, c, hu, hc, hid, rfl, rfl⟩

/-- The entries of a subscription have every operation of an API. -/
theorem OfSubscription.full (h : OfSubscription cs s e) :
    ∃ api, .api s api ∈ cs ∧ routePaths .full api.document = .ok e.apiPaths := by
  cases h with
  | intro _ _ _ _ hapi hpaths => exact ⟨_, hapi, hpaths⟩

/-- The operations of an entry under the reserved client id come from an
API, and are unsecured unless the entry is that of a subscription. -/
theorem Origin.operation (h : Origin cs s e) (hid : e.clientId = defaultClientId) {p : RoutePath}
    (hp : p ∈ e.apiPaths) {m : MethodEntry} (hm : m ∈ p.pathMethods) :
    FromApi cs s p.path m ∧ (m.isUnsecured = true ∨ UnderReservedId cs s e) := by
  rcases h with h | h
  · exact (h.operation hp hm).imp_right Or.inl
  · exact ⟨h.operation hp hm, Or.inr (h.underReservedId hid)⟩

/-! ## What is stored last stays -/

/-- The last entry of its key is among the stored ones. -/
theorem mem_putEntries {before later : List RouteEntry} (h : ∀ e' ∈ later, e'.key ≠ e.key) :
    ((e.snapshotId, e.key), e) ∈ (putEntries r (before ++ e :: later)).routeEntries := by
  have hget := get?_putEntries r (before ++ e :: later) e.snapshotId e.key
  rw [lastUnder_append_cons h, Option.some_or] at hget
  exact Collection.mem_of_get? hget

/-- **A subscription that is indexed is seen under the reserved id**, with
all operations of its APIs: an entry for a credential under that id is
visible to callers who present none, unless one of its key is stored
after it. -/
theorem mem_visibleEntries_indexed {id : String} {before later : List RouteEntry}
    (hok : subscriptionEntries (.after cs) s id = .ok (before ++ e :: later))
    (hid : e.clientId = defaultClientId) (hlast : ∀ e' ∈ later, e'.key ≠ e.key) :
    e ∈ (Records.after (cs ++ [.indexed (.subscription s id)])).visibleEntries s none ∧
      ∃ api, .api s api ∈ cs ∧ routePaths .full api.document = .ok e.apiPaths := by
  -- handling the event stores what was built, and nothing else
  have hstored : Records.after (cs ++ [.indexed (.subscription s id)]) =
      putEntries (.after cs) (before ++ e :: later) := by
    rw [Records.after, List.foldl_append]
    change putEntries (.after cs) (buildSubscription (.after cs) s id).entries = _
    rw [buildSubscription, hok]
  have horigin : OfSubscription cs s e := (traced_after cs).subscriptionEntries hok (by simp)
  have hmem : ((e.snapshotId, e.key), e) ∈
      (putEntries (.after cs) (before ++ e :: later)).routeEntries := mem_putEntries hlast
  rw [← hstored, horigin.snapshotId_eq] at hmem
  exact ⟨mem_visibleEntries.2 ⟨e.key, hmem, hid⟩, horigin.full⟩

/-- An operation that callers without a client id reach comes from an
API, and is unsecured unless a subscription brought it under the
reserved client id. -/
theorem operation_of_find {read : PatternReader} {method target : String} {c : Candidate}
    (hc : c ∈ Candidate.find method target ((Records.after cs).visibleEntries s none) read)
    {m : MethodEntry} (hm : c.method = some m) :
    FromApi cs s c.path.path m ∧ (m.isUnsecured = true ∨ UnderReservedId cs s c.entry) := by
  obtain ⟨he, hp, hmethod⟩ := Candidate.mem_find hc
  obtain ⟨key, hmem, hid⟩ := mem_visibleEntries.1 he
  exact ((traced_after cs).entries s key c.entry hmem).operation hid hp (hmethod m hm).1

/-- **What callers without a client id reach, exactly.** Whatever was put
and in whatever order it was indexed, an operation that they reach comes
from an API of the snapshot, and it is unsecured or belongs to a
subscription with a credential under the reserved client id. Without
such a credential it is unsecured. With one it may be any: the entry for
that credential is visible to them once it is indexed, and has all
operations of its API. -/
theorem anonymous_exact (cs : List Records.Change) (s : SnapshotId) :
    (∀ read method target, ∀ c ∈ Candidate.find method target
        ((Records.after cs).visibleEntries s none) read, ∀ m, c.method = some m →
      FromApi cs s c.path.path m ∧ (m.isUnsecured = true ∨ UnderReservedId cs s c.entry)) ∧
    ((∀ u, .subscription s u ∈ cs → ∀ c ∈ u.application.credentials, c.clientId ≠ defaultClientId) →
      ∀ read method target, ∀ c ∈ Candidate.find method target
        ((Records.after cs).visibleEntries s none) read, ∀ m, c.method = some m →
      FromApi cs s c.path.path m ∧ m.isUnsecured = true) ∧
    (∀ id before e later, subscriptionEntries (.after cs) s id = .ok (before ++ e :: later) →
      e.clientId = defaultClientId → (∀ e' ∈ later, e'.key ≠ e.key) →
      e ∈ (Records.after (cs ++ [.indexed (.subscription s id)])).visibleEntries s none ∧
        ∃ api, .api s api ∈ cs ∧ routePaths .full api.document = .ok e.apiPaths) := by
  refine ⟨fun read method target c hc m hm => operation_of_find hc hm, ?_, ?_⟩
  · intro hnone read method target c hc m hm
    obtain ⟨hfrom, hun | ⟨u, k, hu, hk, hid, -, -⟩⟩ := operation_of_find hc hm
    · exact ⟨hfrom, hun⟩
    · exact absurd hid (hnone u hu k hk)
  · intro id before e later hok hid hlast
    exact mem_visibleEntries_indexed hok hid hlast

/-! ## A secured operation reached -/

/-- An API whose only operation is secured, and a subscription to it
whose credential bears the reserved client id. -/
def reservedIdCase (s : SnapshotId) : List Records.Change :=
  [.catalog s ⟨"c", "sandbox", none, ⟨"o", "acme"⟩⟩,
    .api s ⟨"a", { ApiDocument.blank with
      info := ⟨none, "1.0.0", "climbs"⟩
      basePath := "/v1"
      paths := [("/peaks", .object [("get", .object [])])]
      security := some [.object [("key", .array [])]] }⟩,
    .product s ⟨"p", ⟨"c", ""⟩, .blank⟩,
    .subscription s ⟨"u", ⟨"app", none, [⟨"default", none⟩]⟩,
      ⟨"r", ⟨"g", "gold", none⟩, ⟨"p"⟩, [⟨none, ⟨⟨none, "1.0.0", "climbs"⟩⟩⟩]⟩⟩,
    .indexed (.product s "p"), .indexed (.subscription s "u")]

/-- There a caller without a client id reaches the secured operation. -/
theorem anonymous_reaches_secured :
    ∃ c ∈ Candidate.find "GET" "/v1/peaks"
        ((Records.after (reservedIdCase ⟨1, by decide⟩)).visibleEntries ⟨1, by decide⟩ none),
      ∃ m, c.method = some m ∧ m.isUnsecured = false := by
  have h : ((Candidate.find "GET" "/v1/peaks"
      ((Records.after (reservedIdCase ⟨1, by decide⟩)).visibleEntries ⟨1, by decide⟩ none)).any
        fun c => c.method.any fun m => !m.isUnsecured) = true := by decide +kernel
  obtain ⟨c, hc, hm⟩ := List.any_eq_true.1 h
  obtain ⟨m, hm, hun⟩ := (Option.any_eq_true _ _).1 hm
  exact ⟨c, hc, m, hm, by simpa using hun⟩

end Route

end ApiGateway
