import ApiGateway.Proofs.Route.Origin
/-!
# Routes — what is stored, and what stays

Whatever is put, indexed and purged, entries are stored each under its own
snapshot and key, and one under each (`keyed_after`). Entries are visible
to the callers of their client id (`Keyed.mem_visibleEntries`).

Of entries that are stored one after the other, the last one under a key
stays (`get?_putEntries`). A build does not look at the stored entries, so
handling events stores what each of them builds from the records as they
were (`foldl_handle`).
-/

namespace ApiGateway

namespace Route

variable {cs : List Records.Change} {r : Records} {c : Collection RouteEntry} {s : SnapshotId}
  {key : String} {e : RouteEntry} {entries : List RouteEntry} {client : Option String}

theorem mem_visibleEntries : e ∈ r.visibleEntries s client ↔
    ∃ key, ((s, key), e) ∈ r.routeEntries ∧ e.clientId = client.getD defaultClientId := by
  rw [Records.visibleEntries, Collection.mem_filter]
  simp only [decide_eq_true_eq]

theorem routeEntries_putRouteEntry (r : Records) (e : RouteEntry) :
    (r.putRouteEntry e).routeEntries = OrderedMap.insert r.routeEntries (e.snapshotId, e.key) e :=
  rfl

/-! ## One entry under each key -/

/-- **Entries are stored under their own snapshot and key**, and one under
each. -/
structure Keyed (c : Collection RouteEntry) : Prop where
  own : c.All fun s key e => e.snapshotId = s ∧ e.key = key
  nodup : (OrderedMap.keys c).Nodup

theorem keyed_nil : Keyed [] := ⟨Collection.all_nil, List.nodup_nil⟩

theorem Keyed.put (h : Keyed c) (e : RouteEntry) : Keyed (c.put e.snapshotId e.key e) :=
  ⟨h.own.put ⟨rfl, rfl⟩, OrderedMap.nodup_keys_insert h.nodup⟩

theorem Keyed.purge (h : Keyed c) (s : SnapshotId) : Keyed (c.purge s) :=
  ⟨h.own.purge s, (List.filter_sublist.map _).nodup h.nodup⟩

theorem Keyed.putEntries (h : Keyed r.routeEntries) (entries : List RouteEntry) :
    Keyed (putEntries r entries).routeEntries := by
  induction entries generalizing r with
  | nil => exact h
  | cons e entries ih => exact ih (r := r.putRouteEntry e) (h.put e)

/-- Entries that are stored keep the keys distinct. -/
theorem nodup_keys_putEntries (h : (OrderedMap.keys r.routeEntries).Nodup)
    (entries : List RouteEntry) :
    (OrderedMap.keys (Route.putEntries r entries).routeEntries).Nodup := by
  induction entries generalizing r with
  | nil => exact h
  | cons e entries ih => exact ih (r := r.putRouteEntry e) (OrderedMap.nodup_keys_insert h)

/-- **One change** keeps entries under their keys. -/
theorem Keyed.apply (h : Keyed r.routeEntries) (change : Records.Change) :
    Keyed (r.apply change).routeEntries := by
  cases change with
  | organization s o => exact h
  | catalog s c =>
    obtain ⟨r', hr, hput⟩ := putCatalog_cases r s c
    have hsame : (r.putCatalog s c).routeEntries = r.routeEntries := by
      rw [hput]
      rcases hr with rfl | rfl
      · rfl
      · rfl
    exact (show (r.apply (.catalog s c)).routeEntries = _ from hsame) ▸ h
  | api s a => exact h
  | product s p => exact h
  | subscription s u => exact h
  | indexed event => exact h.putEntries _
  | purged s => exact h.purge s

/-- **Every sequence of changes** keeps entries under their keys. -/
theorem keyed_after (cs : List Records.Change) : Keyed (Records.after cs).routeEntries := by
  suffices ∀ r : Records, Keyed r.routeEntries → Keyed (cs.foldl Records.apply r).routeEntries from
    this .empty keyed_nil
  induction cs with
  | nil => exact fun r h => h
  | cons change cs ih => exact fun r h => ih (r.apply change) (h.apply change)

/-- An entry is stored if reading its key gives it. -/
theorem Keyed.mem_iff (h : Keyed c) : ((s, key), e) ∈ c ↔ c.get? s key = some e :=
  (OrderedMap.get?_eq_some_iff h.nodup).symm

/-- **An entry is visible** to the callers of its client id if its key in
the snapshot gives it. -/
theorem Keyed.mem_visibleEntries (h : Keyed r.routeEntries) :
    e ∈ r.visibleEntries s client ↔
      r.routeEntries.get? s e.key = some e ∧ e.clientId = client.getD defaultClientId := by
  rw [Route.mem_visibleEntries]
  constructor
  · rintro ⟨key, hmem, hid⟩
    obtain ⟨-, rfl⟩ := h.own s key e hmem
    exact ⟨h.mem_iff.1 hmem, hid⟩
  · rintro ⟨hget, hid⟩
    exact ⟨e.key, h.mem_iff.2 hget, hid⟩

/-! ## The last write of a key -/

/-- The last of the entries with a snapshot and a key. -/
def lastUnder (entries : List RouteEntry) (s : SnapshotId) (key : String) : Option RouteEntry :=
  entries.reverse.find? fun e => e.snapshotId = s ∧ e.key = key

theorem lastUnder_cons (e : RouteEntry) (entries : List RouteEntry) (s : SnapshotId)
    (key : String) : lastUnder (e :: entries) s key =
      (lastUnder entries s key).or (if e.snapshotId = s ∧ e.key = key then some e else none) := by
  rw [lastUnder, List.reverse_cons, List.find?_append, lastUnder, List.find?_singleton]
  simp only [decide_eq_true_eq]

theorem mem_of_lastUnder (h : lastUnder entries s key = some e) :
    e ∈ entries ∧ e.snapshotId = s ∧ e.key = key := by
  have hkey := List.find?_some h
  exact ⟨List.mem_reverse.1 (List.mem_of_find?_eq_some h), of_decide_eq_true hkey⟩

theorem exists_lastUnder (h : e ∈ entries) :
    ∃ e', lastUnder entries e.snapshotId e.key = some e' := by
  have hsome : (lastUnder entries e.snapshotId e.key).isSome = true :=
    List.find?_isSome.2 ⟨e, List.mem_reverse.2 h, decide_eq_true ⟨rfl, rfl⟩⟩
  exact Option.isSome_iff_exists.1 hsome

/-- An entry with none of its key behind it is the last one. -/
theorem lastUnder_append_cons {before later : List RouteEntry}
    (h : ∀ e' ∈ later, e'.key ≠ e.key) :
    lastUnder (before ++ e :: later) e.snapshotId e.key = some e := by
  have hlater : later.reverse.find? (fun e' => e'.snapshotId = e.snapshotId ∧ e'.key = e.key) =
      none := by
    refine List.find?_eq_none.2 fun e' he' hkey => ?_
    exact h e' (List.mem_reverse.1 he') (of_decide_eq_true hkey).2
  rw [lastUnder, List.reverse_append, List.reverse_cons, List.append_assoc, List.find?_append,
    hlater, Option.none_or, List.singleton_append, List.find?_cons_of_pos]
  exact decide_eq_true ⟨rfl, rfl⟩

/-- **The last entry under a key stays**, and a key that is not written
keeps what it had. -/
theorem get?_putEntries (r : Records) (entries : List RouteEntry) (s : SnapshotId) (key : String) :
    (putEntries r entries).routeEntries.get? s key =
      (lastUnder entries s key).or (r.routeEntries.get? s key) := by
  induction entries generalizing r with
  | nil => rfl
  | cons e entries ih =>
    have hput : (r.putRouteEntry e).routeEntries.get? s key =
        if e.snapshotId = s ∧ e.key = key then some e else r.routeEntries.get? s key := by
      rw [Collection.get?, routeEntries_putRouteEntry, OrderedMap.get?_insert]
      simp only [Prod.mk.injEq, Collection.get?, eq_comm]
    rw [putEntries, List.foldl_cons, ← putEntries, ih, hput, lastUnder_cons, Option.or_assoc]
    congr 1
    split <;> rfl

/-! ## Handling events -/

theorem offerEntries_withEntries (r : Records) (c : Collection RouteEntry) (product : Product)
    (catalog : Catalog) (os : List ((String × Plan) × ProductApi)) :
    offerEntries { r with routeEntries := c } s product catalog os =
      offerEntries r s product catalog os := by
  induction os with
  | nil => rfl
  | cons o os ih =>
    have hoffer : offerEntry { r with routeEntries := c } s product catalog o =
        offerEntry r s product catalog o := rfl
    rw [offerEntries, offerEntries, ih, hoffer]

/-- **A build does not look at the stored entries.** -/
theorem build_withEntries (r : Records) (c : Collection RouteEntry) (event : IndexEvent) :
    build { r with routeEntries := c } event = build r event := by
  cases event with
  | subscription s id => rfl
  | product s id =>
    have hpc : productAndCatalog { r with routeEntries := c } s id = productAndCatalog r s id := rfl
    simp only [build, buildProduct, hpc, offerEntries_withEntries]

theorem build_putEntries (r : Records) (entries : List RouteEntry) (event : IndexEvent) :
    build (putEntries r entries) event = build r event := by
  induction entries generalizing r with
  | nil => rfl
  | cons e entries ih =>
    rw [putEntries, List.foldl_cons, ← putEntries, ih]
    exact build_withEntries r _ event

theorem putEntries_append (r : Records) (entries entries' : List RouteEntry) :
    putEntries (putEntries r entries) entries' = putEntries r (entries ++ entries') := by
  rw [putEntries, putEntries, putEntries, List.foldl_append]

/-- What the builds for events give, one after the other. -/
def builtBy (r : Records) (events : List IndexEvent) : List RouteEntry :=
  events.flatMap fun event => (build r event).entries

/-- **Handling events stores what they build from the records as they
were.** -/
theorem foldl_handle (r : Records) (events : List IndexEvent) :
    events.foldl (fun r event => (handle r event).2) r = putEntries r (builtBy r events) := by
  -- what was written so far grows, while the records to build from stay the same
  have hhandle : ∀ written, events.foldl (fun r event => (handle r event).2)
      (putEntries r written) = putEntries r (written ++ builtBy r events) := by
    induction events with
    | nil => exact fun written => by rw [builtBy, List.flatMap_nil, List.append_nil, List.foldl_nil]
    | cons event events ih =>
      intro written
      have hstep : (handle (putEntries r written) event).2 =
          putEntries r (written ++ (build r event).entries) := by
        rw [← putEntries_append, ← build_putEntries r written event]
        rfl
      rw [List.foldl_cons, hstep, ih, List.append_assoc]
      rfl
  exact hhandle []

/-- Events that are indexed after some changes store what they build from
the records with those changes. -/
theorem after_indexed (cs : List Records.Change) (events : List IndexEvent) :
    Records.after (cs ++ events.map .indexed) =
      putEntries (.after cs) (builtBy (.after cs) events) := by
  rw [Records.after, List.foldl_append, ← Records.after, List.foldl_map]
  exact foldl_handle _ events

end Route

end ApiGateway
