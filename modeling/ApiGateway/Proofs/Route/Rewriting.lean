import ApiGateway.Proofs.Route.Stored
/-!
# Routes — entries that are written again

Entries that are stored leave everything else alone, and of those with one
key the last one is read (`Stores`). An entry whose key is there already
does not matter if a later one has its key (`putEntries_putRouteEntry`). So
storing entries changes nothing exactly if the last one under each of their
keys is there before (`routeEntries_putEntries_eq_iff`), and as a build does
not look at the stored entries, an event that is handled twice leaves the
records as after the first time (`handle_handle`).
-/

namespace ApiGateway

namespace Route

variable {r r' : Records} {s : SnapshotId} {key : String} {e : RouteEntry}
  {entries : List RouteEntry} {event : IndexEvent}

/-- **Records with exactly these entries written**: of those with one key
the last one, and everything else as it was. -/
structure Stores (r : Records) (entries : List RouteEntry) (r' : Records) : Prop where
  entry : ∀ s key, r'.routeEntries.get? s key =
    (lastUnder entries s key).or (r.routeEntries.get? s key)
  rest : r' = { r with routeEntries := r'.routeEntries }

/-- Storing entries changes no other records. -/
theorem putEntries_eq (r : Records) (entries : List RouteEntry) :
    putEntries r entries = { r with routeEntries := (putEntries r entries).routeEntries } := by
  induction entries generalizing r with
  | nil => rfl
  | cons e entries ih => exact ih (r.putRouteEntry e)

theorem stores_putEntries (r : Records) (entries : List RouteEntry) :
    Stores r entries (putEntries r entries) :=
  ⟨get?_putEntries r entries, putEntries_eq r entries⟩

/-- A later entry under the same key is the last one with those before. -/
theorem lastUnder_cons_of_some {last : RouteEntry} (h : lastUnder entries s key = some last)
    (e : RouteEntry) : lastUnder (e :: entries) s key = some last := by
  rw [lastUnder_cons, h, Option.some_or]

/-- **An entry in a place that is taken does not matter** if a later one has
its key. -/
theorem putEntries_putRouteEntry {last : RouteEntry}
    (hk : (e.snapshotId, e.key) ∈ OrderedMap.keys r.routeEntries)
    (hlast : lastUnder entries e.snapshotId e.key = some last) :
    putEntries (r.putRouteEntry e) entries = putEntries r entries := by
  induction entries generalizing r with
  | nil => cases hlast
  | cons e' entries ih =>
    change putEntries ((r.putRouteEntry e).putRouteEntry e') entries =
      putEntries (r.putRouteEntry e') entries
    by_cases hsame : (e'.snapshotId, e'.key) = (e.snapshotId, e.key)
    · -- the entry is written over at once
      have hover : (r.putRouteEntry e).putRouteEntry e' = r.putRouteEntry e' := by
        simp only [Records.putRouteEntry, Collection.put, hsame, OrderedMap.insert_insert_self]
      rw [hover]
    · have hswap : (r.putRouteEntry e).putRouteEntry e' = (r.putRouteEntry e').putRouteEntry e := by
        simp only [Records.putRouteEntry, Collection.put,
          OrderedMap.insert_comm hk (Ne.symm hsame)]
      have hk' : (e.snapshotId, e.key) ∈ OrderedMap.keys (r.putRouteEntry e').routeEntries := by
        rw [← OrderedMap.isSome_get?_iff] at hk ⊢
        exact Collection.isSome_get?_put e'.snapshotId e'.key e' hk
      have hother : ¬ (e'.snapshotId = e.snapshotId ∧ e'.key = e.key) :=
        fun h => hsame (Prod.ext h.1 h.2)
      rw [lastUnder_cons, if_neg hother, Option.or_none] at hlast
      rw [hswap, ih hk' hlast]

/-- **Storing entries changes nothing** exactly if the last one under each of
their keys is there before. -/
theorem routeEntries_putEntries_eq_iff :
    (putEntries r entries).routeEntries = r.routeEntries ↔
      ∀ e ∈ entries, r.routeEntries.get? e.snapshotId e.key =
        lastUnder entries e.snapshotId e.key := by
  constructor
  · intro h e he
    obtain ⟨last, hlast⟩ := exists_lastUnder he
    have hread := get?_putEntries r entries e.snapshotId e.key
    rwa [h, hlast, Option.some_or, ← hlast] at hread
  · induction entries with
    | nil => exact fun _ => rfl
    | cons e entries ih =>
      intro h
      have hfirst := h e List.mem_cons_self
      have hrest : ∀ e' ∈ entries, r.routeEntries.get? e'.snapshotId e'.key =
          lastUnder entries e'.snapshotId e'.key := by
        intro e' he'
        obtain ⟨last, hlast⟩ := exists_lastUnder he'
        rw [h e' (List.mem_cons_of_mem e he'), lastUnder_cons_of_some hlast, hlast]
      change (putEntries (r.putRouteEntry e) entries).routeEntries = r.routeEntries
      cases hlast : lastUnder entries e.snapshotId e.key with
      | some last =>
        rw [lastUnder_cons_of_some hlast] at hfirst
        have hk : (e.snapshotId, e.key) ∈ OrderedMap.keys r.routeEntries :=
          OrderedMap.isSome_get?_iff.1 (Option.isSome_of_eq_some hfirst)
        rw [putEntries_putRouteEntry hk hlast]
        exact ih hrest
      | none =>
        -- the entry is the last one under its key, and is there
        rw [lastUnder_cons, hlast, Option.none_or, if_pos ⟨rfl, rfl⟩] at hfirst
        have hsame : r.putRouteEntry e = r := by
          rw [Records.putRouteEntry, Collection.put, OrderedMap.insert_of_get? hfirst]
        rw [hsame]
        exact ih hrest

/-- **Storing the same entries again changes nothing.** -/
theorem putEntries_putEntries_self (r : Records) (entries : List RouteEntry) :
    putEntries (putEntries r entries) entries = putEntries r entries := by
  have hsame : (putEntries (putEntries r entries) entries).routeEntries =
      (putEntries r entries).routeEntries := by
    refine routeEntries_putEntries_eq_iff.2 fun e he => ?_
    obtain ⟨last, hlast⟩ := exists_lastUnder he
    rw [get?_putEntries, hlast, Option.some_or]
  rw [putEntries_eq, hsame]

/-- What a build gives is stored. -/
theorem stores_handle (h : (handle r event).1.result = .ok entries) :
    Stores r entries (handle r event).2 := by
  unfold Built.result at h
  split at h
  next =>
    obtain rfl := Except.ok.inj h
    exact stores_putEntries r _
  next => cases h

/-- **An event that is handled again** gives the same and leaves the records
as they are. -/
theorem handle_handle (r : Records) (event : IndexEvent) :
    handle (handle r event).2 event = handle r event := by
  have hbuild : build (handle r event).2 event = build r event := build_putEntries r _ event
  rw [handle, hbuild]
  exact Prod.ext rfl (putEntries_putEntries_self r _)

end Route

end ApiGateway
