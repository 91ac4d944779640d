import ApiGateway.Proofs.DistinctKeys
import ApiGateway.Store.Records
/-!
# Records — what belongs to one snapshot

`Records.only` cuts the records down to those of one snapshot. A purge
leaves nothing of the snapshot it is for (`only_purge_self`) and all of
every other one (`only_purge_of_ne`). What is read of a snapshot is read
of its own records (`api?_congr`, `visibleEntries_congr`).
-/

namespace ApiGateway

namespace Collection

variable {α : Type}

/-- The records of a snapshot, under their keys. -/
def only (c : Collection α) (s : SnapshotId) : Collection α := List.filter (fun e => e.1.1 = s) c

theorem only_purge_self (c : Collection α) (s : SnapshotId) : (c.purge s).only s = [] := by
  rw [only, purge, List.filter_filter]
  refine List.filter_eq_nil_iff.2 fun e _ => ?_
  simp

theorem only_purge_of_ne (c : Collection α) {s s' : SnapshotId} (h : s' ≠ s) :
    (c.purge s).only s' = c.only s' := by
  rw [only, purge, List.filter_filter, only]
  refine List.filter_congr fun e _ => ?_
  by_cases he : e.1.1 = s'
  · simp [he, h]
  · simp [he]

theorem get?_only (c : Collection α) (s : SnapshotId) (id : String) :
    (c.only s).get? s id = c.get? s id := by
  rw [get?, only, OrderedMap.get?_filter (fun k : SnapshotId × String => decide (k.1 = s)),
    if_pos (decide_eq_true rfl), get?]

theorem ofSnapshot_only (c : Collection α) (s : SnapshotId) :
    (c.only s).ofSnapshot s = c.ofSnapshot s := by
  rw [ofSnapshot, only, List.filterMap_filter, ofSnapshot]
  refine congrArg (List.filterMap · c) (funext fun e => ?_)
  by_cases he : e.1.1 = s
  · rw [if_pos (decide_eq_true he)]
  · rw [if_neg fun h => he (of_decide_eq_true h), if_neg he]

theorem filter_only (c : Collection α) (s : SnapshotId) (test : α → Bool) :
    (c.only s).filter s test = c.filter s test := by
  rw [filter, ofSnapshot_only, filter]

/-- After a purge nothing is read of its snapshot, and as before of the
others. -/
theorem get?_purge (c : Collection α) (s s' : SnapshotId) (id : String) :
    (c.purge s).get? s' id = if s' = s then none else c.get? s' id := by
  rw [get?, purge, OrderedMap.get?_filter (fun k : SnapshotId × String => decide (k.1 ≠ s)), get?]
  by_cases h : s' = s
  · simp [h]
  · simp [h]

end Collection

namespace Records

/-- The records of one snapshot. -/
def only (r : Records) (s : SnapshotId) : Records :=
  { organizations := r.organizations.only s
    catalogs := r.catalogs.only s
    products := r.products.only s
    apis := r.apis.only s
    subscriptions := r.subscriptions.only s
    routeEntries := r.routeEntries.only s
    tlsProfiles := r.tlsProfiles.only s
    registries := r.registries.only s }

/-! ## Reading one snapshot -/

theorem api?_congr {r r' : Records} {s : SnapshotId} (h : r.only s = r'.only s) (id : String) :
    r.api? s id = r'.api? s id := by
  have hapis : r.apis.only s = r'.apis.only s := congrArg Records.apis h
  rw [api?, api?, ← Collection.get?_only, hapis, Collection.get?_only]

theorem visibleEntries_congr {r r' : Records} {s : SnapshotId} (h : r.only s = r'.only s)
    (client : Option String) : r.visibleEntries s client = r'.visibleEntries s client := by
  have hentries : r.routeEntries.only s = r'.routeEntries.only s := congrArg Records.routeEntries h
  rw [visibleEntries, visibleEntries, ← Collection.filter_only, hentries, Collection.filter_only]

/-! ## Purging one snapshot -/

/-- **A purge leaves nothing of its snapshot.** -/
theorem only_purge_self (r : Records) (s : SnapshotId) : (r.purge s).only s = empty := by
  simp only [only, purge, Collection.only_purge_self, empty]

/-- **A purge leaves the other snapshots alone.** -/
theorem only_purge_of_ne (r : Records) {s s' : SnapshotId} (h : s' ≠ s) :
    (r.purge s).only s' = r.only s' := by
  simp only [only, purge, Collection.only_purge_of_ne _ h]

end Records

end ApiGateway
