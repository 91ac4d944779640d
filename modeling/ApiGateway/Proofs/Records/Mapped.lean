import ApiGateway.Proofs.DistinctKeys
import ApiGateway.Store.Collection
/-!
# Collections — records changed in their places

Where every record of a collection is replaced by what a function makes of
it, under the same snapshot and id, reading, listing and purging give what
the function makes of what they gave before.
-/

namespace ApiGateway

namespace Collection

variable {α β : Type}

theorem ofSnapshot_mapValues (f : α → β) (c : Collection α) (s : SnapshotId) :
    ofSnapshot (OrderedMap.mapValues f c) s = (c.ofSnapshot s).map fun e => (e.1, f e.2) := by
  rw [ofSnapshot, OrderedMap.mapValues, List.filterMap_map, ofSnapshot, List.map_filterMap]
  refine congrArg (List.filterMap · c) (funext fun e => ?_)
  by_cases hs : e.1.1 = s
  · simp [hs]
  · simp [hs]

/-- **A listing has what is made of the records**, in the same order. -/
theorem filter_mapValues (f : α → β) (c : Collection α) (s : SnapshotId) (test : β → Bool) :
    filter (OrderedMap.mapValues f c) s test = (c.filter s fun a => test (f a)).map f := by
  rw [filter, filter, ofSnapshot_mapValues, List.filter_map, List.map_map]
  have hsort : ∀ l : List (String × α),
      (l.mergeSort fun a b => decide (a.1 ≤ b.1)).map (fun e => (e.1, f e.2)) =
        (l.map fun e => (e.1, f e.2)).mergeSort fun a b => decide (a.1 ≤ b.1) :=
    fun l => List.map_mergeSort fun a _ b _ => rfl
  rw [← hsort, List.map_map]
  rfl

theorem purge_mapValues (f : α → β) (c : Collection α) (s : SnapshotId) :
    purge (OrderedMap.mapValues f c) s = OrderedMap.mapValues f (c.purge s) := by
  rw [purge, OrderedMap.mapValues, List.filter_map, purge, OrderedMap.mapValues]
  rfl

theorem put_mapValues (f : α → β) (c : Collection α) (s : SnapshotId) (id : String) (a : α) :
    put (OrderedMap.mapValues f c) s id (f a) = OrderedMap.mapValues f (c.put s id a) :=
  (OrderedMap.mapValues_insert f c (s, id) a).symm

end Collection

end ApiGateway
