/-!
# Ordered maps — pairs in the order in which their keys came

The maps of the gateway keep the order of their keys: a key that is
written again keeps its place and takes the new value. An ordered map
is a list of pairs; `insert` and `alter` keep its keys distinct, and
`ofPairs` makes one from pairs whose keys may repeat.
-/

namespace ApiGateway

/-- Pairs of a key and a value, in the order in which the keys came. -/
abbrev OrderedMap (κ α : Type) := List (κ × α)

namespace OrderedMap

variable {κ α β : Type} [DecidableEq κ]

/-- The value of a key. -/
def get? : OrderedMap κ α → κ → Option α
  | [], _ => none
  | (k', v) :: m, k => if k' = k then some v else get? m k

/-- Whether the map has the key. -/
def contains (m : OrderedMap κ α) (k : κ) : Bool := (get? m k).isSome

/-- The keys in order. -/
def keys (m : OrderedMap κ α) : List κ := m.map (·.1)

/-- The values in the order of their keys. -/
def values (m : OrderedMap κ α) : List α := m.map (·.2)

/-- The map with `v` at `k`: in the place that `k` has, or at the end. -/
def insert : OrderedMap κ α → κ → α → OrderedMap κ α
  | [], k, v => [(k, v)]
  | (k', v') :: m, k, v => if k' = k then (k', v) :: m else (k', v') :: insert m k v

/-- The map with the value of `k`, or its absence, replaced. -/
def alter (m : OrderedMap κ α) (k : κ) (f : Option α → α) : OrderedMap κ α :=
  insert m k (f (get? m k))

/-- The map without `k`. -/
def erase (m : OrderedMap κ α) (k : κ) : OrderedMap κ α := m.filter fun p => p.1 ≠ k

/-- The map of pairs whose keys may repeat: a key has the place of its
first pair and the value of its last. -/
def ofPairs (pairs : List (κ × α)) : OrderedMap κ α :=
  pairs.foldl (fun m p => insert m p.1 p.2) []

/-- The map with every value changed in its place. -/
def mapValues (f : α → β) (m : OrderedMap κ α) : OrderedMap κ β := m.map fun p => (p.1, f p.2)

@[simp] theorem get?_nil (k : κ) : get? ([] : OrderedMap κ α) k = none := rfl

theorem get?_cons (p : κ × α) (m : OrderedMap κ α) (k : κ) :
    get? (p :: m) k = if p.1 = k then some p.2 else get? m k := rfl

@[simp] theorem get?_insert_self (m : OrderedMap κ α) (k : κ) (v : α) :
    get? (insert m k v) k = some v := by
  induction m with
  | nil => simp [insert, get?]
  | cons p m ih =>
    by_cases h : p.1 = k
    · simp [insert, get?, h]
    · simp [insert, get?, h, ih]

theorem get?_insert_of_ne (m : OrderedMap κ α) {k k' : κ} (v : α) (h : k ≠ k') :
    get? (insert m k v) k' = get? m k' := by
  induction m with
  | nil => simp [insert, get?, h]
  | cons p m ih =>
    by_cases hk : p.1 = k
    · simp [insert, get?, hk, h]
    · simp [insert, get?, hk, ih]

/-- A key that the map has keeps its place. -/
theorem keys_insert_of_mem {m : OrderedMap κ α} {k : κ} (v : α) (h : k ∈ keys m) :
    keys (insert m k v) = keys m := by
  induction m with
  | nil => simp [keys] at h
  | cons p m ih =>
    by_cases hk : p.1 = k
    · simp [insert, keys, hk]
    · have hm : k ∈ keys m := by
        simp only [keys, List.map_cons, List.mem_cons] at h
        exact h.resolve_left fun e => hk e.symm
      simpa [insert, keys, hk] using ih hm

/-- A new key goes to the end. -/
theorem keys_insert_of_not_mem {m : OrderedMap κ α} {k : κ} (v : α) (h : k ∉ keys m) :
    keys (insert m k v) = keys m ++ [k] := by
  induction m with
  | nil => simp [insert, keys]
  | cons p m ih =>
    simp only [keys, List.map_cons, List.mem_cons, not_or] at h
    have hk : ¬ p.1 = k := fun e => h.1 e.symm
    simpa [insert, keys, hk] using ih h.2

end OrderedMap

end ApiGateway
