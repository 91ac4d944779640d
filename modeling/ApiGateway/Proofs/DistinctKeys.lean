import ApiGateway.OrderedMap
/-!
# Ordered maps — reading after writing, and distinct keys

`get?` reads the first pair of a key, so a pair further back is hidden if
the keys of a map repeat. Every operation keeps keys distinct
(`nodup_keys_insert`, `nodup_keys_erase`, `keys_mapValues`), and of a map
with distinct keys `get?` reads exactly the pairs that it has
(`get?_eq_some_iff`). What an operation does to `get?` does not need that. A
map made of pairs has the last pair of each key (`get?_ofPairs`).
-/

namespace ApiGateway

namespace OrderedMap

variable {κ α β : Type} [DecidableEq κ] {m : OrderedMap κ α} {k k' : κ} {v : α}

/-! ## Reading after writing -/

/-- **Reading after an insertion.** -/
theorem get?_insert (m : OrderedMap κ α) (k k' : κ) (v : α) :
    get? (insert m k v) k' = if k' = k then some v else get? m k' := by
  by_cases h : k' = k
  · subst h
    rw [get?_insert_self, if_pos rfl]
  · rw [get?_insert_of_ne m v (Ne.symm h), if_neg h]

/-- **Reading two maps as one**: the first stands before the second. -/
theorem get?_append (m m' : OrderedMap κ α) (k : κ) :
    get? (m ++ m') k = (get? m k).or (get? m' k) := by
  induction m with
  | nil => rfl
  | cons p m ih =>
    rw [List.cons_append, get?_cons, get?_cons, ih]
    split <;> rfl

/-- **Reading after some keys are left out.** -/
theorem get?_filter (keep : κ → Bool) (m : OrderedMap κ α) (k : κ) :
    get? (List.filter (fun p => keep p.1) m) k = if keep k = true then get? m k else none := by
  induction m with
  | nil => simp
  | cons p m ih =>
    rw [List.filter_cons]
    by_cases hp : keep p.1 = true
    · rw [if_pos hp, get?_cons, get?_cons, ih]
      by_cases hk : p.1 = k
      · rw [if_pos hk, if_pos hk, if_pos (hk ▸ hp)]
      · rw [if_neg hk, if_neg hk]
    · rw [if_neg hp, ih, get?_cons]
      by_cases hk : p.1 = k
      · rw [if_neg (hk ▸ hp), if_neg (hk ▸ hp)]
      · rw [if_neg hk]

/-- **Reading after a deletion.** -/
theorem get?_erase (m : OrderedMap κ α) (k k' : κ) :
    get? (erase m k) k' = if k' = k then none else get? m k' := by
  rw [erase, get?_filter (fun x => decide (x ≠ k))]
  by_cases hk : k' = k
  · simp [hk]
  · simp [hk]

/-- Changing the values in their places changes what is read. -/
theorem get?_mapValues (f : α → β) (m : OrderedMap κ α) (k : κ) :
    get? (mapValues f m) k = (get? m k).map f := by
  induction m with
  | nil => rfl
  | cons p m ih =>
    change get? ((p.1, f p.2) :: mapValues f m) k = _
    rw [get?_cons, get?_cons, ih]
    split <;> rfl

/-- Changing the values in their places and writing one comes to the same in
either order. -/
theorem mapValues_insert (f : α → β) (m : OrderedMap κ α) (k : κ) (v : α) :
    mapValues f (insert m k v) = insert (mapValues f m) k (f v) := by
  induction m with
  | nil => rfl
  | cons p m ih =>
    change mapValues f (insert (p :: m) k v) = insert ((p.1, f p.2) :: mapValues f m) k (f v)
    by_cases hp : p.1 = k
    · rw [insert, if_pos hp, insert, if_pos hp]
      rfl
    · rw [insert, if_neg hp, insert, if_neg hp, ← ih]
      rfl

/-- What is read is in the map. -/
theorem mem_of_get? (h : get? m k = some v) : (k, v) ∈ m := by
  induction m with
  | nil => simp at h
  | cons p m ih =>
    rw [get?_cons] at h
    by_cases hp : p.1 = k
    · rw [if_pos hp] at h
      obtain rfl := Option.some.inj h
      exact hp ▸ List.mem_cons_self
    · rw [if_neg hp] at h
      exact List.mem_cons_of_mem _ (ih h)

/-- A key that is in the map is read. -/
theorem isSome_get?_of_mem (h : (k, v) ∈ m) : (get? m k).isSome = true := by
  induction m with
  | nil => cases h
  | cons p m ih =>
    rw [get?_cons]
    by_cases hp : p.1 = k
    · rw [if_pos hp]
      rfl
    · rw [if_neg hp]
      exact ih ((List.mem_cons.1 h).resolve_left fun he => hp (congrArg Prod.fst he).symm)

/-- **The keys that are read** are those of the map. -/
theorem isSome_get?_iff : (get? m k).isSome = true ↔ k ∈ keys m := by
  constructor
  · intro h
    obtain ⟨v, hv⟩ := Option.isSome_iff_exists.1 h
    exact List.mem_map.2 ⟨_, mem_of_get? hv, rfl⟩
  · intro h
    obtain ⟨p, hp, rfl⟩ := List.mem_map.1 h
    exact isSome_get?_of_mem hp

/-- A pair of a map into which one was put is that one or was there. -/
theorem mem_insert {p : κ × α} (h : p ∈ insert m k v) : p = (k, v) ∨ p ∈ m := by
  induction m with
  | nil => exact Or.inl (List.mem_singleton.1 h)
  | cons q m ih =>
    by_cases hq : q.1 = k
    · rw [insert, if_pos hq] at h
      rcases List.mem_cons.1 h with h | h
      · exact Or.inl (hq ▸ h)
      · exact Or.inr (List.mem_cons_of_mem _ h)
    · rw [insert, if_neg hq] at h
      rcases List.mem_cons.1 h with h | h
      · exact Or.inr (h ▸ List.mem_cons_self)
      · exact (ih h).imp_right (List.mem_cons_of_mem _)

/-- Of two values written under one key the later one stays. -/
theorem insert_insert_self (m : OrderedMap κ α) (k : κ) (v v' : α) :
    insert (insert m k v) k v' = insert m k v' := by
  induction m with
  | nil => rw [insert, insert, insert, if_pos rfl]
  | cons p m ih =>
    by_cases hp : p.1 = k
    · rw [insert, if_pos hp, insert, if_pos hp, insert, if_pos hp]
    · rw [insert, if_neg hp, insert, if_neg hp, insert, if_neg hp, ih]

/-- A value under a key that is there may be written before another one or
after it. -/
theorem insert_comm (hk : k ∈ keys m) (hne : k ≠ k') (v v' : α) :
    insert (insert m k v) k' v' = insert (insert m k' v') k v := by
  induction m with
  | nil => cases hk
  | cons p m ih =>
    by_cases hp : p.1 = k
    · have hp' : p.1 ≠ k' := hp ▸ hne
      simp only [insert, hp, if_pos, if_neg (hp ▸ hp')]
    · have hm : k ∈ keys m := (List.mem_cons.1 hk).resolve_left fun h => hp h.symm
      by_cases hp' : p.1 = k'
      · simp only [insert, if_neg hp, if_pos hp']
      · simp only [insert, if_neg hp, if_neg hp', ih hm]

/-- Writing what is read changes nothing. -/
theorem insert_of_get? (h : get? m k = some v) : insert m k v = m := by
  induction m with
  | nil => cases h
  | cons p m ih =>
    rw [get?_cons] at h
    by_cases hp : p.1 = k
    · rw [if_pos hp] at h
      rw [insert, if_pos hp, ← Option.some.inj h]
    · rw [if_neg hp] at h
      rw [insert, if_neg hp, ih h]

/-! ## Distinct keys -/

/-- **A map with distinct keys reads exactly its pairs.** -/
theorem get?_eq_some_iff (hm : (keys m).Nodup) : get? m k = some v ↔ (k, v) ∈ m := by
  refine ⟨mem_of_get?, fun h => ?_⟩
  induction m with
  | nil => cases h
  | cons p m ih =>
    obtain ⟨hp, hm⟩ := List.nodup_cons.1 (show (p.1 :: keys m).Nodup from hm)
    rw [get?_cons]
    rcases List.mem_cons.1 h with h | h
    · subst h
      rw [if_pos rfl]
    · rw [if_neg fun e : p.1 = k => hp (e ▸ List.mem_map.2 ⟨_, h, rfl⟩)]
      exact ih hm h

/-- Maps with the same pairs in another order read the same. -/
theorem get?_of_perm {m' : OrderedMap κ α} (h : m.Perm m') (hm : (keys m).Nodup) (k : κ) :
    get? m k = get? m' k := by
  have hm' : (keys m').Nodup := (h.map _).nodup_iff.1 hm
  refine Option.ext fun v => ?_
  rw [get?_eq_some_iff hm, get?_eq_some_iff hm', h.mem_iff]

/-- A new key is written at the end. -/
theorem insert_of_not_mem (v : α) (h : k ∉ keys m) : insert m k v = m ++ [(k, v)] := by
  induction m with
  | nil => rfl
  | cons p m ih =>
    obtain ⟨hp, hm⟩ := not_or.1 (mt List.mem_cons.2 (show k ∉ p.1 :: keys m from h))
    rw [insert, if_neg (Ne.symm hp), ih hm, List.cons_append]

theorem nodup_keys_insert (hm : (keys m).Nodup) : (keys (insert m k v)).Nodup := by
  by_cases h : k ∈ keys m
  · rwa [keys_insert_of_mem v h]
  · rw [keys_insert_of_not_mem v h]
    refine List.nodup_append.2 ⟨hm, by simp, fun a ha b hb => ?_⟩
    rw [List.mem_singleton.1 hb]
    exact fun e => h (e ▸ ha)

theorem nodup_keys_erase (hm : (keys m).Nodup) : (keys (erase m k)).Nodup :=
  (List.filter_sublist.map _).nodup hm

omit [DecidableEq κ] in
/-- Changing the values leaves the keys alone. -/
@[simp] theorem keys_mapValues (f : α → β) (m : OrderedMap κ α) :
    keys (mapValues f m) = keys m := by
  simp [keys, mapValues]

/-! ## Maps of pairs whose keys may repeat -/

theorem nodup_keys_ofPairs (pairs : List (κ × α)) : (keys (ofPairs pairs)).Nodup := by
  suffices hfold : ∀ m : OrderedMap κ α, (keys m).Nodup →
      (keys (pairs.foldl (fun acc p => insert acc p.1 p.2) m)).Nodup from hfold [] List.nodup_nil
  induction pairs with
  | nil => exact fun _ h => h
  | cons p pairs ih => exact fun m h => ih _ (nodup_keys_insert h)

/-- Every pair of the map was among the pairs. -/
theorem mem_of_mem_ofPairs {pairs : List (κ × α)} {p : κ × α} (h : p ∈ ofPairs pairs) :
    p ∈ pairs := by
  suffices hfold : ∀ m : OrderedMap κ α, p ∈ pairs.foldl (fun acc q => insert acc q.1 q.2) m →
      p ∈ m ∨ p ∈ pairs from (hfold [] h).resolve_left List.not_mem_nil
  clear h
  induction pairs with
  | nil => exact fun _ => Or.inl
  | cons q pairs ih =>
    intro m h
    rcases ih _ h with h | h
    · rcases mem_insert h with rfl | h
      · exact Or.inr List.mem_cons_self
      · exact Or.inl h
    · exact Or.inr (List.mem_cons_of_mem q h)

/-- **A key reads as its last pair.** -/
theorem get?_ofPairs (pairs : List (κ × α)) (k : κ) :
    get? (ofPairs pairs) k = get? pairs.reverse k := by
  suffices hfold : ∀ m : OrderedMap κ α,
      get? (pairs.foldl (fun acc p => insert acc p.1 p.2) m) k =
        (get? pairs.reverse k).or (get? m k) from (hfold []).trans (Option.or_none)
  induction pairs with
  | nil => exact fun _ => rfl
  | cons p pairs ih =>
    intro m
    have hwrite : get? (insert m p.1 p.2) k = (get? [p] k).or (get? m k) := by
      rw [get?_insert, get?_cons]
      simp only [eq_comm (a := k)]
      split <;> rfl
    rw [List.foldl_cons, ih, hwrite, List.reverse_cons, get?_append, Option.or_assoc]

/-- **Of pairs with distinct keys the map is just that list.** -/
theorem ofPairs_of_nodup (h : (keys m).Nodup) : ofPairs m = m := by
  suffices hfold : ∀ m' : OrderedMap κ α, (keys (m' ++ m)).Nodup →
      m.foldl (fun acc p => insert acc p.1 p.2) m' = m' ++ m from hfold [] h
  intro m'
  induction m generalizing m' with
  | nil => exact fun _ => (List.append_nil m').symm
  | cons p m ih =>
    intro hnodup
    have hsplit : m' ++ p :: m = (m' ++ [p]) ++ m := by simp
    have hfresh : p.1 ∉ keys m' := by
      rw [keys, List.map_append, List.nodup_append] at hnodup
      exact fun hmem => hnodup.2.2 p.1 hmem p.1 List.mem_cons_self rfl
    rw [List.foldl_cons, insert_of_not_mem p.2 hfresh, hsplit]
    refine ih (List.nodup_cons.1 h).2 (m' ++ [p]) ?_
    rwa [← hsplit]

end OrderedMap

end ApiGateway
