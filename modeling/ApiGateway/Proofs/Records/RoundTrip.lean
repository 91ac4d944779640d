import ApiGateway.Proofs.DistinctKeys
import ApiGateway.Proofs.Outcomes
import ApiGateway.Record.Fields
/-!
# Records — reading what was written

What a reader gives can be written down and read again, and should come out
the same (`RoundTrip`). Not every value that a record could hold is read
back: a map with a repeated key loses a pair, and a value that is `null` is
lost where `null` stands for nothing. No reader gives such a value, though,
so it is enough to ask this of what was read. The parts of which the readers
of records are made up all have this property, or pass it on from their own
parts.

A record is written as an object that holds every field, so on the second
reading no field is given by position and no default is used. Defaults
matter all the same: a field that was missing is written with its default,
which has to be read back.
-/

namespace ApiGateway

/-- **Whatever is read is read again from how it is written.** -/
def RoundTrip {α : Type} (read : Json → Option α) (write : α → Json) : Prop :=
  ∀ ⦃j : Json⦄ ⦃a : α⦄, read j = some a → read (write a) = some a

theorem Fields.orNull_of_ne_null {α : Type} (read : Json → Option α) {j : Json} (hj : j ≠ .null) :
    orNull read j = (read j).map some := by
  cases j with
  | null => exact absurd rfl hj
  | _ => rfl

namespace RoundTrip

variable {α : Type} {read : Json → Option α} {write : α → Json}

/-- Where every value is read back there is nothing to ask. -/
theorem of_forall (h : ∀ a, read (write a) = some a) : RoundTrip read write := fun _ a _ => h a

theorem whole : RoundTrip some id := of_forall fun _ => rfl

theorem asNat?_ofNat {bound n : Nat} (h : n < bound) : Json.asNat? bound (.ofNat n) = some n :=
  if_pos ⟨Int.natCast_nonneg n, Int.ofNat_lt.2 h⟩

/-- A number that was read is below the bound. -/
theorem nat (bound : Nat) : RoundTrip (Json.asNat? bound) .ofNat := by
  intro j n h
  unfold Json.asNat? at h
  split at h
  · split at h
    · obtain rfl := Option.some.inj h
      exact asNat?_ofNat (by omega)
    · cases h
  · cases h

/-! ## Lists, maps and what may be missing -/

theorem listOf (h : RoundTrip read write) : RoundTrip (Json.listOf? read) (.ofList write) := by
  intro j xs hj
  cases j with
  | array js =>
    refine Outcome.mapM_map_of_forall fun x hx => ?_
    obtain ⟨y, -, hy⟩ := Outcome.mem_of_mapM_eq_some hj hx
    exact h hy
  | _ => cases hj

/-- The keys of a map that was read are distinct, so that none is lost, and
they stay in their order. -/
theorem mapOf (h : RoundTrip read write) : RoundTrip (Json.mapOf? read) (.ofMap write) := by
  intro j m hj
  cases j with
  | object ms =>
    obtain ⟨pairs, hpairs, rfl⟩ := Option.map_eq_some_iff.1 hj
    have hagain : (OrderedMap.mapValues write (OrderedMap.ofPairs pairs)).mapM
        (fun p => (read p.2).map fun v => (p.1, v)) = some (OrderedMap.ofPairs pairs) := by
      refine Outcome.mapM_map_of_forall fun p hp => ?_
      obtain ⟨q, -, hq⟩ := Outcome.mem_of_mapM_eq_some hpairs (OrderedMap.mem_of_mem_ofPairs hp)
      obtain ⟨v, hv, rfl⟩ := Option.map_eq_some_iff.1 hq
      exact congrArg (Option.map _) (h hv)
    have hdistinct := OrderedMap.nodup_keys_ofPairs pairs
    exact (congrArg (Option.map _) hagain).trans
      (congrArg some (OrderedMap.ofPairs_of_nodup hdistinct))
  | _ => cases hj

/-- What is there is not written as `null`, which would be read as nothing. -/
theorem orNull (h : RoundTrip read write)
    (hnull : ∀ ⦃j a⦄, j ≠ .null → read j = some a → write a ≠ .null) :
    RoundTrip (Fields.orNull read) (.ofOption write) := by
  intro j o hj
  cases o with
  | none => rfl
  | some a =>
    have hj0 : j ≠ .null := by
      rintro rfl
      cases hj
    rw [Fields.orNull_of_ne_null read hj0] at hj
    obtain ⟨a', ha', haa⟩ := Option.map_eq_some_iff.1 hj
    obtain rfl := Option.some.inj haa
    rw [Json.ofOption, Fields.orNull_of_ne_null read (hnull hj0 ha'), h ha', Option.map_some]

/-- A value that is kept as it is, and not `null`. -/
theorem wholeOrNull : RoundTrip (Fields.orNull some) (.ofOption id) :=
  whole.orNull fun _ _ hj ha => Option.some.inj ha ▸ hj

/-! ## Fields -/

variable {f : Fields} {name : String} {a : α}

theorem required (h : RoundTrip read write) (ha : f.required name read = some a) :
    read (write a) = some a := by
  obtain ⟨j, -, hj⟩ := Option.bind_eq_some_iff.1 ha
  exact h hj

/-- A missing field is written with its default. -/
theorem withDefault {default : α} (h : RoundTrip read write)
    (hdefault : read (write default) = some default)
    (ha : f.withDefault name default read = some a) : read (write a) = some a := by
  unfold Fields.withDefault at ha
  split at ha
  · exact Option.some.inj ha ▸ hdefault
  · exact h ha

theorem optional {o : Option α} (h : RoundTrip (Fields.orNull read) (.ofOption write))
    (ha : f.optional name read = some o) : Fields.orNull read (.ofOption write o) = some o :=
  h.withDefault rfl ha

theorem nullable {o : Option α} (h : RoundTrip (Fields.orNull read) (.ofOption write))
    (ha : f.nullable name read = some o) : Fields.orNull read (.ofOption write o) = some o := by
  unfold Fields.nullable at ha
  split at ha
  · exact h.required ha
  · exact h.optional ha

end RoundTrip

/-! ## The fields of a record that was written -/

namespace Fields

variable {α : Type} {members : List (String × Json)} {name : String} {j : Json}
  {read : Json → Option α}

@[simp] theorem of?_object (names : List String) :
    of? names (.object members) = some ⟨false, members⟩ := rfl

@[simp] theorem required_cons (k : String) :
    required ⟨false, (k, j) :: members⟩ name read =
      if k = name then read j else required ⟨false, members⟩ name read := by
  rw [required, OrderedMap.get?_cons]
  split <;> rfl

@[simp] theorem withDefault_cons (k : String) (default : α) :
    withDefault ⟨false, (k, j) :: members⟩ name default read =
      if k = name then read j else withDefault ⟨false, members⟩ name default read := by
  rw [withDefault, OrderedMap.get?_cons]
  by_cases hk : k = name
  · rw [if_pos hk, if_pos hk]
  · rw [if_neg hk, if_neg hk]
    rfl

@[simp] theorem optional_cons (k : String) :
    optional ⟨false, (k, j) :: members⟩ name read =
      if k = name then orNull read j else optional ⟨false, members⟩ name read :=
  withDefault_cons k none

@[simp] theorem nullable_cons (k : String) :
    nullable ⟨false, (k, j) :: members⟩ name read =
      if k = name then orNull read j else nullable ⟨false, members⟩ name read :=
  optional_cons k

theorem orNull_ofOption {write : α → Json} (h : ∀ a, read (write a) = some a)
    (hnull : ∀ a, write a ≠ .null) (o : Option α) : orNull read (.ofOption write o) = some o := by
  cases o with
  | none => rfl
  | some a => rw [Json.ofOption, orNull_of_ne_null read (hnull a), h a, Option.map_some]

@[simp] theorem orNull_ofOption_string (o : Option String) :
    orNull Json.asString? (.ofOption .string o) = some o := by
  have hread : ∀ s, Json.asString? (.string s) = some s := fun _ => rfl
  exact orNull_ofOption hread (fun _ => Json.noConfusion) o

end Fields

end ApiGateway
