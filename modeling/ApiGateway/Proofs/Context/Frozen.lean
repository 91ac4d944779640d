import ApiGateway.Context.Variables
import ApiGateway.Proofs.DistinctKeys
import ApiGateway.Proofs.Text.Cutting
/-!
# Context — what writes do to frozen names

Two kinds of write reach the variables of a context, each with a guard of
its own. Setting a variable is refused if its name is frozen, by what the
name begins with. Copying properties looks at whole names only: it passes
over those that the context itself has and those of variables. A variable
hides what the context itself has under its name, so a property with a
dotted name, or with the name `request.body`, may come to stand before a
frozen value.

What a frozen name reads as after any writes is said by
`valueOf?_afterWrites`: as before, unless the context had no variable of
that name and a property of it was copied; then it is the first such
property. So writes leave the frozen names alone exactly under the
condition of `frozen_exact`. In `property_hides_frozen` they do not.
-/

namespace ApiGateway

namespace Context

variable {c : Context} {name : String}

/-! ## Frozen names -/

/-- A name is that of a value, or of something in it. -/
def Within (place name : String) : Prop := name = place ∨ (place ++ ".").toList <+: name.toList

/-- **The frozen names**: those of the identity of the call and of the
body of its request, and of all that is in them. -/
def Frozen (name : String) : Prop :=
  Within "client" name ∨ Within "env" name ∨ Within "plan" name ∨ Within "request.body" name

instance (place name : String) : Decidable (Within place name) :=
  inferInstanceAs (Decidable (_ ∨ _))

instance (name : String) : Decidable (Frozen name) :=
  inferInstanceAs (Decidable (_ ∨ _))

/-- A name has a root without dots exactly if it is within it. -/
theorem root_eq_iff {place : String} (hplace : '.' ∉ place.toList) :
    root name = place ↔ Within place name := by
  have hroot : root name = String.ofList ((Text.pieces '.' name.toList).headD []) := by
    unfold root String.pieces
    cases hp : Text.pieces '.' name.toList with
    | nil => exact absurd hp (Text.pieces_ne_nil _ _)
    | cons p ps => rfl
  have hlist : root name = place ↔ (Text.pieces '.' name.toList).headD [] = place.toList := by
    rw [hroot]
    constructor
    · rintro rfl
      simp
    · intro h
      rw [h, String.ofList_toList]
  rw [hlist, Text.headD_pieces_eq_iff hplace, Within, String.toList_append, String.toList_inj]
  rfl

/-- **The guard of setting refuses exactly the frozen names.** -/
theorem isFrozen_iff : isFrozen name = true ↔ Frozen name := by
  have hmem : root name ∈ frozenRoots ↔
      Within "client" name ∨ Within "env" name ∨ Within "plan" name := by
    rw [← root_eq_iff (by decide), ← root_eq_iff (by decide), ← root_eq_iff (by decide)]
    simp [frozenRoots]
  have hdot : ("request.body" ++ ".").toList = "request.body.".toList := rfl
  rw [isFrozen, Bool.or_eq_true, Bool.or_eq_true, List.contains_iff_mem, hmem,
    decide_eq_true_eq, List.isPrefixOf_iff_prefix, ← hdot, or_assoc, Frozen]
  simp only [Within, or_assoc]

/-! ## Writes -/

/-- A write to a context. -/
inductive Write where
  | assign (name : String) (value : Json)
  | copy (ps : OrderedMap String ApiProperty)

/-- The context after a write; one that is refused changes nothing. -/
def write (c : Context) : Write → Context
  | .assign name value =>
    match c.setVariable name value with
    | .ok c' => c'
    | .error _ => c
  | .copy ps => c.copyProperties ps

/-- The context after writes, in their order. -/
def afterWrites (c : Context) (ws : List Write) : Context := ws.foldl write c

/-- The properties that a write copies. -/
def Write.copied : Write → OrderedMap String ApiProperty
  | .assign .. => []
  | .copy ps => ps

/-- The properties that writes copy, in their order. -/
def copied (ws : List Write) : OrderedMap String ApiProperty := ws.flatMap Write.copied

theorem copied_cons (w : Write) (ws : List Write) : copied (w :: ws) = w.copied ++ copied ws := rfl

/-- The value that properties have for a name: that of the first one of
the name, and none for a name that the context itself has. -/
def offered (ps : OrderedMap String ApiProperty) (name : String) : Option Json :=
  if name ∈ reservedRoots then none else (OrderedMap.get? ps name).map ApiProperty.value

/-- The variable of a name. -/
def binding? (c : Context) (name : String) : Option Json := OrderedMap.get? c.bindings name

theorem offered_append (ps qs : OrderedMap String ApiProperty) (name : String) :
    offered (ps ++ qs) name = (offered ps name).or (offered qs name) := by
  unfold offered
  by_cases h : name ∈ reservedRoots
  · rw [if_pos h, if_pos h, if_pos h, Option.or_none]
  · rw [if_neg h, if_neg h, if_neg h, OrderedMap.get?_append, Option.map_or]

/-- **What copying a property does to the variables**: it adds one, where
there is none and the context itself has none of the name. -/
theorem binding?_copyProperty (c : Context) (p : String × ApiProperty) (name : String) :
    (c.copyProperty p).binding? name = (c.binding? name).or (offered [p] name) := by
  unfold copyProperty offered binding?
  by_cases hname : p.1 = name
  · subst hname
    by_cases hres : p.1 ∈ reservedRoots
    · simp [hres]
    · cases hb : OrderedMap.get? c.bindings p.1 with
      | none => simp [hres, OrderedMap.contains, hb, OrderedMap.get?_cons]
      | some v => simp [OrderedMap.contains, hb]
  · have hnone : OrderedMap.get? [p] name = none := by simp [OrderedMap.get?_cons, hname]
    rw [hnone, Option.map_none, ite_self, Option.or_none]
    split
    · rfl
    · exact OrderedMap.get?_insert_of_ne _ _ hname

theorem binding?_copyProperties (c : Context) (ps : OrderedMap String ApiProperty)
    (name : String) :
    (c.copyProperties ps).binding? name = (c.binding? name).or (offered ps name) := by
  induction ps generalizing c with
  | nil => simp [copyProperties, offered]
  | cons p ps ih =>
    change ((c.copyProperty p).copyProperties ps).binding? name = _
    rw [ih, binding?_copyProperty, Option.or_assoc, ← offered_append, List.singleton_append]

/-- **One write** and the variable of a frozen name: setting cannot write
it, and copying may add it. -/
theorem binding?_write (c : Context) (w : Write) (h : Frozen name) :
    (c.write w).binding? name = (c.binding? name).or (offered w.copied name) := by
  cases w with
  | copy ps => exact binding?_copyProperties c ps name
  | assign n value =>
    have hnone : offered (Write.assign n value).copied name = none := by
      simp [offered, Write.copied]
    rw [hnone, Option.or_none, write, setVariable]
    by_cases hn : isFrozen n = true
    · rw [if_pos hn]
    · rw [if_neg hn]
      have hne : n ≠ name := fun e => hn (isFrozen_iff.2 (e ▸ h))
      exact OrderedMap.get?_insert_of_ne c.bindings value hne

/-- **Any number of writes** and the variable of a frozen name. -/
theorem binding?_afterWrites (c : Context) (ws : List Write) (h : Frozen name) :
    (c.afterWrites ws).binding? name = (c.binding? name).or (offered (copied ws) name) := by
  induction ws generalizing c with
  | nil => simp [afterWrites, copied, offered]
  | cons w ws ih =>
    change ((c.write w).afterWrites ws).binding? name = _
    rw [ih, binding?_write c w h, Option.or_assoc, ← offered_append]
    rfl

/-! ## What a frozen name reads as -/

/-- The value that the context itself has for a name. -/
def ownValue? (c : Context) (name : String) : Option Json :=
  if name = secretName then c.client.appSecret.map .string
  else follow (.object c.ownMembers) (name.pieces '.')

/-- The members of the context itself stand before its variables. -/
theorem get?_foldl_withVariable (members bindings : List (String × Json)) (key : String) :
    OrderedMap.get? (bindings.foldl withVariable members) key =
      (OrderedMap.get? members key).or (OrderedMap.get? bindings key) := by
  induction bindings generalizing members with
  | nil => simp
  | cons v bindings ih =>
    have hstep : OrderedMap.get? (withVariable members v) key =
        (OrderedMap.get? members key).or (OrderedMap.get? [v] key) := by
      unfold withVariable
      split
      next hv =>
        by_cases hk : v.1 = key
        · obtain ⟨x, hx⟩ := Option.isSome_iff_exists.1 (hk ▸ hv : OrderedMap.contains members key)
          rw [hx, Option.some_or]
        · simp [OrderedMap.get?_cons, hk]
      next => exact OrderedMap.get?_append members [v] key
    rw [List.foldl_cons, ih, hstep, Option.or_assoc, ← OrderedMap.get?_append,
      List.singleton_append]

/-- A frozen name is looked for in a member that the context itself
has. -/
theorem exists_member_root (c : Context) (h : Frozen name) :
    ∃ v, OrderedMap.get? c.ownMembers (root name) = some v := by
  have hroot : root name ∈ ["client", "env", "plan", "request"] := by
    rcases h with h | h | h | h
    · simp [(root_eq_iff (by decide)).2 h]
    · simp [(root_eq_iff (by decide)).2 h]
    · simp [(root_eq_iff (by decide)).2 h]
    · have hrequest : Within "request" name := by
        rcases h with rfl | h
        · decide
        · exact Or.inr (List.IsPrefix.trans (by decide) h)
      simp [(root_eq_iff (by decide)).2 hrequest]
  simp only [List.mem_cons, List.not_mem_nil, or_false] at hroot
  rcases hroot with h | h | h | h
  · exact ⟨c.client.toJson, by rw [h]; rfl⟩
  · exact ⟨c.environment.toJson, by rw [h]; rfl⟩
  · exact ⟨c.plan.toJson, by rw [h]; rfl⟩
  · exact ⟨_, by rw [h]; rfl⟩

/-- **A frozen name reads as its variable**, or else as what the context
itself has. -/
theorem valueOf?_eq (c : Context) (h : Frozen name) :
    c.valueOf? name = (c.binding? name).or (c.ownValue? name) := by
  have hfollow : follow c.toJson (name.pieces '.') =
      follow (.object c.ownMembers) (name.pieces '.') := by
    obtain ⟨v, hv⟩ := exists_member_root c h
    have hroot : name.pieces '.' = root name :: (name.pieces '.').tail := by
      unfold root String.pieces
      cases hp : Text.pieces '.' name.toList with
      | nil => exact absurd hp (Text.pieces_ne_nil _ _)
      | cons p ps => rfl
    have hjson : c.toJson.member? (root name) = some v := by
      rw [toJson, Json.member?, get?_foldl_withVariable, hv, Option.some_or]
    rw [hroot, follow, follow, hjson, Json.member?, hv]
  unfold valueOf? binding? ownValue?
  rw [hfollow]
  cases OrderedMap.get? c.bindings name <;> rfl

/-- Writes change nothing but the variables. -/
theorem exists_afterWrites_eq (c : Context) (ws : List Write) :
    ∃ b, c.afterWrites ws = { c with bindings := b } := by
  have hcopy : ∀ (ps : OrderedMap String ApiProperty) (c : Context),
      ∃ b, c.copyProperties ps = { c with bindings := b } := by
    intro ps
    induction ps with
    | nil => exact fun c => ⟨c.bindings, rfl⟩
    | cons p ps ih =>
      intro c
      obtain ⟨b, hb⟩ := ih (c.copyProperty p)
      refine ⟨b, hb.trans ?_⟩
      unfold copyProperty
      split <;> rfl
  induction ws generalizing c with
  | nil => exact ⟨c.bindings, rfl⟩
  | cons w ws ih =>
    obtain ⟨b, hb⟩ := ih (c.write w)
    refine ⟨b, hb.trans ?_⟩
    cases w with
    | copy ps =>
      obtain ⟨b', hb'⟩ := hcopy ps c
      rw [write, hb']
    | assign n value =>
      rw [write, setVariable]
      split
      next heq =>
        split at heq
        · cases heq
        · cases heq
          rfl
      next => rfl

theorem ownValue?_afterWrites (c : Context) (ws : List Write) (name : String) :
    (c.afterWrites ws).ownValue? name = c.ownValue? name := by
  obtain ⟨b, hb⟩ := exists_afterWrites_eq c ws
  rw [hb]
  rfl

/-- **What a frozen name reads as after writes**: as before if there was
a variable of it, and otherwise as the first property of it that was
copied, or as before if there was none. -/
theorem valueOf?_afterWrites (c : Context) (ws : List Write) (h : Frozen name) :
    (c.afterWrites ws).valueOf? name =
      if (c.binding? name).isSome then c.valueOf? name
      else (offered (copied ws) name).or (c.valueOf? name) := by
  rw [valueOf?_eq _ h, valueOf?_eq c h, binding?_afterWrites c ws h, ownValue?_afterWrites]
  cases hb : c.binding? name with
  | none => simp
  | some v => simp

/-- **When frozen names stay as they are.** Whatever is written, a frozen
name reads as before unless the context has no variable of it and a
property of it is copied, and then it reads as the first such property.
So all frozen names read as before exactly if each of those properties
has the value that was there. They do if no property with a frozen name
is copied but those of the names `client`, `env` and `plan`, which are
passed over. -/
theorem frozen_exact (c : Context) (ws : List Write) :
    (∀ name, Frozen name → (c.afterWrites ws).valueOf? name =
      if (c.binding? name).isSome then c.valueOf? name
      else (offered (copied ws) name).or (c.valueOf? name)) ∧
    ((∀ name, Frozen name → (c.afterWrites ws).valueOf? name = c.valueOf? name) ↔
      ∀ name, Frozen name → c.binding? name = none →
        ∀ v, offered (copied ws) name = some v → c.valueOf? name = some v) ∧
    ((∀ p ∈ copied ws, Frozen p.1 → p.1 ∈ frozenRoots) →
      ∀ name, Frozen name → (c.afterWrites ws).valueOf? name = c.valueOf? name) := by
  have hkept : (∀ name, Frozen name → (c.afterWrites ws).valueOf? name = c.valueOf? name) ↔
      ∀ name, Frozen name → c.binding? name = none →
        ∀ v, offered (copied ws) name = some v → c.valueOf? name = some v := by
    refine forall₂_congr fun name h => ?_
    rw [valueOf?_afterWrites c ws h]
    cases hb : c.binding? name with
    | some v => simp
    | none =>
      cases offered (copied ws) name with
      | none => simp
      | some v => simp [eq_comm]
  refine ⟨fun name h => valueOf?_afterWrites c ws h, hkept, fun hnone => ?_⟩
  refine hkept.2 fun name h _ v hv => ?_
  unfold offered at hv
  by_cases hres : name ∈ reservedRoots
  · rw [if_pos hres] at hv
    cases hv
  · rw [if_neg hres] at hv
    -- a property of the name was copied, so the name is one of the three roots
    obtain ⟨p, hp, -⟩ := Option.map_eq_some_iff.1 hv
    have hroot : name ∈ frozenRoots := hnone _ (OrderedMap.mem_of_get? hp) h
    have hsub : frozenRoots ⊆ reservedRoots := by decide
    exact absurd (hsub hroot) hres

/-! ## A property before a frozen value -/

/-- The context of a call by the client `app`. -/
def calledByApp : Context :=
  create ⟨"api", .blank⟩ ⟨1, by decide⟩ false ⟨"GET", "/peaks", none⟩ ⟨"http", none⟩
    ⟨"app", none, ⟨"o", "acme"⟩, "u"⟩ ⟨"sandbox", ⟨"c", "sandbox"⟩, ⟨"o", "acme"⟩⟩
    ⟨"g", "gold", "p", "outdoors", []⟩

/-- **A property hides a frozen value**: after one of the name
`client.app.id` is copied, the client has another id. -/
theorem property_hides_frozen :
    Frozen "client.app.id" ∧
    calledByApp.valueOf? "client.app.id" = some (.string "app") ∧
    (calledByApp.afterWrites [.copy [("client.app.id", ⟨.string "other", none⟩)]]).valueOf?
      "client.app.id" = some (.string "other") :=
  ⟨by decide, rfl, rfl⟩

end Context

end ApiGateway
