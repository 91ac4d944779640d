import ApiGateway.Proofs.Context.Frozen
/-!
# Context — reading a name, and reading the JSON

A policy reads the context by names, a pipeline may read it as JSON. For a
name without dots the two find something under the same names, and they
find the same, but for one case. Of a name that the context has a member
for and a variable too, reading by name takes the variable
(`valueOf?_of_dotless`) and the JSON the member (`member?_toJson`).

Properties never make such a variable, but setting may: it refuses the
frozen names only, and there are more names that the context itself has.
What is a variable after any writes is the last value that was set, or what
was there, or the first property (`binding?_afterWrites_eq`). So the two ways
of reading agree exactly under the condition of `readings_agree_exact`. In
`written_value_hidden` a value that was set is read by its name, and in the
JSON the context's own value stays.
-/

namespace ApiGateway

namespace Context

variable {c : Context} {name : String} {ws : List Write}

/-! ## The variables after writes -/

/-- The value that a write sets a name to, if it is accepted. -/
def Write.assigned (name : String) : Write → Option Json
  | .assign n value => if n = name ∧ isFrozen n = false then some value else none
  | .copy _ => none

/-- The value that writes set a name to last. -/
def lastAssigned (ws : List Write) (name : String) : Option Json :=
  ws.reverse.findSome? (Write.assigned name)

theorem lastAssigned_cons (w : Write) (ws : List Write) (name : String) :
    lastAssigned (w :: ws) name = (lastAssigned ws name).or (w.assigned name) := by
  rw [lastAssigned, List.reverse_cons, List.findSome?_append, lastAssigned,
    List.findSome?_singleton]

/-- **One write** and the variable of a name: what is set is there, and a
property is if nothing was. -/
theorem binding?_write_eq (c : Context) (w : Write) (name : String) :
    (c.write w).binding? name =
      (w.assigned name).or ((c.binding? name).or (offered w.copied name)) := by
  cases w with
  | copy ps => exact binding?_copyProperties c ps name
  | assign n value =>
    have hnone : offered (Write.assign n value).copied name = none := by
      simp [offered, Write.copied]
    rw [hnone, Option.or_none, write, setVariable, Write.assigned]
    by_cases hn : isFrozen n = true
    · rw [if_pos hn, if_neg fun h => Bool.noConfusion (h.2.symm.trans hn), Option.none_or]
    · rw [if_neg hn, binding?]
      by_cases hname : n = name
      · rw [if_pos ⟨hname, Bool.eq_false_iff.2 hn⟩, Option.some_or, hname]
        exact OrderedMap.get?_insert_self _ _ _
      · rw [if_neg fun h => hname h.1, Option.none_or]
        exact OrderedMap.get?_insert_of_ne _ _ hname

/-- **Any number of writes** and the variable of a name: the value that was
set last, or the variable that was there, or the first property. -/
theorem binding?_afterWrites_eq (c : Context) (ws : List Write) (name : String) :
    (c.afterWrites ws).binding? name =
      (lastAssigned ws name).or ((c.binding? name).or (offered (copied ws) name)) := by
  induction ws generalizing c with
  | nil => simp [afterWrites, copied, offered, lastAssigned]
  | cons w ws ih =>
    change ((c.write w).afterWrites ws).binding? name = _
    rw [ih, binding?_write_eq, lastAssigned_cons, copied_cons, offered_append]
    simp only [Option.or_assoc]

/-! ## The two ways of reading -/

/-- **The JSON has the context's own members, and the variables behind
them.** -/
theorem member?_toJson (c : Context) (name : String) :
    c.toJson.member? name = (OrderedMap.get? c.ownMembers name).or (c.binding? name) :=
  get?_foldl_withVariable _ _ _

/-- **A name without dots reads as its variable**, or else as the context's
own member. -/
theorem valueOf?_of_dotless (c : Context) (h : '.' ∉ name.toList) :
    c.valueOf? name = (c.binding? name).or (OrderedMap.get? c.ownMembers name) := by
  have hpieces : name.pieces '.' = [name] := by
    rw [String.pieces, Text.pieces_of_not_mem h, List.map_cons, String.ofList_toList, List.map_nil]
  have hsecret : name ≠ secretName := by
    rintro rfl
    exact h (by decide)
  have hfollow : follow c.toJson [name] = c.toJson.member? name := Option.bind_fun_some _
  unfold valueOf?
  rw [if_neg hsecret, hpieces, hfollow, member?_toJson, binding?]
  cases OrderedMap.get? c.bindings name with
  | none => simp
  | some v => rfl

/-- **The names that the context itself has** are the reserved ones. -/
theorem isSome_ownMember (c : Context) (name : String) :
    (OrderedMap.get? c.ownMembers name).isSome = true ↔ name ∈ reservedRoots := by
  rw [OrderedMap.isSome_get?_iff]
  have hkeys : OrderedMap.keys c.ownMembers = ["_", "config-snapshot-id", "test-app-enabled",
      "api", "client", "env", "plan", "request", "message"] := rfl
  have hperm : (OrderedMap.keys c.ownMembers).Perm reservedRoots := by
    rw [hkeys]
    decide
  exact hperm.mem_iff

/-- The two ways of reading find something under the same names. -/
theorem isSome_valueOf?_eq (c : Context) (h : '.' ∉ name.toList) :
    (c.valueOf? name).isSome = (c.toJson.member? name).isSome := by
  rw [valueOf?_of_dotless c h, member?_toJson, Option.isSome_or, Option.isSome_or, Bool.or_comm]

/-- **They find the same** unless there is a variable beside a member of the
context itself, and the two differ. -/
theorem valueOf?_eq_member?_iff (c : Context) (h : '.' ∉ name.toList) :
    c.valueOf? name = c.toJson.member? name ↔
      ∀ own v, OrderedMap.get? c.ownMembers name = some own → c.binding? name = some v →
        own = v := by
  rw [valueOf?_of_dotless c h, member?_toJson]
  cases OrderedMap.get? c.ownMembers name with
  | none => simp
  | some own =>
    cases c.binding? name with
    | none => simp
    | some v => simp [eq_comm]

/-! ## After any writes -/

theorem ownMembers_afterWrites (c : Context) (ws : List Write) :
    (c.afterWrites ws).ownMembers = c.ownMembers := by
  obtain ⟨b, hb⟩ := exists_afterWrites_eq c ws
  rw [hb]
  rfl

/-- A name that the context itself has gets a variable by setting alone: no
property takes it. -/
theorem binding?_afterWrites_own (c : Context) (ws : List Write) {own : Json}
    (h : OrderedMap.get? c.ownMembers name = some own) :
    (c.afterWrites ws).binding? name = (lastAssigned ws name).or (c.binding? name) := by
  have hreserved : name ∈ reservedRoots := (isSome_ownMember c name).1 (h ▸ rfl)
  rw [binding?_afterWrites_eq, offered, if_pos hreserved, Option.or_none]

/-- **When reading by name and reading the JSON agree.** After any writes,
accepted or refused, the two find something under the same names without
dots. They find the same exactly if no such name of the context's own has
been set to another value than the context has for it, nor was before; what
properties were copied does not matter. A value that was set is in the JSON
exactly if the context has no member of the name or has just that value. So
all is well as long as no name of the context's own is set. -/
theorem readings_agree_exact (c : Context) (ws : List Write) :
    let after := c.afterWrites ws
    (∀ name, '.' ∉ name.toList →
      (after.valueOf? name).isSome = (after.toJson.member? name).isSome) ∧
    (∀ name, '.' ∉ name.toList → (after.valueOf? name = after.toJson.member? name ↔
      ∀ own v, OrderedMap.get? c.ownMembers name = some own →
        (lastAssigned ws name).or (c.binding? name) = some v → own = v)) ∧
    (∀ name v, lastAssigned ws name = some v → (after.toJson.member? name = some v ↔
      ∀ own, OrderedMap.get? c.ownMembers name = some own → own = v)) ∧
    ((∀ name ∈ reservedRoots, c.binding? name = none ∧ lastAssigned ws name = none) →
      ∀ name, '.' ∉ name.toList → after.valueOf? name = after.toJson.member? name) := by
  intro after
  have hown : after.ownMembers = c.ownMembers := ownMembers_afterWrites c ws
  have hagree : ∀ name, '.' ∉ name.toList → (after.valueOf? name = after.toJson.member? name ↔
      ∀ own v, OrderedMap.get? c.ownMembers name = some own →
        (lastAssigned ws name).or (c.binding? name) = some v → own = v) := by
    intro name h
    rw [valueOf?_eq_member?_iff after h, hown]
    refine forall₂_congr fun own v => forall_congr' fun ho => ?_
    rw [binding?_afterWrites_own c ws ho]
  refine ⟨fun name h => isSome_valueOf?_eq after h, hagree, fun name v hv => ?_, fun hnone => ?_⟩
  · have hbinding : after.binding? name = some v := by
      rw [binding?_afterWrites_eq, hv, Option.some_or]
    rw [member?_toJson, hown, hbinding]
    cases OrderedMap.get? c.ownMembers name with
    | none => simp
    | some own => simp
  · refine fun name h => (hagree name h).2 fun own v ho hv => ?_
    obtain ⟨hb, ha⟩ := hnone name ((isSome_ownMember c name).1 (ho ▸ rfl))
    rw [ha, hb] at hv
    cases hv

/-! ## A value that is written and not seen -/

/-- **A value that was set is hidden in the JSON.** Setting `test-app-enabled`
is accepted, and reading the name gives what was set; in the JSON the
context's own value stands. -/
theorem written_value_hidden :
    let after := calledByApp.afterWrites [.assign "test-app-enabled" (.bool true)]
    '.' ∉ "test-app-enabled".toList ∧
    lastAssigned [.assign "test-app-enabled" (.bool true)] "test-app-enabled" =
      some (.bool true) ∧
    after.valueOf? "test-app-enabled" = some (.bool true) ∧
    after.toJson.member? "test-app-enabled" = some (.bool false) :=
  ⟨by decide, rfl, rfl, rfl⟩

end Context

end ApiGateway
