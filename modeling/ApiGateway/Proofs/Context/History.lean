import ApiGateway.Proofs.Context.Agreement
/-!
# Context — variables and the history of writes

Two kinds of write make the variables of a context, and they take
precedence in opposite ways. Of the assignments to a name the last one
that is accepted counts (`LastSet`), of the properties with the name the
first one (`FirstCopied`), and an assignment counts more than a property
wherever the two stand.

The variable of a name after any writes is told in one equation from those
two (`binding?_afterWrites_eq`), which looks only at the writes that concern
the name (`binding?_congr_of_concerns`). What is left is to say in terms
of the history what the equation reads: `lastAssigned_eq_some_iff` and
`offered_copied_eq_some_iff`. `variable_of_history` puts them together
for a context that starts out without variables.
-/

namespace ApiGateway

namespace Context

variable {c : Context} {name : String} {ws ws' : List Write} {v : Json}

/-! ## Assignments that are accepted -/

/-- Setting a name to a value is accepted. -/
def Accepts (c : Context) (name : String) (v : Json) : Prop := ∃ c', c.setVariable name v = .ok c'

/-- **What is accepted** does not depend on the context: all but the frozen
names. -/
theorem accepts_iff : Accepts c name v ↔ ¬ Frozen name := by
  rw [← isFrozen_iff, Accepts, setVariable]
  by_cases h : isFrozen name = true
  · simp [h]
  · simp [h]

/-- An assignment that is not accepted changes nothing. -/
theorem write_assign_of_not_accepts (h : ¬ Accepts c name v) : c.write (.assign name v) = c := by
  rw [write]
  split
  next c' hset => exact absurd ⟨c', hset⟩ h
  next => rfl

theorem afterWrites_append (c : Context) (ws ws' : List Write) :
    c.afterWrites (ws ++ ws') = (c.afterWrites ws).afterWrites ws' := List.foldl_append

/-- **An assignment that is refused might as well not be there.** -/
theorem afterWrites_of_refused {before after : List Write}
    (h : ¬ Accepts (c.afterWrites before) name v) :
    c.afterWrites (before ++ .assign name v :: after) = c.afterWrites (before ++ after) := by
  have hstep : (c.afterWrites before).afterWrites (.assign name v :: after) =
      ((c.afterWrites before).write (.assign name v)).afterWrites after := rfl
  rw [afterWrites_append, hstep, write_assign_of_not_accepts h, ← afterWrites_append]

/-! ## The last assignment and the first property -/

/-- Among writes to a context, the last assignment to a name that is accepted
sets it to a value. -/
def LastSet (c : Context) (ws : List Write) (name : String) (v : Json) : Prop :=
  ∃ before after, ws = before ++ .assign name v :: after ∧ Accepts (c.afterWrites before) name v ∧
    ∀ mid v' rest, after = mid ++ .assign name v' :: rest →
      ¬ Accepts (c.afterWrites (before ++ .assign name v :: mid)) name v'

/-- Among writes, the first that copies a property of a name has a value for
it. -/
def FirstCopied (ws : List Write) (name : String) (v : Json) : Prop :=
  ∃ before ps after p, ws = before ++ .copy ps :: after ∧ OrderedMap.get? ps name = some p ∧
    p.value = v ∧ ∀ qs, .copy qs ∈ before → OrderedMap.get? qs name = none

theorem assigned_eq_some_iff {w : Write} :
    w.assigned name = some v ↔ w = .assign name v ∧ ¬ Frozen name := by
  cases w with
  | copy ps => simp [Write.assigned]
  | assign n value =>
    rw [Write.assigned, ← isFrozen_iff, Bool.not_eq_true]
    by_cases hn : n = name
    · subst hn
      cases isFrozen n <;> simp
    · simp [hn]

/-- **The value that was set last** is that of the last assignment that was
accepted. -/
theorem lastAssigned_eq_some_iff (c : Context) :
    lastAssigned ws name = some v ↔ LastSet c ws name v := by
  rw [lastAssigned, List.findSome?_eq_some_iff]
  constructor
  · rintro ⟨later, w, earlier, hws, hw, hlater⟩
    obtain ⟨rfl, hfrozen⟩ := assigned_eq_some_iff.1 hw
    refine ⟨earlier.reverse, later.reverse, ?_, accepts_iff.2 hfrozen, fun mid v' rest hmid => ?_⟩
    · rw [← List.reverse_reverse ws, hws]
      simp
    · -- nothing that comes later assigns the name, so what is asked of it holds of nothing
      have hmem : Write.assign name v' ∈ later := by
        rw [← List.mem_reverse, hmid]
        simp
      have hnone := hlater _ hmem
      rw [assigned_eq_some_iff.2 ⟨rfl, hfrozen⟩] at hnone
      cases hnone
  · rintro ⟨before, after, rfl, haccepts, hlast⟩
    have hfrozen := accepts_iff.1 haccepts
    refine ⟨after.reverse, .assign name v, before.reverse, by simp, ?_, fun w hw => ?_⟩
    · exact assigned_eq_some_iff.2 ⟨rfl, hfrozen⟩
    · cases hassigned : w.assigned name with
      | none => rfl
      | some v' =>
        obtain ⟨rfl, -⟩ := assigned_eq_some_iff.1 hassigned
        obtain ⟨mid, rest, hmid⟩ := List.append_of_mem (List.mem_reverse.1 hw)
        exact absurd (accepts_iff.2 hfrozen) (hlast mid v' rest hmid)

theorem get?_copied (ws : List Write) (name : String) :
    OrderedMap.get? (copied ws) name = ws.findSome? fun w => OrderedMap.get? w.copied name := by
  induction ws with
  | nil => rfl
  | cons w ws ih =>
    rw [copied_cons, OrderedMap.get?_append, ih, List.findSome?_cons]
    cases OrderedMap.get? w.copied name <;> rfl

/-- **The value that properties have for a name** is that of the first of
them. -/
theorem offered_copied_eq_some_iff (h : name ∉ reservedRoots) :
    offered (copied ws) name = some v ↔ FirstCopied ws name v := by
  rw [offered, if_neg h, get?_copied, Option.map_eq_some_iff]
  simp only [List.findSome?_eq_some_iff]
  constructor
  · rintro ⟨p, ⟨before, w, after, hws, hw, hbefore⟩, hv⟩
    cases w with
    | assign n value => cases hw
    | copy ps => exact ⟨before, ps, after, p, hws, hw, hv, fun qs hqs => hbefore _ hqs⟩
  · rintro ⟨before, ps, after, p, hws, hp, hv, hbefore⟩
    refine ⟨p, ⟨before, .copy ps, after, hws, hp, fun w hw => ?_⟩, hv⟩
    cases w with
    | assign n value => rfl
    | copy qs => exact hbefore qs hw

/-- Some assignment to a name is accepted. -/
def SetIn (c : Context) (ws : List Write) (name : String) : Prop :=
  ∃ before v after, ws = before ++ .assign name v :: after ∧ Accepts (c.afterWrites before) name v

/-- Some property of a name is copied. -/
def CopiedIn (ws : List Write) (name : String) : Prop :=
  ∃ ps, .copy ps ∈ ws ∧ name ∈ OrderedMap.keys ps

theorem setIn_iff : SetIn c ws name ↔ ∃ v, lastAssigned ws name = some v := by
  constructor
  · rintro ⟨before, v, after, rfl, haccepts⟩
    refine Option.isSome_iff_exists.1 (List.findSome?_isSome_iff.2 ⟨.assign name v, by simp, ?_⟩)
    rw [assigned_eq_some_iff.2 ⟨rfl, accepts_iff.1 haccepts⟩]
    rfl
  · rintro ⟨v, hv⟩
    obtain ⟨before, after, hws, haccepts, -⟩ := (lastAssigned_eq_some_iff c).1 hv
    exact ⟨before, v, after, hws, haccepts⟩

theorem exists_offered_of_copiedIn (h : name ∉ reservedRoots) (hcopied : CopiedIn ws name) :
    ∃ v, offered (copied ws) name = some v := by
  obtain ⟨ps, hps, hname⟩ := hcopied
  have hsome : (ws.findSome? fun w => OrderedMap.get? w.copied name).isSome = true :=
    List.findSome?_isSome_iff.2 ⟨.copy ps, hps, OrderedMap.isSome_get?_iff.2 hname⟩
  obtain ⟨p, hp⟩ := Option.isSome_iff_exists.1 hsome
  exact ⟨p.value, by rw [offered, if_neg h, get?_copied, hp, Option.map_some]⟩

/-! ## Writes that concern a name -/

/-- A write concerns a name: it assigns it, or copies a property of it. -/
def Write.concerns (name : String) : Write → Bool
  | .assign n _ => n = name
  | .copy ps => OrderedMap.contains ps name

theorem assigned_of_not_concerns {w : Write} (h : ¬ w.concerns name = true) :
    w.assigned name = none := by
  cases w with
  | copy ps => rfl
  | assign n value => exact if_neg fun hn => h (decide_eq_true hn.1)

theorem offered_of_not_concerns {w : Write} (h : ¬ w.concerns name = true) :
    offered w.copied name = none := by
  have hnone : OrderedMap.get? w.copied name = none := by
    cases w with
    | assign n value => rfl
    | copy ps => exact Option.not_isSome_iff_eq_none.1 h
  rw [offered, hnone, Option.map_none, ite_self]

theorem lastAssigned_filter_concerns (ws : List Write) (name : String) :
    lastAssigned (ws.filter (Write.concerns name)) name = lastAssigned ws name := by
  induction ws with
  | nil => rfl
  | cons w ws ih =>
    rw [List.filter_cons]
    split
    · rw [lastAssigned_cons, lastAssigned_cons, ih]
    · rename_i hw
      rw [ih, lastAssigned_cons, assigned_of_not_concerns hw, Option.or_none]

theorem offered_filter_concerns (ws : List Write) (name : String) :
    offered (copied (ws.filter (Write.concerns name))) name = offered (copied ws) name := by
  induction ws with
  | nil => rfl
  | cons w ws ih =>
    rw [List.filter_cons]
    split
    · rw [copied_cons, copied_cons, offered_append, offered_append, ih]
    · rename_i hw
      rw [ih, copied_cons, offered_append, offered_of_not_concerns hw, Option.none_or]

/-- **Writes that do not concern a name** do not matter to its variable. -/
theorem binding?_congr_of_concerns (c : Context)
    (h : ws.filter (Write.concerns name) = ws'.filter (Write.concerns name)) :
    (c.afterWrites ws).binding? name = (c.afterWrites ws').binding? name := by
  rw [binding?_afterWrites_eq, binding?_afterWrites_eq, ← lastAssigned_filter_concerns ws,
    ← offered_filter_concerns ws, h, lastAssigned_filter_concerns, offered_filter_concerns]

/-! ## What a name reads as -/

/-- A name that has a variable reads as it. -/
theorem valueOf?_of_binding (h : c.binding? name = some v) : c.valueOf? name = some v := by
  unfold valueOf?
  rw [show OrderedMap.get? c.bindings name = some v from h]

/-- **The variables of a context, told from its history.** A context that has
just been made is written to any number of times. Of a name that it does
not have itself:

* if an assignment is accepted, the name reads as the last that is,
  wherever properties are copied;
* otherwise, if a property of it is copied, it reads as the first;
* and in both cases it reads the same after any other writes among which
  those that concern it are the same.

An assignment that is refused leaves the context as it was, and so whatever
is read of it, by a name or as JSON, then and later. -/
theorem variable_of_history (api : Api) (snapshotId : SnapshotId) (testAppEnabled : Bool)
    (operation : OperationInfo) (endpoint : Endpoint) (client : ClientInfo)
    (environment : EnvironmentInfo) (plan : PlanInfo) (ws : List Write) :
    let c := create api snapshotId testAppEnabled operation endpoint client environment plan
    (∀ name, name ∉ reservedRoots →
      (SetIn c ws name → ∃ v, LastSet c ws name v ∧ (c.afterWrites ws).valueOf? name = some v) ∧
      (¬ SetIn c ws name → CopiedIn ws name →
        ∃ v, FirstCopied ws name v ∧ (c.afterWrites ws).valueOf? name = some v) ∧
      (SetIn c ws name ∨ CopiedIn ws name →
        ∀ ws', ws'.filter (Write.concerns name) = ws.filter (Write.concerns name) →
          (c.afterWrites ws').valueOf? name = (c.afterWrites ws).valueOf? name)) ∧
    ∀ before name v later, ws = before ++ .assign name v :: later →
      ¬ Accepts (c.afterWrites before) name v →
        c.afterWrites (before ++ [.assign name v]) = c.afterWrites before ∧
        c.afterWrites ws = c.afterWrites (before ++ later) := by
  intro c
  have hbinding : ∀ ws name, (c.afterWrites ws).binding? name =
      (lastAssigned ws name).or (offered (copied ws) name) := by
    intro ws name
    have hnew : c.binding? name = none := rfl
    rw [binding?_afterWrites_eq, hnew, Option.none_or]
  refine ⟨fun name hname => ⟨fun hset => ?_, fun hset hcopied => ?_, fun hwritten ws' hws' => ?_⟩,
    ?_⟩
  · obtain ⟨v, hv⟩ := setIn_iff.1 hset
    refine ⟨v, (lastAssigned_eq_some_iff c).1 hv, valueOf?_of_binding ?_⟩
    rw [hbinding, hv, Option.some_or]
  · obtain ⟨v, hv⟩ := exists_offered_of_copiedIn hname hcopied
    have hnone : lastAssigned ws name = none :=
      Option.eq_none_iff_forall_ne_some.2 fun v hv => hset (setIn_iff.2 ⟨v, hv⟩)
    refine ⟨v, (offered_copied_eq_some_iff hname).1 hv, valueOf?_of_binding ?_⟩
    rw [hbinding, hnone, Option.none_or, hv]
  · -- the name has a variable, and the other writes give it the same one
    obtain ⟨v, hv⟩ : ∃ v, (c.afterWrites ws).binding? name = some v := by
      rw [hbinding]
      cases hlast : lastAssigned ws name with
      | some v => exact ⟨v, rfl⟩
      | none =>
        have hset : ¬ SetIn c ws name := fun h => by
          obtain ⟨v, hv⟩ := setIn_iff.1 h
          exact absurd (hlast.symm.trans hv) nofun
        exact exists_offered_of_copiedIn hname (hwritten.resolve_left hset)
    rw [valueOf?_of_binding hv,
      valueOf?_of_binding ((binding?_congr_of_concerns c hws').trans hv)]
  · rintro before name v later rfl hrefused
    refine ⟨?_, afterWrites_of_refused hrefused⟩
    rw [afterWrites_of_refused hrefused, List.append_nil]

/-- Writes that concern `region` among others: it is copied twice, and set in
between and after. One assignment is refused. -/
def regionWrites : List Write :=
  [.copy [("region", ⟨.string "copied", none⟩), ("zone.name", ⟨.string "alps", none⟩)],
    .assign "region" (.string "set"), .assign "client.app.id" (.string "other"),
    .assign "region" (.string "set again"),
    .copy [("region", ⟨.string "copied late", none⟩), ("zone.name", ⟨.string "andes", none⟩)]]

/-- **The last assignment counts, and the first property** of a name that is
not set. -/
theorem region_set_last :
    "region" ∉ reservedRoots ∧ "zone.name" ∉ reservedRoots ∧
    SetIn calledByApp regionWrites "region" ∧
    ¬ SetIn calledByApp regionWrites "zone.name" ∧ CopiedIn regionWrites "zone.name" ∧
    (∃ v, LastSet calledByApp regionWrites "region" v ∧
      (calledByApp.afterWrites regionWrites).valueOf? "region" = some v) ∧
    (∃ v, FirstCopied regionWrites "zone.name" v ∧
      (calledByApp.afterWrites regionWrites).valueOf? "zone.name" = some v) ∧
    (calledByApp.afterWrites regionWrites).valueOf? "region" = some (.string "set again") ∧
    (calledByApp.afterWrites regionWrites).valueOf? "zone.name" = some (.string "alps") ∧
    ¬ Accepts (calledByApp.afterWrites (regionWrites.take 2)) "client.app.id" (.string "other") ∧
    calledByApp.afterWrites regionWrites =
      calledByApp.afterWrites (regionWrites.take 2 ++ regionWrites.drop 3) := by
  have hregion : "region" ∉ reservedRoots := by decide
  have hzone : "zone.name" ∉ reservedRoots := by decide
  have hset : SetIn calledByApp regionWrites "region" := setIn_iff.2 ⟨.string "set again", rfl⟩
  have hunset : ¬ SetIn calledByApp regionWrites "zone.name" := fun h => by
    obtain ⟨v, hv⟩ := setIn_iff.1 h
    cases hv
  have hcopied : CopiedIn regionWrites "zone.name" :=
    ⟨_, List.mem_cons_self, by decide⟩
  have hlaw := variable_of_history ⟨"api", .blank⟩ ⟨1, by decide⟩ false ⟨"GET", "/peaks", none⟩
    ⟨"http", none⟩ ⟨"app", none, ⟨"o", "acme"⟩, "u"⟩ ⟨"sandbox", ⟨"c", "sandbox"⟩, ⟨"o", "acme"⟩⟩
    ⟨"g", "gold", "p", "outdoors", []⟩ regionWrites
  have hrefused : ¬ Accepts (calledByApp.afterWrites (regionWrites.take 2)) "client.app.id"
      (.string "other") := fun h => accepts_iff.1 h (by decide)
  exact ⟨hregion, hzone, hset, hunset, hcopied, (hlaw.1 "region" hregion).1 hset,
    (hlaw.1 "zone.name" hzone).2.1 hunset hcopied, rfl, rfl, hrefused,
    (hlaw.2 (regionWrites.take 2) _ _ (regionWrites.drop 3) rfl hrefused).2⟩

end Context

end ApiGateway
