import ApiGateway.Proofs.Records.Belonging
import ApiGateway.Proofs.Snapshots.Release
import Mathlib.Data.List.Perm.Basic
/-!
# Snapshots — every reference is accounted for

Whoever runs on a snapshot holds a lease on it, and one installer makes
snapshots current. An installation has two halves: the flags change at
once, and afterwards the references of those that were current are given
back one by one, while others acquire and drop leases. `Custody` is the
store with the leases that are held and the references that the installer
still owes, and `Custody.step` is one step of anybody.

A snapshot then has as many references as there are leases on it, one more
if it is current, and one more for each that is owed. `Custody.Accounted`
says so of a state and is kept by every step (`Accounted.step`), so it
holds along every run. What a step does to the records of a snapshot
follows (`Accounted.recordsOf_step`): they go in the step that takes the last
reference away, and in no other.
-/

namespace ApiGateway

/-- A store with the references that are out: the leases that are held,
and what the installer has to give back. -/
structure Custody where
  store : Store
  /-- The snapshots of the leases that are held, one for each lease. -/
  held : List SnapshotId
  /-- The snapshots whose references the installer still owes. -/
  owed : List SnapshotId

namespace Custody

variable {c : Custody}

/-- What can happen. -/
inductive Act where
  /-- The installer makes a snapshot current. -/
  | promote (id : SnapshotId)
  /-- The installer gives back the first reference that it owes. -/
  | repay
  /-- Somebody takes a lease on the current snapshot. -/
  | acquire
  /-- One of the leases that are held is dropped, and is held no more. -/
  | drop (lease : Nat)
  deriving DecidableEq, Repr

/-- The installer makes a snapshot current, and owes the references of
those that were. If it is cut off it owes nothing: the second half of that
installation never comes. -/
def promote (c : Custody) (id : SnapshotId) : Custody :=
  match c.store.promote id with
  | (none, store) => ⟨store, c.held, []⟩
  | (some _, store) => ⟨store, c.held, c.store.snapshots.others id⟩

/-- One step. The installer begins an installation only when it has
finished the one before; what cannot be done changes nothing. -/
def step (c : Custody) : Act → Custody
  | .promote id => if c.owed = [] then c.promote id else c
  | .repay =>
    match c.owed with
    | [] => c
    | id :: rest => ⟨(c.store.release id).2, c.held, rest⟩
  | .acquire =>
    match c.store.acquire? with
    | none => c
    | some (row, store) => ⟨store, c.held ++ [row.id], c.owed⟩
  | .drop lease =>
    match c.held[lease]? with
    | none => c
    | some id => ⟨(c.store.release id).2, c.held.eraseIdx lease, c.owed⟩

/-- The state after steps one after the other. -/
def run (c : Custody) (as : List Act) : Custody := as.foldl step c

/-- A store in whose table nothing is registered yet; nobody holds or owes
anything. -/
def start (s : Store) : Custody := ⟨{ s with snapshots := [] }, [], []⟩

/-- How many references to a snapshot there have to be: its leases, its
being current, and what is owed. -/
def references (c : Custody) (id : SnapshotId) : Nat :=
  c.held.count id + (if c.store.snapshots.isCurrent id then 1 else 0) + c.owed.count id

/-- Every snapshot has fewer references than can be counted, by one. -/
def HasRoom (c : Custody) : Prop := ∀ id, c.references id < Nat.pow 2 32 - 1

/-- There is room before every step of a run. -/
def Roomy : Custody → List Act → Prop
  | _, [] => True
  | c, a :: as => c.HasRoom ∧ Roomy (c.step a) as

/-! ## What a step can do -/

/-- **Everything that a step can do**: nothing, a promotion, a lease more,
or a reference given back that was held or owed. -/
theorem step_cases (c : Custody) (a : Act) :
    c.step a = c ∨
    (∃ id, a = .promote id ∧ c.owed = [] ∧ c.step a = c.promote id) ∨
    (∃ row t, c.store.snapshots.acquire? = some (row, t) ∧
      c.step a = ⟨{ c.store with snapshots := t }, c.held ++ [row.id], c.owed⟩) ∨
    (∃ id held owed,
      (∀ x, c.held.count x + c.owed.count x =
        held.count x + owed.count x + if x = id then 1 else 0) ∧
      (owed ≠ [] → c.owed ≠ []) ∧ c.step a = ⟨(c.store.release id).2, held, owed⟩) := by
  cases a with
  | promote id =>
    by_cases h : c.owed = []
    · exact Or.inr (Or.inl ⟨id, rfl, h, if_pos h⟩)
    · exact Or.inl (if_neg h)
  | repay =>
    cases h : c.owed with
    | nil => exact Or.inl (by simp only [step, h])
    | cons id rest =>
      refine Or.inr (Or.inr (Or.inr ⟨id, c.held, rest, fun x => ?_, fun _ => List.cons_ne_nil _ _,
        by simp only [step, h]⟩))
      -- the first reference that is owed is the one given back
      rw [List.count_cons]
      simp only [beq_iff_eq, eq_comm (a := id)]
      omega
  | acquire =>
    cases h : c.store.snapshots.acquire? with
    | none => exact Or.inl (by simp only [step, Store.acquire?, h, Option.map_none])
    | some r =>
      exact Or.inr (Or.inr (Or.inl ⟨r.1, r.2, rfl, by
        simp only [step, Store.acquire?, h, Option.map_some]⟩))
  | drop lease =>
    cases h : c.held[lease]? with
    | none => exact Or.inl (by simp only [step, h])
    | some id =>
      refine Or.inr (Or.inr (Or.inr ⟨id, c.held.eraseIdx lease, c.owed, fun x => ?_, fun h => h,
        by simp only [step, h]⟩))
      -- a lease may be held twice: only this one of them goes
      obtain ⟨hlt, hid⟩ := List.getElem?_eq_some_iff.1 h
      have hcount := (List.getElem_cons_eraseIdx_perm hlt).count_eq x
      rw [hid, List.count_cons] at hcount
      simp only [beq_iff_eq, eq_comm (a := id)] at hcount
      omega

/-! ## The invariant -/

/-- **The account balances**: the table is sound, every snapshot has as
many references as are out, and the installer owes something only once a
snapshot is current. -/
structure Accounted (c : Custody) : Prop where
  sound : c.store.snapshots.Sound
  counted : ∀ id, c.store.snapshots.refcount id = c.references id
  installed : c.owed ≠ [] → ∃ id, c.store.snapshots.isCurrent id = true

theorem accounted_start (s : Store) : (start s).Accounted :=
  ⟨SnapshotTable.sound_nil, fun _ => rfl, fun h => absurd rfl h⟩

/-- Room in the account is room in the table. -/
theorem Accounted.hasRoomFor (h : c.Accounted) (hroom : c.HasRoom) (id : SnapshotId) :
    c.store.snapshots.HasRoomFor id :=
  Or.inr (h.counted id ▸ hroom id)

/-- Where there is room the installer owes what was current. -/
theorem promote_of_room {id : SnapshotId} (h : c.store.snapshots.HasRoomFor id) :
    c.promote id = ⟨(c.store.promote id).2, c.held, c.store.snapshots.others id⟩ := by
  rw [Custody.promote, Store.promote, SnapshotTable.promote_of_room h]

/-- Giving a reference back that is out leaves the current snapshot
current: it has one reference more than those that are out. -/
theorem Accounted.isCurrent_release (h : c.Accounted) {id : SnapshotId}
    (hout : 0 < c.held.count id + c.owed.count id) (x : SnapshotId) :
    (c.store.release id).2.snapshots.isCurrent x = c.store.snapshots.isCurrent x := by
  rw [Store.snapshots_release, SnapshotTable.isCurrent_release]
  cases hcur : c.store.snapshots.isCurrent x with
  | true =>
    -- were it the last reference, being current would not be counted
    refine if_neg fun hx => ?_
    have hone := hx.2
    rw [h.counted id, references, ← hx.1, hcur, if_pos rfl] at hone
    rw [← hx.1] at hout
    omega
  | false => exact ite_self _

/-- A reference given back that is out keeps the account. -/
theorem Accounted.release (h : c.Accounted) {id : SnapshotId} {held owed : List SnapshotId}
    (hgiven : ∀ x, c.held.count x + c.owed.count x =
      held.count x + owed.count x + if x = id then 1 else 0)
    (howed : owed ≠ [] → c.owed ≠ []) :
    Accounted ⟨(c.store.release id).2, held, owed⟩ := by
  have hid := hgiven id
  rw [if_pos rfl] at hid
  have hcur : ∀ x, (c.store.release id).2.snapshots.isCurrent x = c.store.snapshots.isCurrent x :=
    h.isCurrent_release (by omega)
  refine ⟨?_, fun x => ?_, fun ho => ?_⟩
  · exact Store.snapshots_release c.store id ▸ h.sound.release id
  · have hx := hgiven x
    have hc := h.counted x
    simp only [references, hcur] at hc ⊢
    rw [Store.snapshots_release, SnapshotTable.refcount_release]
    by_cases he : x = id
    · subst he
      rw [if_pos rfl] at hx ⊢
      omega
    · rw [if_neg he] at hx ⊢
      omega
  · obtain ⟨x, hx⟩ := h.installed (howed ho)
    exact ⟨x, (hcur x).trans hx⟩

/-- A promotion keeps the account: what was current is owed. -/
theorem Accounted.promote (h : c.Accounted) {id : SnapshotId}
    (hr : c.store.snapshots.HasRoomFor id) (howed : c.owed = []) : (c.promote id).Accounted := by
  rw [promote_of_room hr]
  refine ⟨h.sound.promote id, fun x => ?_, fun _ => ⟨id, SnapshotTable.isCurrent_promote_self hr⟩⟩
  have hc := h.counted x
  change (c.store.snapshots.promote id).2.refcount x = _
  rw [h.sound.keyed.own.refcount_promote hr, hc]
  change _ = c.held.count x + (if (c.store.snapshots.promote id).2.isCurrent x = true then 1 else 0)
    + (c.store.snapshots.others id).count x
  simp only [h.sound.keyed.own.isCurrent_promote, hr, and_true]
  rw [h.sound.count_others, references, howed, List.count_nil]
  -- the promoted one gains the reference of being current, the others turn it into a debt
  by_cases he : x = id
  · subst he
    cases c.store.snapshots.isCurrent x <;> simp
  · cases c.store.snapshots.isCurrent x <;> simp [he]

/-- A lease more keeps the account. -/
theorem Accounted.acquire (h : c.Accounted) {row : Snapshot}
    {t : SnapshotTable} (ha : c.store.snapshots.acquire? = some (row, t)) :
    Accounted ⟨{ c.store with snapshots := t }, c.held ++ [row.id], c.owed⟩ := by
  obtain ⟨hrow, hsound, hcount, hcur⟩ := h.sound.acquire ha
  refine ⟨hsound, fun x => ?_, fun ho => ?_⟩
  · have hc := h.counted x
    simp only [references, List.count_append, hcur, hcount] at hc ⊢
    by_cases he : x = row.id
    · subst he
      rw [if_pos rfl, List.count_singleton_self]
      omega
    · rw [if_neg he, List.count_singleton, if_neg (by simpa using Ne.symm he)]
      omega
  · obtain ⟨x, hx⟩ := h.installed ho
    exact ⟨x, (hcur x).trans hx⟩

/-- **Every step keeps the account.** -/
theorem Accounted.step (h : c.Accounted) (hroom : c.HasRoom) (a : Act) : (c.step a).Accounted := by
  rcases step_cases c a with
    hs | ⟨id, -, howed, hs⟩ | ⟨row, t, ha, hs⟩ | ⟨id, held, owed, hg, ho, hs⟩
  · rwa [hs]
  · exact hs ▸ h.promote (h.hasRoomFor hroom id) howed
  · exact hs ▸ h.acquire ha
  · exact hs ▸ h.release hg ho

/-! ## The records -/

/-- The records of one snapshot. -/
def recordsOf (c : Custody) (id : SnapshotId) : Records := c.store.records.only id

/-- **The records of a snapshot go in the step that takes its last
reference away, and in no other.** -/
theorem Accounted.recordsOf_step (h : c.Accounted) (hroom : c.HasRoom) (a : Act) (x : SnapshotId) :
    (c.step a).recordsOf x =
      if 0 < c.references x ∧ (c.step a).references x = 0 then Records.empty
      else c.recordsOf x := by
  have hstep := (h.step hroom a).counted x
  have hc := h.counted x
  rcases step_cases c a with
    hs | ⟨id, -, howed, hs⟩ | ⟨row, t, ha, hs⟩ | ⟨id, held, owed, hg, ho, hs⟩
  · rw [hs, if_neg (by omega)]
  · -- a promotion takes no reference away
    have hr := h.hasRoomFor hroom id
    rw [hs, promote_of_room hr] at hstep ⊢
    have hp : (c.store.promote id).2.snapshots.refcount x = _ :=
      h.sound.keyed.own.refcount_promote hr
    dsimp only at hstep
    rw [if_neg (by omega)]
    rfl
  · -- nor does a lease that is taken
    rw [hs] at hstep ⊢
    have hp := (h.sound.acquire ha).2.2.1 x
    rw [if_neg]
    · rfl
    · rw [← hstep, ← hc]
      rintro ⟨hpos, hzero⟩
      rw [hp] at hzero
      split at hzero
      · omega
      · omega
  · rw [hs] at hstep ⊢
    rw [← hstep, ← hc]
    simp only [recordsOf, Store.snapshots_release, Store.records_release,
      SnapshotTable.refcount_release]
    have hid := hg id
    have hpos := h.counted id
    rw [references] at hpos
    rw [if_pos rfl] at hid
    by_cases h1 : c.store.snapshots.refcount id = 1
    · rw [if_pos h1]
      by_cases he : x = id
      · subst he
        rw [if_pos rfl, if_pos (by omega), Records.only_purge_self]
      · rw [if_neg he, if_neg (by omega), Records.only_purge_of_ne _ he]
    · rw [if_neg h1]
      by_cases he : x = id
      · subst he
        rw [if_pos rfl, if_neg (by omega)]
      · rw [if_neg he, if_neg (by omega)]

/-! ## Runs -/

@[simp] theorem run_nil (c : Custody) : c.run [] = c := rfl

@[simp] theorem run_cons (c : Custody) (a : Act) (as : List Act) :
    c.run (a :: as) = (c.step a).run as := rfl

theorem run_append (c : Custody) (as bs : List Act) : c.run (as ++ bs) = (c.run as).run bs :=
  List.foldl_append

/-- A run with room has room in its first part, and in the rest from
there. -/
theorem roomy_append {as bs : List Act} :
    c.Roomy (as ++ bs) ↔ c.Roomy as ∧ (c.run as).Roomy bs := by
  induction as generalizing c with
  | nil => exact (iff_of_eq (true_and _)).symm
  | cons a as ih =>
    rw [List.cons_append, Roomy, Roomy, ih, and_assoc, run_cons]

/-- **Every run keeps the account.** -/
theorem Accounted.run {as : List Act} (h : c.Accounted) (hroom : c.Roomy as) :
    (c.run as).Accounted := by
  induction as generalizing c with
  | nil => exact h
  | cons a as ih => exact ih (h.step hroom.1 a) hroom.2

/-- A snapshot that is made current is, as there is room. -/
theorem Accounted.isCurrent_promote (h : c.Accounted) (hroom : c.HasRoom) (id : SnapshotId) :
    (c.promote id).store.snapshots.isCurrent id = true := by
  have hr := h.hasRoomFor hroom id
  rw [promote_of_room hr]
  exact SnapshotTable.isCurrent_promote_self hr

/-- A step leaves some snapshot current if one was. -/
theorem Accounted.isCurrent_step (h : c.Accounted) (hroom : c.HasRoom) (a : Act)
    (hcur : ∃ x, c.store.snapshots.isCurrent x = true) :
    ∃ x, (c.step a).store.snapshots.isCurrent x = true := by
  obtain ⟨x, hx⟩ := hcur
  rcases step_cases c a with
    hs | ⟨id, -, howed, hs⟩ | ⟨row, t, ha, hs⟩ | ⟨id, held, owed, hg, ho, hs⟩
  · rw [hs]
    exact ⟨x, hx⟩
  · exact hs ▸ ⟨id, h.isCurrent_promote hroom id⟩
  · exact hs ▸ ⟨x, ((h.sound.acquire ha).2.2.2 x).trans hx⟩
  · have hid := hg id
    rw [if_pos rfl] at hid
    have hout : 0 < c.held.count id + c.owed.count id := by omega
    exact hs ▸ ⟨x, (h.isCurrent_release hout x).trans hx⟩

theorem Accounted.isCurrent_run {as : List Act} (h : c.Accounted) (hroom : c.Roomy as)
    (hcur : ∃ x, c.store.snapshots.isCurrent x = true) :
    ∃ x, (c.run as).store.snapshots.isCurrent x = true := by
  induction as generalizing c with
  | nil => exact hcur
  | cons a as ih => exact ih (h.step hroom.1 a) hroom.2 (h.isCurrent_step hroom.1 a hcur)

/-- **From the first promotion on a snapshot is current.** -/
theorem Accounted.isCurrent_of_promote {as : List Act} (h : c.Accounted) (hroom : c.Roomy as)
    {id : SnapshotId} (hmem : Act.promote id ∈ as) :
    ∃ x, (c.run as).store.snapshots.isCurrent x = true := by
  induction as generalizing c with
  | nil => cases hmem
  | cons a as ih =>
    have hnext := h.step hroom.1 a
    rcases List.mem_cons.1 hmem with rfl | hmem
    · refine hnext.isCurrent_run hroom.2 ?_
      -- a promotion that has to wait finds a snapshot current
      by_cases howed : c.owed = []
      · refine ⟨id, ?_⟩
        rw [Custody.step, if_pos howed]
        exact h.isCurrent_promote hroom.1 id
      · exact h.isCurrent_step hroom.1 _ (h.installed howed)
    · exact ih hnext hroom.2 hmem

/-- A snapshot that is referred to all along keeps its records. -/
theorem Accounted.recordsOf_run {as : List Act} (h : c.Accounted) (hroom : c.Roomy as)
    {x : SnapshotId} (hpos : ∀ mid, mid <+: as → 0 < (c.run mid).references x) :
    (c.run as).recordsOf x = c.recordsOf x := by
  induction as generalizing c with
  | nil => rfl
  | cons a as ih =>
    have hnext : ∀ mid, mid <+: as → 0 < ((c.step a).run mid).references x :=
      fun mid hmid => hpos (a :: mid) (List.cons_prefix_cons.2 ⟨rfl, hmid⟩)
    have hone : 0 < (c.step a).references x := hnext [] List.nil_prefix
    rw [run_cons, ih (h.step hroom.1 a) hroom.2 hnext, h.recordsOf_step hroom.1,
      if_neg fun hz => absurd hz.2 (Nat.ne_of_gt hone)]

/-- A snapshot without records keeps having none. -/
theorem Accounted.recordsOf_run_empty {as : List Act} (h : c.Accounted) (hroom : c.Roomy as)
    {x : SnapshotId} (hnone : c.recordsOf x = Records.empty) :
    (c.run as).recordsOf x = Records.empty := by
  induction as generalizing c with
  | nil => exact hnone
  | cons a as ih =>
    refine ih (h.step hroom.1 a) hroom.2 ?_
    rw [h.recordsOf_step hroom.1, hnone, ite_self]

/-- A snapshot that was referred to and is no more has no records. -/
theorem Accounted.recordsOf_run_of_references_eq_zero {as : List Act} (h : c.Accounted)
    (hroom : c.Roomy as) {x : SnapshotId} (hpos : 0 < c.references x)
    (hzero : (c.run as).references x = 0) : (c.run as).recordsOf x = Records.empty := by
  induction as generalizing c with
  | nil => exact absurd hzero (Nat.ne_of_gt hpos)
  | cons a as ih =>
    have hnext := h.step hroom.1 a
    -- the step that takes the last reference away empties it, and it stays empty
    rcases Nat.eq_zero_or_pos ((c.step a).references x) with h0 | h0
    · refine hnext.recordsOf_run_empty hroom.2 ?_
      rw [h.recordsOf_step hroom.1, if_pos ⟨hpos, h0⟩]
    · exact ih hnext hroom.2 h0 hzero

/-! ## Runs that have room -/

theorem references_le (c : Custody) (id : SnapshotId) :
    c.references id ≤ c.held.length + c.owed.length + 1 := by
  have hheld := List.count_le_length (a := id) (l := c.held)
  have howed := List.count_le_length (a := id) (l := c.owed)
  rw [references]
  split <;> omega

/-- A step brings at most one reference more into circulation: no more
than one snapshot was current. -/
theorem Accounted.length_step (h : c.Accounted) (a : Act) :
    (c.step a).held.length + (c.step a).owed.length ≤ c.held.length + c.owed.length + 1 := by
  cases a with
  | promote id =>
    rw [Custody.step]
    split
    · rw [Custody.promote]
      have hothers : (c.store.snapshots.others id).length ≤
          c.store.snapshots.currentRows.length := by
        rw [SnapshotTable.others, List.length_map, SnapshotTable.currentRows, ← List.filter_filter]
        exact (List.filter_sublist.filter _).length_le
      have := h.sound.length_currentRows_le
      split
      · exact Nat.le_succ_of_le (Nat.add_le_add_left (Nat.zero_le _) _)
      · dsimp only
        omega
    · omega
  | repay =>
    rw [Custody.step]
    split
    · omega
    · next heq =>
      rw [heq, List.length_cons]
      dsimp only
      omega
  | acquire =>
    rw [Custody.step]
    split
    · omega
    · rw [List.length_append, List.length_singleton]
      dsimp only
      omega
  | drop lease =>
    rw [Custody.step]
    split
    · omega
    · have := (List.eraseIdx_sublist c.held lease).length_le
      dsimp only
      omega

/-- **A run has room if it is shorter than what can be counted.** -/
theorem Accounted.roomy_of_length {as : List Act} (h : c.Accounted)
    (hlen : c.held.length + c.owed.length + as.length < Nat.pow 2 32 - 1) : c.Roomy as := by
  induction as generalizing c with
  | nil => trivial
  | cons a as ih =>
    rw [List.length_cons] at hlen
    have hroom : c.HasRoom := fun id => by
      have := c.references_le id
      omega
    have := h.length_step a
    exact ⟨hroom, ih (h.step hroom a) (by omega)⟩

/-! ## The account of a run -/

/-- **Every reference is accounted for along every run.** Whatever the
installer and the holders of leases do, and in whatever order: at most one
snapshot is current, and exactly one from the first promotion on; every
snapshot has as many references as are out, and a row exactly if there are
any; and its records go in the step in which the last reference goes, and
in no other. So they stay for as long as it is referred to, and none are
left once it no longer is. -/
theorem references_of_run (s : Store) (as : List Act) (hroom : (start s).Roomy as) :
    let c := (start s).run as
    (c.store.snapshots.currentRows.length ≤ 1 ∧
      ((∃ id, Act.promote id ∈ as) → c.store.snapshots.currentRows.length = 1)) ∧
    (∀ id, c.store.snapshots.refcount id = c.references id) ∧
    (∀ id, (c.store.snapshots.row? id).isSome = true ↔ 0 < c.references id) ∧
    (∀ pre a post, as = pre ++ a :: post → ∀ id,
      (((start s).run pre).step a).recordsOf id =
        if 0 < ((start s).run pre).references id ∧ (((start s).run pre).step a).references id = 0
        then Records.empty else ((start s).run pre).recordsOf id) ∧
    (∀ pre post, as = pre ++ post → ∀ id,
      ((∀ mid, mid <+: post → 0 < (((start s).run pre).run mid).references id) →
        c.recordsOf id = ((start s).run pre).recordsOf id) ∧
      (0 < ((start s).run pre).references id → c.references id = 0 →
        c.recordsOf id = Records.empty)) := by
  have h := (accounted_start s).run hroom
  refine ⟨⟨h.sound.length_currentRows_le, fun ⟨id, hid⟩ => ?_⟩, h.counted, fun id => ?_,
    fun pre a post has id => ?_, fun pre post has id => ?_⟩
  · obtain ⟨x, hx⟩ := (accounted_start s).isCurrent_of_promote hroom hid
    exact h.sound.length_currentRows_eq hx
  · rw [h.sound.row?_isSome, h.counted]
  · rw [has, roomy_append] at hroom
    exact ((accounted_start s).run hroom.1).recordsOf_step hroom.2.1 a id
  · rw [has, roomy_append] at hroom
    have hpre := (accounted_start s).run hroom.1
    rw [has, run_append]
    exact ⟨fun hpos => hpre.recordsOf_run hroom.2 hpos,
      fun hpos hzero => hpre.recordsOf_run_of_references_eq_zero hroom.2 hpos hzero⟩

/-- A snapshot that is made current again while a lease on it is held, and
then replaced: the lease outlives the installer's reference, and the
records go with the lease. -/
theorem references_of_reinstallation :
    let one : SnapshotId := ⟨1, by decide⟩
    let two : SnapshotId := ⟨2, by decide⟩
    let s := Store.empty.withRecords fun r => r.putOrganization one ⟨"o1", "acme"⟩
    let pre := [Act.promote one, .acquire, .promote two, .repay, .promote one, .repay]
    let post := [Act.promote two, .repay, .drop 0]
    (start s).Roomy (pre ++ post) ∧
      (((start s).run (pre ++ post)).store.snapshots.currentRows.length = 1) ∧
      ((start s).run (pre ++ post)).recordsOf one = Records.empty := by
  intro one two s pre post
  have hroom : (start s).Roomy (pre ++ post) := (accounted_start s).roomy_of_length (by decide)
  have h := references_of_run s (pre ++ post) hroom
  exact ⟨hroom, h.1.2 ⟨one, by decide⟩,
    (h.2.2.2.2 pre post rfl one).2 (by decide) (by decide)⟩

end Custody

end ApiGateway
