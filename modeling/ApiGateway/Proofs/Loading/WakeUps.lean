import ApiGateway.Proofs.Loading.InFlight
/-!
# Loading — nobody sleeps through the last notice

Who waits for the queue to be idle listens for notices before it reads the
count. So if it reads that something is counted, the notice that is given
for the last event cannot have come before it listened: it is still to
come, or has come since. Whoever sleeps while the queue is idle has thus
been notified (`Idle.notified`) and starts all over with its next step, and
three of its own steps bring it to its end (`Idle.returns`), however often
the count went up and down while it slept. And nobody returns who has not
read, in the call that returns, that nothing is counted (`exists_read`,
`exists_called`). `no_lost_wakeup` is all this together.
-/

namespace ApiGateway

namespace Traffic

variable {t : Traffic} {as : List Act} {k : Nat}

/-! ## Where a wait comes from -/

theorem length_waits_step (t : Traffic) (a : Act) :
    (a = .wait ∧ (t.step a).waits.length = t.waits.length + 1) ∨
      (t.step a).waits.length = t.waits.length := by
  rw [waits_step]
  cases a with
  | wait => exact Or.inl ⟨rfl, List.length_append⟩
  | goOn wait => exact Or.inr (List.length_modify ..)
  | _ => exact Or.inr rfl

/-- **A wait that was not there has been called**, as the last of those
that were there then. -/
theorem exists_called (hthere : k < (t.run as).waits.length) (hnew : t.waits.length ≤ k) :
    ∃ called later, as = called ++ .wait :: later ∧ (t.run called).waits.length = k := by
  induction as generalizing t with
  | nil => exact absurd hthere (Nat.not_lt.2 hnew)
  | cons a as ih =>
    rcases Nat.lt_or_ge k (t.step a).waits.length with hnow | hlater
    · rcases length_waits_step t a with ⟨rfl, hlen⟩ | hlen
      · have hlast : k ≤ t.waits.length := by omega
        exact ⟨[], as, rfl, Nat.le_antisymm hnew hlast⟩
      · omega
    · obtain ⟨called, later, rfl, hlen⟩ := ih hthere hlater
      exact ⟨a :: called, later, rfl, hlen⟩

/-- **A wait that returned has read that nothing was counted**, while it
listened. -/
theorem exists_read (h : (t.run as).waits[k]? = some .returned)
    (hnew : t.waits[k]? ≠ some .returned) :
    ∃ before later since, as = before ++ .goOn k :: later ∧
      (t.run before).waits[k]? = some (.listening since) ∧
      (t.run before).queue.inFlight = 0 := by
  induction as generalizing t with
  | nil => exact absurd h hnew
  | cons a as ih =>
    by_cases hnow : (t.step a).waits[k]? = some .returned
    · obtain ⟨rfl, ⟨since, hk⟩, hread⟩ := (returned_of_step hnow).resolve_left hnew
      exact ⟨[], as, since, rfl, hk, hread⟩
    · obtain ⟨before, later, since, rfl, hk, hread⟩ := ih h hnow
      exact ⟨a :: before, later, since, rfl, hk, hread⟩

/-! ## What is promised -/

/-- **What is promised to those who wait**, in every order of steps on a
queue that nothing was published to. -/
structure Wakes (s : Store) (as : List Act) (t : Traffic) : Prop where
  /-- Where nothing is counted, nobody has an event to publish or to deal
  with. -/
  settled : t.queue.inFlight = 0 →
    t.sending = [] ∧ t.refused = [] ∧ t.queue.waiting = [] ∧ t.tasks = []
  /-- If no notice is owed then either, whoever sleeps was notified since it
  listened, and its next step is to start all over. -/
  notified : t.queue.inFlight = 0 → t.telling = 0 →
    ∀ k since : Nat, t.waits[k]? = some (.asleep since) →
      since < t.told ∧ (t.step (.goOn k)).waits[k]? = some .begun
  /-- Everybody who waits then returns with three steps of its own, whatever
  else goes on, as long as nothing new is published. -/
  returns : t.queue.inFlight = 0 → t.telling = 0 → ∀ later : List Act,
    (∀ a ∈ later, a.publishes = false) → ∀ k < t.waits.length,
      3 ≤ later.countP (Act.goesOn k) → (t.run later).waits[k]? = some .returned
  /-- Whoever has returned was called, listened then, and read after this
  that nothing was counted, in the step with which it returned. -/
  read : ∀ k : Nat, t.waits[k]? = some .returned →
    ∃ called between later since, as = (called ++ .wait :: between) ++ .goOn k :: later ∧
      ((start s).run called).waits.length = k ∧
      ((start s).run (called ++ .wait :: between)).waits[k]? = some (.listening since) ∧
      ((start s).run (called ++ .wait :: between)).queue.inFlight = 0

/-- **No wake-up is lost**, whatever the order in which publishers, tasks
and those who wait take their steps. -/
theorem no_lost_wakeup (s : Store) (as : List Act) : Wakes s as ((start s).run as) := by
  have hbalanced := (balanced_start s).run as
  have hattended := (attended_start s).run as
  refine ⟨hbalanced.nil_of_inFlight_eq_zero, fun hcounted htelling k since hk => ?_,
    fun hcounted htelling later hlater k hk hsteps => ?_, fun k hk => ?_⟩
  · have hidle : ((start s).run as).Idle := ⟨hcounted, htelling⟩
    have hnotice := hidle.notified (hattended _ (List.mem_of_getElem? hk))
    have hgoes : (Act.goOn k).goesOn k = true := decide_eq_true rfl
    refine ⟨hnotice, (waits_step_of_some hk).trans ?_⟩
    rw [hgoes, if_pos rfl, Wait.next, if_pos hnotice]
  · have hidle : ((start s).run as).Idle := ⟨hcounted, htelling⟩
    exact hidle.returns hbalanced hattended hlater (List.getElem?_eq_getElem hk)
      (Nat.le_trans (Wait.stepsLeft_le _) hsteps)
  · obtain ⟨before, later, since, rfl, hlistens, hread⟩ := exists_read hk (by simp [start])
    have hthere := (List.getElem?_eq_some_iff.1 hlistens).1
    obtain ⟨called, between, rfl, hlen⟩ := exists_called hthere (Nat.zero_le k)
    exact ⟨called, between, later, since, rfl, hlen, hlistens, hread⟩

/-- **A wait that has read one event, and sleeps while the event is dealt
with**: once the count is down again, it has not been notified until the
notice is given that is owed. -/
theorem woken_by_last_notice :
    let e := IndexEvent.product ⟨1, by decide⟩ "p"
    let as : List Act := [.count e, .send 0, .wait, .goOn 0, .goOn 0, .receive, .work 0 0,
      .work 0 0]
    let t := (start .empty).run as
    t.waits = [.asleep 0] ∧ t.queue.inFlight = 0 ∧ t.telling = 1 ∧ t.told = 0 ∧
      ((t.step .tell).step (.goOn 0)).waits[0]? = some .begun := by
  intro e as t
  have h := (no_lost_wakeup .empty (as ++ [.tell])).notified (by decide) (by decide) 0 0
    (by decide)
  exact ⟨by decide, by decide, by decide, by decide, h.2⟩

end Traffic

end ApiGateway
