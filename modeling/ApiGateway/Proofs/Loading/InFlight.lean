import ApiGateway.Proofs.Loading.Traffic
/-!
# Loading — what stays counted

An event should be counted for as long as somebody will deal with it: it
is on its way into the queue, it waits for a worker that is still there, or
it is being handled. This is so (`in_flight_exact`), with one exception. If
the worker stops while events wait, they go with it and nobody takes them
off the count: they are `stranded`. Up to then the count is exact; from then
on it is too high by so many, the queue is never idle again, and no wait
that has not returned ever does (`waits_forever`). An event that is
published after the worker has stopped is taken off the count by its
publisher, and does no harm. If nothing is lost, then once all are done
nothing is counted and everybody who waits returns (`Idle.returns`).
-/

namespace ApiGateway

namespace Wait

/-- The steps that a wait has still to make if nothing is counted. -/
def stepsLeft : Wait → Nat
  | returned => 0
  | listening _ => 1
  | begun => 2
  | asleep _ => 3

theorem stepsLeft_le (w : Wait) : w.stepsLeft ≤ 3 := by
  cases w <;> simp [stepsLeft]

end Wait

namespace Traffic

variable {t : Traffic}

/-! ## What is lost -/

/-- The events that a step loses: those that wait when the worker stops. -/
def lost (t : Traffic) : Act → List IndexEvent
  | .stop => t.queue.waiting
  | _ => []

theorem stranded_step (t : Traffic) (a : Act) :
    (t.step a).stranded = t.stranded ++ t.lost a := by
  cases a with
  | stop => rfl
  | send publisher =>
    simp only [step, send, lost, List.append_nil]
    split
    · rfl
    · split <;> rfl
  | uncount publisher =>
    simp only [step, uncount, lost, List.append_nil]
    split <;> rfl
  | tell =>
    simp only [step, lost, List.append_nil]
    split <;> rfl
  | _ => exact (List.append_nil t.stranded).symm

theorem stranded_step_eq_nil_iff {a : Act} :
    (t.step a).stranded = [] ↔ t.stranded = [] ∧ (a = .stop → t.queue.waiting = []) := by
  rw [stranded_step, List.append_eq_nil_iff]
  cases a <;> simp [lost]

/-- **Nothing is lost exactly if nothing waited whenever the worker
stopped.** -/
theorem stranded_run_eq_nil_iff (as : List Act) :
    (t.run as).stranded = [] ↔ t.stranded = [] ∧
      ∀ before after, as = before ++ .stop :: after → (t.run before).queue.waiting = [] := by
  induction as generalizing t with
  | nil =>
    refine ⟨fun h => ⟨h, fun before after heq => ?_⟩, fun h => h.1⟩
    exact absurd heq.symm (List.append_ne_nil_of_right_ne_nil before (List.cons_ne_nil _ after))
  | cons a as ih =>
    change ((t.step a).run as).stranded = [] ↔ _
    rw [ih, stranded_step_eq_nil_iff, and_assoc]
    refine and_congr_right fun _ => ⟨fun ⟨hfirst, hrest⟩ before after heq => ?_, fun h => ?_⟩
    · rcases List.cons_eq_append_iff.1 heq with ⟨rfl, hstop⟩ | ⟨before', rfl, hsplit⟩
      · exact hfirst (List.cons.inj hstop).1.symm
      · exact hrest before' after hsplit
    · exact ⟨fun hstop => h [] as (hstop ▸ rfl), fun before after heq =>
        h (a :: before) after (heq ▸ rfl)⟩

/-! ## At rest -/

/-- The worker has stopped, all tasks and all publishers are done, and no
notice is owed. -/
structure AtRest (t : Traffic) : Prop where
  stopped : t.queue.isOpen = false
  tasks : t.tasks = []
  sending : t.sending = []
  refused : t.refused = []
  telling : t.telling = 0

/-- Whether an act begins to publish an event. -/
def Act.publishes : Act → Bool
  | count _ => true
  | _ => false

/-- Nothing is counted, and no notice is owed. -/
structure Idle (t : Traffic) : Prop where
  counted : t.queue.inFlight = 0
  telling : t.telling = 0

theorem noticesOwed_of_eq {before after : IndexQueue} (h : after.inFlight = before.inFlight) :
    before.noticesOwed after = 0 :=
  if_neg (by omega)

/-- Where nothing is counted, no event is anywhere. -/
theorem Balanced.nil_of_inFlight_eq_zero (h : t.Balanced) (hidle : t.queue.inFlight = 0) :
    t.sending = [] ∧ t.refused = [] ∧ t.queue.waiting = [] ∧ t.tasks = [] := by
  have hcount := h.count
  refine ⟨?_, ?_, ?_, ?_⟩ <;> exact List.length_eq_zero_iff.1 (by omega)

/-- **The queue stays idle** as long as nothing is published. -/
theorem Idle.step (h : t.Idle) (hb : t.Balanced) {a : Act} (ha : a.publishes = false) :
    (t.step a).Idle := by
  obtain ⟨hsending, hrefused, hwaiting, htasks⟩ := hb.nil_of_inFlight_eq_zero h.counted
  have hsame : ∀ {i : Indexing}, i.store.queue.inFlight = t.queue.inFlight →
      (t.withIndexing i).Idle := fun hcount =>
    ⟨hcount.trans h.counted,
      (congrArg (t.telling + ·) (noticesOwed_of_eq hcount)).trans h.telling⟩
  cases a with
  | count e => cases ha
  | send publisher =>
    have hnone : t.step (.send publisher) = t := by simp [Traffic.step, send, hsending]
    rw [hnone]
    exact h
  | uncount publisher =>
    have hnone : t.step (.uncount publisher) = t := by simp [Traffic.step, uncount, hrefused]
    rw [hnone]
    exact h
  | receive =>
    rcases t.toIndexing.take_cases with ⟨-, ht⟩ | ⟨e, rest, hw, -⟩
    · exact hsame (by rw [ht]; rfl)
    · exact absurd (hw.symm.trans hwaiting) (List.cons_ne_nil e rest)
  | work task pick =>
    rcases t.toIndexing.work_cases task pick with ht | ⟨before, e, rest, after, hsplit, -⟩
    · exact hsame (by rw [ht]; rfl)
    · exact absurd (hsplit.symm.trans htasks) (by simp)
  | stop =>
    have hclosed := hsame (i := ⟨{ t.store with queue := t.queue.close }, t.tasks⟩) rfl
    exact ⟨hclosed.counted, hclosed.telling⟩
  | tell =>
    have hnone : t.step .tell = t := if_neg (by rw [h.telling]; exact Nat.lt_irrefl 0)
    rw [hnone]
    exact h
  | wait => exact ⟨h.counted, h.telling⟩
  | goOn wait => exact ⟨h.counted, h.telling⟩
  | change records => exact ⟨h.counted, h.telling⟩

/-! ## Waits that return, and waits that do not -/

/-- Whether an act is a step of this wait. -/
def Act.goesOn (k : Nat) : Act → Bool
  | goOn n => n = k
  | _ => false

/-- While the queue is idle, who sleeps was given a notice since it
listened: nothing else is left. -/
theorem Idle.notified (h : t.Idle) {since : Nat} (hw : t.Attends (.asleep since)) :
    since < t.told := by
  have hnotice := hw.2
  have hcounted := h.counted
  have htelling := h.telling
  omega

/-- **While the queue is idle every step of a wait brings it on.** -/
theorem Idle.stepsLeft_next (h : t.Idle) {w : Wait} (hw : t.Attends w) :
    (w.next t.queue.inFlight t.told).stepsLeft ≤ w.stepsLeft - 1 := by
  cases w with
  | begun => exact Nat.le_refl 1
  | returned => exact Nat.le_refl 0
  | listening since =>
    rw [Wait.next, if_pos h.counted]
    exact Nat.le_refl 0
  | asleep since =>
    rw [Wait.next, if_pos (h.notified hw)]
    exact Nat.le_refl 2

/-- What a step makes of a wait that is there. -/
theorem waits_step_of_some {a : Act} {k : Nat} {w : Wait} (h : t.waits[k]? = some w) :
    (t.step a).waits[k]? =
      some (if a.goesOn k then w.next t.queue.inFlight t.told else w) := by
  rw [waits_step]
  cases a with
  | goOn n =>
    rw [waitsAfter, List.getElem?_modify, h]
    by_cases hn : n = k <;> simp [Act.goesOn, hn]
  | wait => exact (List.getElem?_append_left (List.getElem?_eq_some_iff.1 h).1).trans h
  | _ => exact h

/-- **While the queue is idle a wait returns** when it has gone on often
enough, whatever else goes on, as long as nothing is published. -/
theorem Idle.returns (h : t.Idle) (hb : t.Balanced) (hw : t.Attended) {later : List Act}
    (hlater : ∀ a ∈ later, a.publishes = false) {k : Nat} {w : Wait}
    (hk : t.waits[k]? = some w) (hsteps : w.stepsLeft ≤ later.countP (Act.goesOn k)) :
    (t.run later).waits[k]? = some .returned := by
  induction later generalizing t w with
  | nil =>
    cases w with
    | returned => exact hk
    | _ => cases hsteps
  | cons a later ih =>
    obtain ⟨ha, hlater⟩ := List.forall_mem_cons.1 hlater
    refine ih (h.step hb ha) (hb.step a) (hw.step a) hlater (waits_step_of_some hk) ?_
    rw [List.countP_cons] at hsteps
    by_cases hgo : a.goesOn k = true
    · have hnext := h.stepsLeft_next (hw w (List.mem_of_getElem? hk))
      rw [if_pos hgo] at hsteps ⊢
      omega
    · rw [if_neg hgo] at hsteps ⊢
      exact hsteps

/-- Only who reads that nothing is counted returns. -/
theorem returned_of_step {a : Act} {k : Nat} (h : (t.step a).waits[k]? = some .returned) :
    t.waits[k]? = some .returned ∨
      (a = .goOn k ∧ (∃ since, t.waits[k]? = some (.listening since)) ∧ t.queue.inFlight = 0) := by
  rcases wait_cases h with hsame | ⟨-, -, hbegun⟩ | ⟨ha, w, hown, hnext⟩
  · exact Or.inl hsame
  · cases hbegun
  · cases w with
    | begun => cases hnext
    | returned => exact Or.inl hown
    | asleep since =>
      rw [Wait.next] at hnext
      split at hnext <;> cases hnext
    | listening since =>
      rw [Wait.next] at hnext
      split at hnext
      · exact Or.inr ⟨ha, ⟨since, hown⟩, ‹_›⟩
      · cases hnext

theorem Balanced.pos_of_stranded (h : t.Balanced) (hlost : t.stranded ≠ []) :
    0 < t.queue.inFlight := by
  have hcount := h.count
  have hpos := List.length_pos_iff.2 hlost
  omega

/-- **Once an event is lost, the queue is never idle again, and no wait
returns any more.** -/
theorem waits_forever (h : t.Balanced) (hlost : t.stranded ≠ []) (as : List Act) :
    (t.run as).queue.isIdle = false ∧
      ∀ k : Nat, (t.run as).waits[k]? = some .returned → t.waits[k]? = some .returned := by
  induction as generalizing t with
  | nil => exact ⟨decide_eq_false (Nat.ne_of_gt (h.pos_of_stranded hlost)), fun _ hk => hk⟩
  | cons a as ih =>
    have hstill : (t.step a).stranded ≠ [] := fun hnil =>
      hlost (stranded_step_eq_nil_iff.1 hnil).1
    obtain ⟨hidle, hreturned⟩ := ih (h.step a) hstill
    refine ⟨hidle, fun k hk => ?_⟩
    exact (returned_of_step (hreturned k hk)).resolve_right fun hread =>
      Nat.ne_of_gt (h.pos_of_stranded hlost) hread.2.2

/-! ## The count -/

/-- **What is counted**, in every order of steps on a queue that nothing was
published to. -/
structure CountExact (s : Store) (as : List Act) (t : Traffic) : Prop where
  /-- Whatever is under way, each event is counted once, in the place where
  it is; the last of these places is the one that none leaves. -/
  count : t.queue.inFlight = t.sending.length + t.refused.length + t.queue.waiting.length +
    t.tasks.length + t.stranded.length
  /-- While nobody is publishing, the events counted are those that wait for
  the worker and those that are being handled, exactly if none is lost. -/
  waiting_or_handled : t.sending = [] → t.refused = [] →
    (t.queue.inFlight = t.queue.waiting.length + t.tasks.length ↔ t.stranded = [])
  /-- Nothing waits for a worker that has stopped. -/
  live : t.queue.isOpen = false → t.queue.waiting = []
  /-- None is lost exactly if the worker stopped only when none waited. -/
  none_lost : t.stranded = [] ↔
    ∀ before after, as = before ++ .stop :: after →
      ((start s).run before).queue.waiting = []
  /-- At rest, those that are lost stay counted. -/
  rest : t.AtRest → t.queue.inFlight = t.stranded.length
  /-- If none is, whoever waits has returned after three steps of its own,
  whatever else goes on, as long as nothing new is published. -/
  returns : t.AtRest → t.stranded = [] → ∀ later : List Act,
    (∀ a ∈ later, a.publishes = false) → ∀ k < t.waits.length,
      3 ≤ later.countP (Act.goesOn k) → (t.run later).waits[k]? = some .returned
  /-- If one is, the queue is never idle again, and nobody returns who has
  not. -/
  forever : t.stranded ≠ [] → ∀ later, (t.run later).queue.isIdle = false ∧
    ∀ k : Nat, (t.run later).waits[k]? = some .returned → t.waits[k]? = some .returned

/-- **The count of events is exact but for those that waited when the worker
stopped.** -/
theorem in_flight_exact (s : Store) (as : List Act) : CountExact s as ((start s).run as) := by
  have hbalanced := (balanced_start s).run as
  have hattended := (attended_start s).run as
  have hcount := hbalanced.count
  have hnone := stranded_run_eq_nil_iff (t := start s) as
  have hrest : ((start s).run as).AtRest →
      ((start s).run as).queue.inFlight = ((start s).run as).stranded.length := fun h => by
    rw [hcount, h.sending, h.refused, h.tasks, hbalanced.gone h.stopped]
    simp
  refine ⟨hcount, fun hsending hrefused => ?_, hbalanced.gone, ?_, hrest,
    fun h hnil later hlater k hk hsteps => ?_,
    fun hlost later => waits_forever hbalanced hlost later⟩
  · rw [hcount, hsending, hrefused, ← List.length_eq_zero_iff]
    simp
  · exact hnone.trans (and_iff_right rfl)
  · have hidle : ((start s).run as).Idle :=
      ⟨(hrest h).trans (List.length_eq_zero_iff.2 hnil), h.telling⟩
    exact hidle.returns hbalanced hattended hlater (List.getElem?_eq_getElem hk)
      (Nat.le_trans (Wait.stepsLeft_le _) hsteps)

/-- **An event that waits when the worker stops stays counted**, with
everything at rest, and whoever waits for the queue to be idle waits
forever. -/
theorem counted_forever :
    let e := IndexEvent.product ⟨1, by decide⟩ "p"
    let t := (start .empty).run [.count e, .send 0, .wait, .stop]
    t.AtRest ∧ t.queue.waiting = [] ∧ t.queue.inFlight = 1 ∧
      ∀ later, (t.run later).queue.isIdle = false ∧
        (t.run later).waits[0]? ≠ some .returned := by
  intro e t
  have hforever := waits_forever (t := t) ((balanced_start _).run _) (List.cons_ne_nil e [])
  refine ⟨⟨rfl, rfl, rfl, rfl, rfl⟩, rfl, rfl, fun later => ⟨(hforever later).1, fun h => ?_⟩⟩
  exact absurd ((hforever later).2 0 h) (by decide)

end Traffic

end ApiGateway
