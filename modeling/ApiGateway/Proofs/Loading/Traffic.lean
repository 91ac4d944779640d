import ApiGateway.Proofs.Loading.Workers
/-!
# Loading — the traffic on the queue of the index

`IndexQueue` tells what becomes of the queue when an event is published or
dealt with. Others come between the accesses of which that consists: an
event is counted first and sent then, and if it cannot be sent it is taken
off the count again; whoever takes the last event off the count gives a
notice afterwards; and who waits for the queue to be idle listens for
notices first, reads the count then, and sleeps if something is counted.
`Traffic` is a queue with all that is going on around it, and `Act` one
such access, made by any of those who are at it. With nobody coming between
they make up what `IndexQueue` tells (`run_publish`).

What is counted is always accounted for (`Balanced`): an event that is on
its way into the queue, waits there or is being handled, or one that was
lost when the worker stopped (`stranded`). And nobody sleeps through a
notice (`Attended`).
-/

namespace ApiGateway

/-! ## The parties -/

/-- A wait for the queue to be idle. -/
inductive Wait where
  /-- It is about to listen for notices. -/
  | begun
  /-- It listens since so many notices were given, and is about to read the
  count. -/
  | listening (since : Nat)
  /-- It has read that something is counted, and sleeps until there is
  another notice. -/
  | asleep (since : Nat)
  | returned
  deriving DecidableEq

/-- A wait goes on. Who is woken by a notice starts all over. -/
def Wait.next (inFlight told : Nat) : Wait → Wait
  | begun => listening told
  | listening since => if inFlight = 0 then returned else asleep since
  | asleep since => if since < told then begun else asleep since
  | returned => returned

/-- How many notices are owed for a change of the count: one, where it took
the last event off. -/
def IndexQueue.noticesOwed (before after : IndexQueue) : Nat :=
  if before.inFlight = 1 ∧ after.inFlight = 0 then 1 else 0

/-- A queue with its worker, its tasks and all that is going on around
it. -/
structure Traffic extends Indexing where
  /-- Events that are counted and not sent yet. -/
  sending : List IndexEvent
  /-- Events that could not be sent and are still counted. -/
  refused : List IndexEvent
  /-- Events that waited when the worker stopped. -/
  stranded : List IndexEvent
  /-- Notices that are owed, and such as were given. -/
  telling : Nat
  told : Nat
  waits : List Wait

namespace Traffic

/-- A queue that nothing was published to. -/
def start (s : Store) : Traffic := ⟨⟨{ s with queue := .empty }, []⟩, [], [], [], 0, 0, []⟩

def queue (t : Traffic) : IndexQueue := t.store.queue

/-- The traffic with its queue and its tasks as they are here, and with the
notice that this may call for. -/
def withIndexing (t : Traffic) (i : Indexing) : Traffic :=
  { t with toIndexing := i, telling := t.telling + t.queue.noticesOwed i.store.queue }

def withQueue (t : Traffic) (q : IndexQueue) : Traffic :=
  t.withIndexing ⟨{ t.store with queue := q }, t.tasks⟩

/-- What can happen. -/
inductive Act where
  /-- Somebody publishes an event, and has counted it. -/
  | count (e : IndexEvent)
  /-- One of the publishers sends its event, or finds that it cannot. -/
  | send (publisher : Nat)
  /-- One of those who could not takes its event off the count. -/
  | uncount (publisher : Nat)
  /-- The worker takes the oldest event and gives it a task. -/
  | receive
  /-- One of the tasks goes on, and takes its event off the count when it is
  done. -/
  | work (task pick : Nat)
  /-- The worker stops. -/
  | stop
  /-- One of those who took the last event off the count gives notice. -/
  | tell
  /-- Somebody begins to wait. -/
  | wait
  /-- One of the waits goes on. -/
  | goOn (wait : Nat)
  /-- Something else is stored or deleted. -/
  | change (records : Records)

/-- An event goes to the end of the queue, as long as somebody can take
it. -/
def send (t : Traffic) (publisher : Nat) : Traffic :=
  match t.sending[publisher]? with
  | none => t
  | some e =>
    let sending := t.sending.eraseIdx publisher
    if t.queue.isOpen then
      { t.withQueue { t.queue with waiting := t.queue.waiting ++ [e] } with sending := sending }
    else { t with sending := sending, refused := t.refused ++ [e] }

/-- An event that could not be sent is taken off the count. -/
def uncount (t : Traffic) (publisher : Nat) : Traffic :=
  match t.refused[publisher]? with
  | none => t
  | some _ => { t.withQueue t.queue.complete with refused := t.refused.eraseIdx publisher }

/-- One step; what cannot be done changes nothing. -/
def step (t : Traffic) : Act → Traffic
  | .count e =>
    { t.withQueue { t.queue with inFlight := t.queue.inFlight + 1 } with
      sending := t.sending ++ [e] }
  | .send publisher => t.send publisher
  | .uncount publisher => t.uncount publisher
  | .receive => t.withIndexing t.toIndexing.take
  | .work task pick => t.withIndexing (t.toIndexing.work task pick)
  | .stop => { t.withQueue t.queue.close with stranded := t.stranded ++ t.queue.waiting }
  | .tell => if 0 < t.telling then { t with telling := t.telling - 1, told := t.told + 1 } else t
  | .wait => { t with waits := t.waits ++ [.begun] }
  | .goOn wait => { t with waits := t.waits.modify wait (Wait.next t.queue.inFlight t.told) }
  | .change records => { t with store := t.store.withRecords fun _ => records }

/-- The state after steps one after the other. -/
def run (t : Traffic) (as : List Act) : Traffic := as.foldl step t

variable {t : Traffic}

/-! ## Publishing at once -/

/-- **An event that is published with nobody coming between** is counted and
waits, or is dropped and not counted. -/
theorem run_publish (t : Traffic) (e : IndexEvent) :
    let t' := t.run [.count e, .send t.sending.length, .uncount t.refused.length]
    t'.queue = t.queue.publish e ∧ t'.sending = t.sending ∧ t'.refused = t.refused ∧
      t'.tasks = t.tasks ∧ t'.stranded = t.stranded := by
  have hsent : (t.sending ++ [e])[t.sending.length]? = some e := List.getElem?_concat_length
  have hrefused : (t.refused ++ [e])[t.refused.length]? = some e := List.getElem?_concat_length
  have herase : ∀ l : List IndexEvent, (l ++ [e]).eraseIdx l.length = l := fun l => by
    simp [List.eraseIdx_append_of_length_le]
  obtain ⟨⟨⟨records, ⟨waiting, inFlight, isOpen⟩, announces, snapshots, files⟩, tasks⟩,
    sending, refused, stranded, telling, told, waits⟩ := t
  cases isOpen <;>
    simp [run, step, send, uncount, withQueue, withIndexing, queue, IndexQueue.publish,
      IndexQueue.complete, herase]

/-! ## What is counted -/

/-- **What is counted is accounted for**, event by event. -/
structure Balanced (t : Traffic) : Prop where
  count : t.queue.inFlight = t.sending.length + t.refused.length + t.queue.waiting.length +
    t.tasks.length + t.stranded.length
  /-- Nothing waits once the worker has stopped. -/
  gone : t.queue.isOpen = false → t.queue.waiting = []
  /-- Nothing is lost before. -/
  none_lost : t.queue.isOpen = true → t.stranded = []

theorem balanced_start (s : Store) : (start s).Balanced := ⟨rfl, fun _ => rfl, fun _ => rfl⟩

namespace Balanced

theorem send (h : t.Balanced) (publisher : Nat) : (t.send publisher).Balanced := by
  unfold Traffic.send
  cases hget : t.sending[publisher]? with
  | none => exact h
  | some e =>
    have hlt := (List.getElem?_eq_some_iff.1 hget).1
    have hlen := List.length_eraseIdx_of_lt hlt
    have hcount := h.count
    cases hopen : t.queue.isOpen with
    | true =>
      refine ⟨?_, fun hclosed => ?_, fun _ => h.none_lost hopen⟩
      · simp only [if_true, withQueue, withIndexing, queue, List.length_append,
          List.length_singleton] at hcount ⊢
        omega
      · exact absurd (hopen.symm.trans hclosed) Bool.noConfusion
    | false =>
      refine ⟨?_, fun _ => h.gone hopen, fun htrue => ?_⟩
      · simp only [queue, List.length_append, List.length_singleton, Bool.false_eq_true,
          if_false] at hcount ⊢
        omega
      · exact absurd (hopen.symm.trans htrue) Bool.noConfusion

theorem uncount (h : t.Balanced) (publisher : Nat) : (t.uncount publisher).Balanced := by
  unfold Traffic.uncount
  cases hget : t.refused[publisher]? with
  | none => exact h
  | some e =>
    have hlt := (List.getElem?_eq_some_iff.1 hget).1
    have hlen := List.length_eraseIdx_of_lt hlt
    have hcount := h.count
    refine ⟨?_, h.gone, h.none_lost⟩
    simp only [withQueue, withIndexing, queue, IndexQueue.complete] at hcount ⊢
    omega

/-- An event that is received was waiting and has a task now. -/
theorem receive (h : t.Balanced) : (t.withIndexing t.toIndexing.take).Balanced := by
  rcases t.toIndexing.take_cases with ⟨-, ht⟩ | ⟨e, rest, hw, ht⟩
  · rw [ht]
    exact ⟨h.count, h.gone, h.none_lost⟩
  · have hcount := h.count
    rw [ht]
    refine ⟨?_, fun hclosed => ?_, h.none_lost⟩
    · simp only [withIndexing, queue, hw, List.length_append, List.length_cons,
        List.length_nil] at hcount ⊢
      omega
    · exact absurd (hw.symm.trans (h.gone hclosed)) (List.cons_ne_nil e rest)

/-- A task that is done takes its own event off the count. -/
theorem work (h : t.Balanced) (task pick : Nat) :
    (t.withIndexing (t.toIndexing.work task pick)).Balanced := by
  have hcount := h.count
  rcases t.toIndexing.work_cases task pick with ht |
    ⟨before, e, rest, after, hsplit, ⟨q, next, -, ht⟩ | ⟨x, next, -, ht⟩ | ⟨-, ht⟩⟩
  · rw [ht]
    exact ⟨h.count, h.gone, h.none_lost⟩
  · rw [ht]
    refine ⟨?_, h.gone, h.none_lost⟩
    simp only [withIndexing, queue, hsplit, List.length_append, List.length_cons] at hcount ⊢
    exact hcount
  · rw [ht]
    refine ⟨?_, h.gone, h.none_lost⟩
    simp only [withIndexing, queue, hsplit, List.length_append, List.length_cons,
      Store.withRecords] at hcount ⊢
    exact hcount
  · rw [ht]
    refine ⟨?_, h.gone, h.none_lost⟩
    simp only [withIndexing, queue, hsplit, List.length_append, List.length_cons,
      IndexQueue.complete] at hcount ⊢
    omega

/-- **Every step keeps the balance.** -/
theorem step (h : t.Balanced) (a : Act) : (t.step a).Balanced := by
  have hcount := h.count
  cases a with
  | count e =>
    refine ⟨?_, h.gone, h.none_lost⟩
    simp only [Traffic.step, withQueue, withIndexing, queue, List.length_append,
      List.length_singleton] at hcount ⊢
    omega
  | send publisher => exact h.send publisher
  | uncount publisher => exact h.uncount publisher
  | receive => exact h.receive
  | work task pick => exact h.work task pick
  | stop =>
    refine ⟨?_, fun _ => rfl, fun hopen => Bool.noConfusion hopen⟩
    simp only [Traffic.step, withQueue, withIndexing, queue, IndexQueue.close,
      List.length_append, List.length_nil] at hcount ⊢
    omega
  | tell =>
    simp only [Traffic.step]
    split
    · exact ⟨h.count, h.gone, h.none_lost⟩
    · exact h
  | wait => exact ⟨h.count, h.gone, h.none_lost⟩
  | goOn wait => exact ⟨h.count, h.gone, h.none_lost⟩
  | change records => exact ⟨h.count, h.gone, h.none_lost⟩

theorem run (h : t.Balanced) (as : List Act) : (t.run as).Balanced := by
  induction as generalizing t with
  | nil => exact h
  | cons a as ih => exact ih (h.step a)

end Balanced

/-! ## Who is notified -/

/-- **A wait is attended to**: if it sleeps, there was a notice since it
listened, or there will be one, as something is counted or a notice is
owed. -/
def Attends (t : Traffic) : Wait → Prop
  | .listening since => since ≤ t.told
  | .asleep since => since ≤ t.told ∧ (since < t.told ∨ 0 < t.queue.inFlight ∨ 0 < t.telling)
  | _ => True

/-- Every wait is attended to. -/
def Attended (t : Traffic) : Prop := ∀ w ∈ t.waits, t.Attends w

/-- What a step leaves of the notices: those that were to come are still to
come, or one more was given. -/
def Continues (t t' : Traffic) : Prop :=
  t.told < t'.told ∨
    t.told = t'.told ∧ (0 < t.queue.inFlight ∨ 0 < t.telling →
      0 < t'.queue.inFlight ∨ 0 < t'.telling)

theorem Attends.of_continues {t' : Traffic} {w : Wait} (h : t.Attends w) (hc : t.Continues t') :
    t'.Attends w := by
  cases w with
  | begun => trivial
  | returned => trivial
  | listening since =>
    have htold : t.told ≤ t'.told := hc.elim Nat.le_of_lt fun h => Nat.le_of_eq h.1
    exact Nat.le_trans h htold
  | asleep since =>
    obtain ⟨hsince, hnotice⟩ := h
    rcases hc with htold | ⟨htold, hkeep⟩
    · exact ⟨by omega, Or.inl (by omega)⟩
    · exact ⟨by omega, hnotice.imp (fun h => by omega) hkeep⟩

/-- The count goes down to nothing only with a notice owed. -/
theorem pos_or_noticesOwed_pos {before after : IndexQueue}
    (hq : before.inFlight ≤ after.inFlight + 1) (h : 0 < before.inFlight) :
    0 < after.inFlight ∨ 0 < before.noticesOwed after := by
  rcases Nat.eq_zero_or_pos after.inFlight with hzero | hpos
  · have howed : before.noticesOwed after = 1 := if_pos ⟨by omega, hzero⟩
    exact Or.inr (howed ▸ Nat.one_pos)
  · exact Or.inl hpos

theorem continues_withIndexing (t : Traffic) {i : Indexing}
    (hq : t.queue.inFlight ≤ i.store.queue.inFlight + 1) : t.Continues (t.withIndexing i) := by
  refine Or.inr ⟨rfl, fun h => ?_⟩
  rcases h with h | h
  · exact (pos_or_noticesOwed_pos hq h).imp_right (Nat.lt_add_left t.telling)
  · exact Or.inr (Nat.lt_add_right _ h)

theorem continues_rfl : t.Continues t := Or.inr ⟨rfl, id⟩

/-- **No step makes a notice fail to come.** -/
theorem continues_step (t : Traffic) (a : Act) : t.Continues (t.step a) := by
  have hcomplete : t.queue.inFlight ≤ t.queue.complete.inFlight + 1 := by
    simp only [IndexQueue.complete]
    omega
  cases a with
  | count e => exact continues_withIndexing t (Nat.le_add_right _ 2)
  | send publisher =>
    simp only [step, send]
    split
    · exact continues_rfl
    · split
      · exact continues_withIndexing t (Nat.le_succ _)
      · exact continues_rfl
  | uncount publisher =>
    simp only [step, uncount]
    split
    · exact continues_rfl
    · exact continues_withIndexing t hcomplete
  | receive =>
    refine continues_withIndexing t ?_
    rcases t.toIndexing.take_cases with ⟨-, ht⟩ | ⟨e, rest, -, ht⟩ <;> rw [ht] <;>
      exact Nat.le_succ _
  | work task pick =>
    refine continues_withIndexing t ?_
    rcases t.toIndexing.work_cases task pick with ht |
      ⟨before, e, rest, after, -, ⟨q, next, -, ht⟩ | ⟨x, next, -, ht⟩ | ⟨-, ht⟩⟩ <;> rw [ht]
    · exact Nat.le_succ _
    · exact Nat.le_succ _
    · exact Nat.le_succ _
    · exact hcomplete
  | stop => exact continues_withIndexing t (Nat.le_succ _)
  | tell =>
    simp only [step]
    split
    · exact Or.inl (Nat.lt_succ_self _)
    · exact continues_rfl
  | wait => exact continues_rfl
  | goOn wait => exact continues_rfl
  | change records => exact continues_rfl

/-- The waits after a step: one more is begun, or one goes on. -/
def waitsAfter (t : Traffic) : Act → List Wait
  | .wait => t.waits ++ [.begun]
  | .goOn wait => t.waits.modify wait (Wait.next t.queue.inFlight t.told)
  | _ => t.waits

theorem waits_step (t : Traffic) (a : Act) : (t.step a).waits = t.waitsAfter a := by
  cases a with
  | send publisher =>
    simp only [step, send, waitsAfter]
    split
    · rfl
    · split <;> rfl
  | uncount publisher =>
    simp only [step, uncount, waitsAfter]
    split <;> rfl
  | tell =>
    simp only [step, waitsAfter]
    split <;> rfl
  | _ => rfl

/-- **Where a wait comes from**: it was there, or was begun as the last, or
went on. -/
theorem wait_cases {a : Act} {k : Nat} {w : Wait} (h : (t.step a).waits[k]? = some w) :
    t.waits[k]? = some w ∨ (a = .wait ∧ k = t.waits.length ∧ w = .begun) ∨
      (a = .goOn k ∧ ∃ w', t.waits[k]? = some w' ∧ w = w'.next t.queue.inFlight t.told) := by
  rw [waits_step] at h
  cases a with
  | wait =>
    rw [waitsAfter, List.getElem?_append] at h
    split at h
    next => exact Or.inl h
    next hlen =>
      obtain ⟨hlt, hbegun⟩ := List.getElem?_eq_some_iff.1 h
      rw [List.length_singleton] at hlt
      exact Or.inr (Or.inl ⟨rfl, by omega, by simpa using hbegun.symm⟩)
  | goOn wait =>
    rw [waitsAfter, List.getElem?_modify] at h
    obtain ⟨w', hw', rfl⟩ := Option.map_eq_some_iff.1 h
    by_cases hk : wait = k
    · exact Or.inr (Or.inr ⟨congrArg Act.goOn hk, w', hw', if_pos hk⟩)
    · exact Or.inl (hw'.trans (congrArg some (if_neg hk).symm))
  | _ => exact Or.inl h

/-- A wait that goes to sleep has read that something is counted. -/
theorem Attends.next {w : Wait} (h : t.Attends w) :
    t.Attends (w.next t.queue.inFlight t.told) := by
  cases w with
  | begun => exact Nat.le_refl t.told
  | returned => trivial
  | listening since =>
    rw [Wait.next]
    split
    · trivial
    · exact ⟨h, Or.inr (Or.inl (Nat.pos_of_ne_zero ‹_›))⟩
  | asleep since =>
    rw [Wait.next]
    split
    · trivial
    · exact h

theorem attended_start (s : Store) : (start s).Attended := fun _ hw => absurd hw List.not_mem_nil

/-- **Every step leaves all waits attended to.** -/
theorem Attended.step (h : t.Attended) (a : Act) : (t.step a).Attended := by
  intro w hw
  obtain ⟨k, hk⟩ := List.mem_iff_getElem?.1 hw
  have hbefore : t.Attends w := by
    rcases wait_cases hk with hsame | ⟨-, -, rfl⟩ | ⟨-, w', hown, rfl⟩
    · exact h w (List.mem_of_getElem? hsame)
    · trivial
    · exact (h w' (List.mem_of_getElem? hown)).next
  exact hbefore.of_continues (continues_step t a)

theorem Attended.run (h : t.Attended) (as : List Act) : (t.run as).Attended := by
  induction as generalizing t with
  | nil => exact h
  | cons a as ih => exact ih (h.step a)

end Traffic

end ApiGateway
