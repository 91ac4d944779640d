import ApiGateway.Shutdown
/-!
# Shutdown — those who give the signal and those who wait for it

`Shutdown` tells what becomes of the signal when it is given or when
somebody looks for it. Others come between the accesses of which that
consists: who gives the signal raises the flag first and sends the message
then, unless the flag was up; who waits for it subscribes first, looks at
the flag then, and if the flag is down is blocked until the message comes.
`Signalling` is a signal with all who give it and all who wait for it, and
`Act` one such access, made by any of them. With nobody coming between they
make up what `Shutdown` tells (`run_trigger`, `run_signalled`).

What carries everything is a count (`Sound`): once the flag is up, one
message is about to be sent or was sent, and before that none. Whoever is
blocked has subscribed while the flag was down, so before the message was
sent.
-/

namespace ApiGateway

namespace Shutdown

/-- A call that gives the signal. -/
inductive Trigger where
  /-- It is about to raise the flag. -/
  | begun
  /-- It found the flag down and raised it, and is about to send the
  message. -/
  | raised
  | done
  deriving DecidableEq

/-- A call that waits for the signal. -/
inductive Waiter where
  /-- It is about to subscribe. -/
  | begun
  /-- It is about to look at the flag. -/
  | subscribed (subscriber : Nat)
  /-- It found the flag down, and goes on when the message is there. -/
  | blocked (subscriber : Nat)
  | returned
  deriving DecidableEq

namespace Waiter

/-- The number under which a call has subscribed, while it needs it. -/
def subscriber? : Waiter → Option Nat
  | subscribed n => some n
  | blocked n => some n
  | _ => none

/-- The steps that a call has still to make when the message was sent. -/
def stepsLeft : Waiter → Nat
  | begun => 2
  | subscribed _ => 1
  | blocked _ => 1
  | returned => 0

theorem stepsLeft_le (w : Waiter) : w.stepsLeft ≤ 2 := by
  cases w <;> simp [stepsLeft]

end Waiter

variable {s : Shutdown} {n : Nat}

/-- The message is taken if it is there. -/
theorem receive_of_waiting (h : s.waiting[n]? = some true) :
    s.receive n = (.signal, { s with waiting := s.waiting.set n false }) := by
  simp [receive, h]

theorem receive_of_not_waiting (h : s.waiting[n]? ≠ some true) :
    s.receive n = (.nothing, s) := by
  have hnone : s.waiting.getD n false ≠ true := by
    rw [List.getD_eq_getElem?_getD]
    cases hn : s.waiting[n]? with
    | none => exact Bool.false_ne_true
    | some b => exact fun hb => h (hn.trans (congrArg some hb))
  exact if_neg hnone

end Shutdown

open Shutdown

/-- A signal with all calls that give it and all that wait for it. -/
structure Signalling extends Shutdown where
  triggers : List Trigger
  waiters : List Waiter
  /-- The messages that were sent. -/
  sent : Nat

namespace Signalling

/-- A signal that nobody has given or waits for. -/
def start : Signalling := ⟨quiet, [], [], 0⟩

/-- What can happen. -/
inductive Act where
  /-- Somebody begins to give the signal. -/
  | trigger
  /-- One of those who give it goes on. -/
  | give (trigger : Nat)
  /-- Somebody begins to wait. -/
  | wait
  /-- One of those who wait goes on. -/
  | goOn (waiter : Nat)

/-- A call that gives the signal makes its next access. -/
def give (t : Signalling) (k : Nat) : Signalling :=
  match t.triggers[k]? with
  | some .begun =>
    { t with
      toShutdown := t.raise.2
      triggers := t.triggers.set k (if t.raise.1 then .raised else .done) }
  | some .raised =>
    { t with
      toShutdown := t.toShutdown.send
      triggers := t.triggers.set k .done
      sent := t.sent + 1 }
  | _ => t

/-- A call that waits for the signal makes its next access. -/
def goOn (t : Signalling) (k : Nat) : Signalling :=
  match t.waiters[k]? with
  | some .begun =>
    { t with
      toShutdown := t.subscribe.2
      waiters := t.waiters.set k (.subscribed t.subscribe.1) }
  | some (.subscribed n) =>
    { t with waiters := t.waiters.set k (if t.triggered then .returned else .blocked n) }
  | some (.blocked n) =>
    { t with
      toShutdown := (t.receive n).2
      waiters := t.waiters.set k (if (t.receive n).1 = .signal then .returned else .blocked n) }
  | _ => t

/-- One step; what cannot be done changes nothing. -/
def step (t : Signalling) : Act → Signalling
  | .trigger => { t with triggers := t.triggers ++ [.begun] }
  | .give k => t.give k
  | .wait => { t with waiters := t.waiters ++ [.begun] }
  | .goOn k => t.goOn k

/-- The state after steps one after the other. -/
def run (t : Signalling) (as : List Act) : Signalling := as.foldl step t

variable {t : Signalling}

/-! ## With nobody coming between -/

/-- **Giving the signal** raises the flag and sends the message, unless the
flag was up. -/
theorem run_trigger (t : Signalling) :
    let k := t.triggers.length
    (t.run [.trigger, .give k, .give k]).toShutdown = t.toShutdown.trigger ∧
      (t.run [.trigger, .give k, .give k]).triggers = t.triggers ++ [.done] := by
  obtain ⟨⟨triggered, waiting⟩, triggers, waiters, sent⟩ := t
  cases triggered <;>
    simp [run, step, give, Shutdown.trigger, Shutdown.raise, Shutdown.send]

/-- **Waiting for the signal** returns at once exactly if the flag is up. -/
theorem run_signalled (t : Signalling) :
    let k := t.waiters.length
    (t.run [.wait, .goOn k, .goOn k, .goOn k]).waiters =
      t.waiters ++
        [if t.toShutdown.isSignalled then .returned else .blocked t.waiting.length] := by
  obtain ⟨⟨triggered, waiting⟩, triggers, waiters, sent⟩ := t
  cases triggered <;>
    simp [run, step, goOn, isSignalled, subscribe, receive]

/-! ## What one step can do -/

/-- **Everything that a step of giving the signal can do**: nothing, the
flag raised by the first who finds it down, or the message sent to everybody
who has subscribed. -/
theorem give_cases (t : Signalling) (k : Nat) :
    t.give k = t ∨
    (t.triggers[k]? = some .begun ∧ t.give k = { t with
      triggered := true
      triggers := t.triggers.set k (if t.triggered then .done else .raised) }) ∨
    (t.triggers[k]? = some .raised ∧ t.give k = { t with
      waiting := t.waiting.map fun _ => true
      triggers := t.triggers.set k .done
      sent := t.sent + 1 }) := by
  unfold give
  cases hk : t.triggers[k]? with
  | none => exact Or.inl rfl
  | some g =>
    cases g with
    | begun =>
      refine Or.inr (Or.inl ⟨rfl, ?_⟩)
      cases hup : t.triggered <;> simp [raise, hup]
    | raised => exact Or.inr (Or.inr ⟨rfl, rfl⟩)
    | done => exact Or.inl rfl

/-- **Everything that a step of waiting can do**: nothing, for who has
returned or is blocked without a message; a subscription; a look at the
flag; or a message taken. -/
theorem goOn_cases (t : Signalling) (k : Nat) :
    ((∀ w, t.waiters[k]? = some w → w = .returned ∨
        ∃ n, w = .blocked n ∧ t.waiting[n]? ≠ some true) ∧ t.goOn k = t) ∨
    (t.waiters[k]? = some .begun ∧ t.goOn k = { t with
      waiting := t.waiting ++ [false]
      waiters := t.waiters.set k (.subscribed t.waiting.length) }) ∨
    (∃ n, t.waiters[k]? = some (.subscribed n) ∧ t.goOn k = { t with
      waiters := t.waiters.set k (if t.triggered then .returned else .blocked n) }) ∨
    (∃ n, t.waiters[k]? = some (.blocked n) ∧ t.waiting[n]? = some true ∧ t.goOn k = { t with
      waiting := t.waiting.set n false
      waiters := t.waiters.set k .returned }) := by
  unfold goOn
  cases hk : t.waiters[k]? with
  | none => exact Or.inl ⟨nofun, rfl⟩
  | some w =>
    cases w with
    | begun => exact Or.inr (Or.inl ⟨rfl, rfl⟩)
    | subscribed n => exact Or.inr (Or.inr (Or.inl ⟨n, rfl, rfl⟩))
    | returned => exact Or.inl ⟨fun w hw => Or.inl (Option.some.inj hw).symm, rfl⟩
    | blocked n =>
      by_cases hn : t.waiting[n]? = some true
      · refine Or.inr (Or.inr (Or.inr ⟨n, rfl, hn, ?_⟩))
        simp only [receive_of_waiting hn, if_true]
      · obtain ⟨hlt, hget⟩ := List.getElem?_eq_some_iff.1 hk
        have hsame : t.waiters.set k (.blocked n) = t.waiters := by
          rw [← hget, List.set_getElem_self]
        refine Or.inl ⟨fun w hw => Or.inr ⟨n, (Option.some.inj hw).symm, hn⟩, ?_⟩
        simp only [receive_of_not_waiting hn, reduceCtorEq, if_false, hsame]

/-- A step of one waiting call leaves the others where they are. -/
theorem waiters_goOn_of_ne {j k : Nat} (hne : j ≠ k) :
    (t.goOn j).waiters[k]? = t.waiters[k]? := by
  rcases t.goOn_cases j with ⟨-, hgo⟩ | ⟨-, hgo⟩ | ⟨n, -, hgo⟩ | ⟨n, -, -, hgo⟩
  · rw [hgo]
  all_goals
    rw [hgo]
    exact List.getElem?_set_ne hne

/-- Waiting for the signal leaves the flag and those who give it alone. -/
theorem goOn_frame (t : Signalling) (k : Nat) :
    (t.goOn k).triggered = t.triggered ∧ (t.goOn k).triggers = t.triggers ∧
      (t.goOn k).sent = t.sent := by
  rcases t.goOn_cases k with ⟨-, hgo⟩ | ⟨-, hgo⟩ | ⟨n, -, hgo⟩ | ⟨n, -, -, hgo⟩
  all_goals
    rw [hgo]
    exact ⟨rfl, rfl, rfl⟩

/-- Giving the signal does not move who waits for it. -/
theorem waiters_give (t : Signalling) (k : Nat) : (t.give k).waiters = t.waiters := by
  rcases t.give_cases k with hgive | ⟨-, hgive⟩ | ⟨-, hgive⟩ <;> rw [hgive]

/-! ## What every step keeps -/

/-- The number under which one of the waiting calls has subscribed. -/
def subscriberOf? (t : Signalling) (k : Nat) : Option Nat := t.waiters[k]?.bind Waiter.subscriber?

/-- **One message for one flag**, and everybody who is blocked gets it. -/
structure Sound (t : Signalling) : Prop where
  /-- The message is about to be sent, or was, exactly if the flag is up. -/
  one : t.triggers.count .raised + t.sent = if t.triggered then 1 else 0
  /-- While the flag is down nobody is done giving the signal. -/
  down : t.triggered = false → .done ∉ t.triggers
  /-- Who has subscribed is among the subscribers. -/
  known : ∀ k n : Nat, t.subscriberOf? k = some n → n < t.waiting.length
  /-- No two have subscribed as one. -/
  apart : ∀ j k n : Nat, t.subscriberOf? j = some n → t.subscriberOf? k = some n → j = k
  /-- Where the message waits, the flag is up. -/
  up : true ∈ t.waiting → t.triggered = true
  /-- Once the message was sent, it waits for everybody who is blocked. -/
  heard : ∀ k n : Nat, t.waiters[k]? = some (.blocked n) → t.sent = 0 ∨ t.waiting[n]? = some true
  /-- Nobody returns while the flag is down. -/
  returned : ∀ k : Nat, t.waiters[k]? = some .returned → t.triggered = true

theorem sound_start : start.Sound :=
  ⟨rfl, fun _ => List.not_mem_nil, nofun, nofun, nofun, nofun, nofun⟩

/-- The signals that are about to be sent after one of those who give it has
gone on. -/
theorem count_raised_set {gs : List Trigger} {k : Nat} {g : Trigger} (hk : gs[k]? = some g)
    (g' : Trigger) :
    (gs.set k g').count .raised + (if g = .raised then 1 else 0) =
      gs.count .raised + if g' = .raised then 1 else 0 := by
  obtain ⟨hlt, hget⟩ := List.getElem?_eq_some_iff.1 hk
  have hpos : g = .raised → 0 < gs.count .raised := fun hg =>
    List.count_pos_iff.2 (List.mem_of_getElem? (hg ▸ hk))
  rw [List.count_set hlt, hget]
  simp only [beq_iff_eq]
  split
  next hg =>
    have hcount := hpos hg
    omega
  next => omega

/-- The calls after one of them has gone on. -/
theorem getElem?_set_of_some {ws : List Waiter} {k : Nat} {w : Waiter} (hk : ws[k]? = some w)
    (w' : Waiter) (j : Nat) : (ws.set k w')[j]? = if k = j then some w' else ws[j]? := by
  rw [List.getElem?_set, if_pos (List.getElem?_eq_some_iff.1 hk).1]

namespace Sound

/-- While the flag is down no message was sent. -/
theorem sent_eq_zero (h : t.Sound) (hdown : t.triggered = false) : t.sent = 0 := by
  have hone := h.one
  rw [hdown] at hone
  exact (Nat.add_eq_zero_iff.1 hone).2

theorem triggered_of_sent (h : t.Sound) (hsent : t.sent = 1) : t.triggered = true := by
  cases hflag : t.triggered with
  | true => rfl
  | false =>
    have hzero := h.sent_eq_zero hflag
    omega

theorem sent_le_one (h : t.Sound) : t.sent ≤ 1 := by
  have hone := h.one
  split at hone <;> omega

/-- Where somebody is done giving the signal and nobody is about to send the
message, it was sent. -/
theorem sent_eq_one (h : t.Sound) (hdone : .done ∈ t.triggers) (hraised : .raised ∉ t.triggers) :
    t.sent = 1 := by
  have hone := h.one
  have hup : t.triggered = true := by
    cases hflag : t.triggered with
    | true => rfl
    | false => exact absurd hdone (h.down hflag)
  rw [List.count_eq_zero.2 hraised, if_pos hup] at hone
  omega

/-- **A step of giving the signal** raises the flag for one message, or
sends the one that is owed for it. -/
theorem give (h : t.Sound) (k : Nat) : (t.give k).Sound := by
  have hone := h.one
  rcases t.give_cases k with hsame | ⟨hk, hgive⟩ | ⟨hk, hgive⟩
  · rw [hsame]
    exact h
  · have hcount := count_raised_set hk (if t.triggered then .done else .raised)
    rw [hgive]
    refine ⟨?_, nofun, h.known, h.apart, fun _ => rfl, h.heard, fun _ _ => rfl⟩
    rw [if_pos rfl]
    cases hup : t.triggered with
    | true =>
      simp only [hup, reduceCtorEq, if_true, if_false] at hone hcount ⊢
      omega
    | false =>
      simp only [hup, reduceCtorEq, Bool.false_eq_true, if_true, if_false] at hone hcount ⊢
      omega
  · have hcount := count_raised_set hk .done
    simp only [reduceCtorEq, if_true, if_false] at hcount
    have hup : t.triggered = true := by
      cases hflag : t.triggered with
      | true => rfl
      | false =>
        rw [hflag, if_neg Bool.false_ne_true] at hone
        omega
    rw [hgive]
    refine ⟨?_, fun hdown => absurd (hup.symm.trans hdown) Bool.noConfusion, fun j n hj => ?_,
      h.apart, fun _ => hup, fun j n hj => Or.inr ?_, h.returned⟩
    · change (t.triggers.set k .done).count .raised + (t.sent + 1) = if t.triggered then 1 else 0
      rw [if_pos hup] at hone ⊢
      omega
    · rw [List.length_map]
      exact h.known j n hj
    · -- whoever is blocked has subscribed
      have hn : n < t.waiting.length := h.known j n (congrArg (·.bind Waiter.subscriber?) hj)
      rw [List.getElem?_map, List.getElem?_eq_getElem hn, Option.map_some]

/-- A new subscriber comes behind all that there are. -/
theorem subscribe (h : t.Sound) {k : Nat} (hk : t.waiters[k]? = some .begun) :
    Sound { t with
      waiting := t.waiting ++ [false]
      waiters := t.waiters.set k (.subscribed t.waiting.length) } := by
  have hset := getElem?_set_of_some hk (.subscribed t.waiting.length)
  -- the number is new, and all others are below it
  have hsub : ∀ j n : Nat, ((t.waiters.set k (.subscribed t.waiting.length))[j]?.bind
      Waiter.subscriber?) = some n → (k = j ∧ n = t.waiting.length) ∨
        (k ≠ j ∧ t.subscriberOf? j = some n ∧ n < t.waiting.length) := by
    intro j n hj
    rw [hset] at hj
    by_cases hkj : k = j
    · rw [if_pos hkj] at hj
      exact Or.inl ⟨hkj, (Option.some.inj hj).symm⟩
    · rw [if_neg hkj] at hj
      exact Or.inr ⟨hkj, hj, h.known j n hj⟩
  refine ⟨h.one, h.down, fun j n hj => ?_, fun i j n hi hj => ?_, fun hmem => ?_,
    fun j n hj => ?_, fun j hj => ?_⟩
  · rw [List.length_append, List.length_singleton]
    rcases hsub j n hj with ⟨-, hn⟩ | ⟨-, -, hn⟩ <;> omega
  · rcases hsub i n hi with ⟨hki, hn⟩ | ⟨-, hi, hn⟩
    · rcases hsub j n hj with ⟨hkj, -⟩ | ⟨-, -, hn'⟩
      · exact hki.symm.trans hkj
      · omega
    · rcases hsub j n hj with ⟨-, hn'⟩ | ⟨-, hj, -⟩
      · omega
      · exact h.apart i j n hi hj
  · rcases List.mem_append.1 hmem with hmem | hmem
    · exact h.up hmem
    · exact absurd (List.mem_singleton.1 hmem) Bool.noConfusion
  · change (t.waiters.set k _)[j]? = _ at hj
    rw [hset] at hj
    split at hj
    · cases hj
    · have hn : n < t.waiting.length := h.known j n (congrArg (·.bind Waiter.subscriber?) hj)
      rw [List.getElem?_append_left hn]
      exact h.heard j n hj
  · change (t.waiters.set k _)[j]? = _ at hj
    rw [hset] at hj
    split at hj
    · cases hj
    · exact h.returned j hj

/-- Who goes on keeps its number or gives it up. -/
theorem subscriber?_of_set {k : Nat} {w w' : Waiter} (hk : t.waiters[k]? = some w)
    (hw : w'.subscriber? = w.subscriber? ∨ w'.subscriber? = none) {j n : Nat}
    (hj : (t.waiters.set k w')[j]?.bind Waiter.subscriber? = some n) :
    t.subscriberOf? j = some n := by
  rw [getElem?_set_of_some hk] at hj
  by_cases hkj : k = j
  · rw [if_pos hkj, Option.bind_some] at hj
    rcases hw with hw | hw
    · rw [subscriberOf?, ← hkj, hk, Option.bind_some, ← hw, hj]
    · rw [hw] at hj
      cases hj
  · rw [if_neg hkj] at hj
    exact hj

/-- Who looks at the flag returns if it is up, and is blocked if it is down,
when no message was sent. -/
theorem look (h : t.Sound) {k n : Nat} (hk : t.waiters[k]? = some (.subscribed n)) :
    Sound { t with
      waiters := t.waiters.set k (if t.triggered then .returned else .blocked n) } := by
  have hset := getElem?_set_of_some hk (if t.triggered then .returned else .blocked n)
  have hsub : ∀ {j m : Nat}, (t.waiters.set k (if t.triggered then .returned else
      .blocked n))[j]?.bind Waiter.subscriber? = some m → t.subscriberOf? j = some m := by
    refine subscriber?_of_set hk ?_
    split
    · exact Or.inr rfl
    · exact Or.inl rfl
  refine ⟨h.one, h.down, fun j m hj => h.known j m (hsub hj),
    fun i j m hi hj => h.apart i j m (hsub hi) (hsub hj), h.up, fun j m hj => ?_, fun j hj => ?_⟩
  · rw [hset] at hj
    cases hup : t.triggered with
    | false => exact Or.inl (h.sent_eq_zero hup)
    | true =>
      rw [hup, if_pos rfl] at hj
      split at hj
      · cases hj
      · exact h.heard j m hj
  · rw [hset] at hj
    cases hup : t.triggered with
    | true => rfl
    | false =>
      rw [hup, if_neg Bool.false_ne_true] at hj
      split at hj
      · cases hj
      · exact hup.symm.trans (h.returned j hj)

/-- Who is blocked takes its own message, and leaves those of the others. -/
theorem receive (h : t.Sound) {k n : Nat} (hk : t.waiters[k]? = some (.blocked n))
    (hn : t.waiting[n]? = some true) :
    Sound { t with waiting := t.waiting.set n false, waiters := t.waiters.set k .returned } := by
  have hset := getElem?_set_of_some hk .returned
  have hsub : ∀ {j m : Nat}, (t.waiters.set k .returned)[j]?.bind Waiter.subscriber? = some m →
      t.subscriberOf? j = some m := subscriber?_of_set hk (Or.inr rfl)
  have hup : t.triggered = true := h.up (List.mem_of_getElem? hn)
  refine ⟨h.one, h.down, fun j m hj => ?_, fun i j m hi hj => h.apart i j m (hsub hi) (hsub hj),
    fun _ => hup, fun j m hj => ?_, fun _ _ => hup⟩
  · rw [List.length_set]
    exact h.known j m (hsub hj)
  · rw [hset] at hj
    by_cases hkj : k = j
    · rw [if_pos hkj] at hj
      cases hj
    · rw [if_neg hkj] at hj
      -- another call has another number
      have hnm : n ≠ m := fun heq => hkj (h.apart k j n
        (congrArg (·.bind Waiter.subscriber?) hk)
        ((congrArg (·.bind Waiter.subscriber?) hj).trans (congrArg some heq.symm)))
      rw [List.getElem?_set_ne hnm]
      exact h.heard j m hj

/-- **A step of waiting** keeps the subscribers apart, and the message for
whoever it was sent to. -/
theorem goOn (h : t.Sound) (k : Nat) : (t.goOn k).Sound := by
  rcases t.goOn_cases k with ⟨-, hgo⟩ | ⟨hk, hgo⟩ | ⟨n, hk, hgo⟩ | ⟨n, hk, hn, hgo⟩
  · rw [hgo]
    exact h
  · rw [hgo]
    exact h.subscribe hk
  · rw [hgo]
    exact h.look hk
  · rw [hgo]
    exact h.receive hk hn

/-- A call that begins has neither raised the flag nor subscribed. -/
theorem getElem?_concat_begun {ws : List Waiter} {j : Nat} {w : Waiter}
    (hj : (ws ++ [.begun])[j]? = some w) : w = .begun ∨ ws[j]? = some w := by
  rw [List.getElem?_append] at hj
  split at hj
  · exact Or.inr hj
  · exact Or.inl (List.mem_singleton.1 (List.mem_of_getElem? hj))

/-- **Every step keeps the signal sound.** -/
theorem step (h : t.Sound) (a : Act) : (t.step a).Sound := by
  cases a with
  | give k => exact h.give k
  | goOn k => exact h.goOn k
  | trigger =>
    refine ⟨?_, fun hdown hmem => ?_, h.known, h.apart, h.up, h.heard, h.returned⟩
    · have hcount : (t.triggers ++ [Trigger.begun]).count .raised = t.triggers.count .raised :=
        List.count_append.trans (Nat.add_zero _)
      exact (congrArg (· + t.sent) hcount).trans h.one
    · rcases List.mem_append.1 hmem with hmem | hmem
      · exact h.down hdown hmem
      · cases List.mem_singleton.1 hmem
  | wait =>
    have hsub : ∀ {j n : Nat}, (t.waiters ++ [.begun])[j]?.bind Waiter.subscriber? = some n →
        t.subscriberOf? j = some n := by
      intro j n hj
      obtain ⟨w, hw, hn⟩ := Option.bind_eq_some_iff.1 hj
      rcases getElem?_concat_begun hw with rfl | hw
      · cases hn
      · exact Option.bind_eq_some_iff.2 ⟨w, hw, hn⟩
    refine ⟨h.one, h.down, fun j n hj => h.known j n (hsub hj),
      fun i j n hi hj => h.apart i j n (hsub hi) (hsub hj), h.up, fun j n hj => ?_, fun j hj => ?_⟩
    · exact h.heard j n ((getElem?_concat_begun hj).resolve_left nofun)
    · exact h.returned j ((getElem?_concat_begun hj).resolve_left nofun)

theorem run (h : t.Sound) (as : List Act) : (t.run as).Sound := by
  induction as generalizing t with
  | nil => exact h
  | cons a as ih => exact ih (h.step a)

end Sound

/-! ## When the flag is raised -/

/-- Only who gives the signal raises the flag. -/
theorem triggered_step {a : Act} (hdown : t.triggered = false) (hup : (t.step a).triggered = true) :
    ∃ k, a = .give k := by
  have hsame : t.triggered ≠ true := fun h => absurd (h.symm.trans hdown) Bool.noConfusion
  cases a with
  | give k => exact ⟨k, rfl⟩
  | trigger => exact absurd hup hsame
  | wait => exact absurd hup hsame
  | goOn k => exact absurd ((t.goOn_frame k).1.symm.trans hup) hsame

/-- **Where the flag is up, somebody raised it.** -/
theorem exists_raised {as : List Act} (hdown : t.triggered = false)
    (hup : (t.run as).triggered = true) :
    ∃ before k later, as = before ++ .give k :: later ∧ (t.run before).triggered = false ∧
      ((t.run before).give k).triggered = true := by
  induction as generalizing t with
  | nil => exact absurd (hup.symm.trans hdown) Bool.noConfusion
  | cons a as ih =>
    cases hfirst : (t.step a).triggered with
    | true =>
      obtain ⟨k, rfl⟩ := triggered_step hdown hfirst
      exact ⟨[], k, as, rfl, hdown, hfirst⟩
    | false =>
      obtain ⟨before, k, later, rfl, hbefore, hraised⟩ := ih hfirst hup
      exact ⟨a :: before, k, later, rfl, hbefore, hraised⟩

/-! ## When the message was sent -/

/-- No message is taken back. -/
theorem sent_le_step (t : Signalling) (a : Act) : t.sent ≤ (t.step a).sent := by
  cases a with
  | trigger => exact Nat.le_refl t.sent
  | wait => exact Nat.le_refl t.sent
  | give k =>
    rcases t.give_cases k with hgive | ⟨-, hgive⟩ | ⟨-, hgive⟩
    · exact Nat.le_of_eq (congrArg sent hgive).symm
    · exact Nat.le_of_eq (congrArg sent hgive).symm
    · exact Nat.le_trans (Nat.le_succ t.sent) (Nat.le_of_eq (congrArg sent hgive).symm)
  | goOn k => exact Nat.le_of_eq (t.goOn_frame k).2.2.symm

theorem sent_le_run (t : Signalling) (as : List Act) : t.sent ≤ (t.run as).sent := by
  induction as generalizing t with
  | nil => exact Nat.le_refl t.sent
  | cons a as ih => exact Nat.le_trans (t.sent_le_step a) (ih (t.step a))

/-- Whether an act is a step of this waiting call. -/
def Act.goesOn (k : Nat) : Act → Bool
  | goOn n => n = k
  | _ => false

/-- **Once the message was sent, every step of a waiting call brings it
on.** -/
theorem stepsLeft_step (h : t.Sound) (hsent : t.sent = 1) {a : Act} {k : Nat} {w : Waiter}
    (hk : t.waiters[k]? = some w) :
    ∃ w', (t.step a).waiters[k]? = some w' ∧
      w'.stepsLeft ≤ w.stepsLeft - if a.goesOn k then 1 else 0 := by
  cases a with
  | trigger => exact ⟨w, hk, Nat.le_refl _⟩
  | wait =>
    exact ⟨w, (List.getElem?_append_left (List.getElem?_eq_some_iff.1 hk).1).trans hk,
      Nat.le_refl _⟩
  | give j => exact ⟨w, (congrArg (·[k]?) (t.waiters_give j)).trans hk, Nat.le_refl _⟩
  | goOn j =>
    by_cases hj : j = k
    · subst hj
      have hgoes : (Act.goOn j).goesOn j = true := decide_eq_true rfl
      have hset := getElem?_set_of_some hk
      rw [hgoes, if_pos rfl]
      rcases t.goOn_cases j with ⟨hstay, hgo⟩ | ⟨hj, hgo⟩ | ⟨n, hj, hgo⟩ | ⟨n, hj, hn, hgo⟩
      · rcases hstay w hk with rfl | ⟨n, rfl, hnone⟩
        · exact ⟨.returned, (congrArg (·.waiters[j]?) hgo).trans hk, Nat.le_refl 0⟩
        · -- nobody is blocked without a message
          exact absurd ((h.heard j n hk).resolve_left (by omega)) hnone
      · obtain rfl := Option.some.inj (hk.symm.trans hj)
        exact ⟨.subscribed t.waiting.length,
          (congrArg (·.waiters[j]?) hgo).trans ((hset _ j).trans (if_pos rfl)), Nat.le_refl 1⟩
      · obtain rfl := Option.some.inj (hk.symm.trans hj)
        have hup := h.triggered_of_sent hsent
        exact ⟨.returned, (congrArg (·.waiters[j]?) hgo).trans
          ((hset _ j).trans ((if_pos rfl).trans (congrArg some (if_pos hup)))), Nat.le_refl 0⟩
      · obtain rfl := Option.some.inj (hk.symm.trans hj)
        exact ⟨.returned, (congrArg (·.waiters[j]?) hgo).trans ((hset _ j).trans (if_pos rfl)),
          Nat.le_refl 0⟩
    · have hgoes : (Act.goOn j).goesOn k = false := decide_eq_false hj
      rw [hgoes, if_neg Bool.false_ne_true]
      exact ⟨w, (waiters_goOn_of_ne hj).trans hk, Nat.le_refl _⟩

/-- **Once the message was sent, a waiting call returns** after as many
steps of its own as it had left, whatever else goes on. -/
theorem returns_of_sent (h : t.Sound) (hsent : t.sent = 1) {later : List Act} {k : Nat}
    {w : Waiter} (hk : t.waiters[k]? = some w)
    (hsteps : w.stepsLeft ≤ later.countP (Act.goesOn k)) :
    (t.run later).waiters[k]? = some .returned := by
  induction later generalizing t w with
  | nil =>
    cases w with
    | returned => exact hk
    | _ => cases hsteps
  | cons a later ih =>
    have hsent' : (t.step a).sent = 1 :=
      Nat.le_antisymm (h.step a).sent_le_one (hsent ▸ t.sent_le_step a)
    obtain ⟨w', hk', hleft⟩ := stepsLeft_step (a := a) h hsent hk
    refine ih (h.step a) hsent' hk' ?_
    rw [List.countP_cons] at hsteps
    omega

/-! ## What is promised -/

/-- **What is promised of a signal**, in every order of steps from a signal
that nobody has given or waits for. -/
structure Reaches (as : List Act) (t : Signalling) : Prop where
  /-- However many give the signal, there is one message at most. -/
  once : t.sent ≤ 1
  /-- Whoever has returned had not returned when somebody raised the flag. -/
  not_early : ∀ k : Nat, t.waiters[k]? = some .returned →
    ∃ before j later, as = before ++ .give j :: later ∧
      (start.run before).triggered = false ∧ ((start.run before).give j).triggered = true ∧
      (start.run before).waiters[k]? ≠ some .returned
  /-- Where somebody is done giving the signal and nobody is still at it, the
  message waits for everybody who is blocked, and the next step of each is to
  return. -/
  pending : .done ∈ t.triggers → .raised ∉ t.triggers →
    ∀ k n : Nat, t.waiters[k]? = some (.blocked n) →
      t.waiting[n]? = some true ∧ (t.goOn k).waiters[k]? = some .returned
  /-- From then on everybody who waits returns with two steps of its own,
  whatever else goes on, also if it begins to wait only then. -/
  returns : .done ∈ t.triggers → .raised ∉ t.triggers → ∀ later more : List Act, ∀ k : Nat,
    k < (t.run later).waiters.length → 2 ≤ more.countP (Act.goesOn k) →
      (t.run (later ++ more)).waiters[k]? = some .returned

/-- **The signal reaches everybody who waits for it, once, and nobody
before it is given.** -/
theorem signal_reaches (as : List Act) : Reaches as (start.run as) := by
  have hsound := sound_start.run as
  refine ⟨hsound.sent_le_one, fun k hk => ?_, fun hdone hraised k n hk => ?_,
    fun hdone hraised later more k hk hsteps => ?_⟩
  · obtain ⟨before, j, later, hsplit, hdown, hraised⟩ := exists_raised rfl (hsound.returned k hk)
    refine ⟨before, j, later, hsplit, hdown, hraised, fun hearly => ?_⟩
    have hup := (sound_start.run before).returned k hearly
    exact absurd (hup.symm.trans hdown) Bool.noConfusion
  · have hsent := hsound.sent_eq_one hdone hraised
    have hn := (hsound.heard k n hk).resolve_left (by omega)
    have hone : List.countP (Act.goesOn k) [.goOn k] = 1 := by simp [Act.goesOn]
    have hnext : ((start.run as).run [.goOn k]).waiters[k]? = some .returned :=
      returns_of_sent hsound hsent hk (Nat.le_of_eq hone.symm)
    exact ⟨hn, hnext⟩
  · have hsent := hsound.sent_eq_one hdone hraised
    have hlater : ((start.run as).run later).sent = 1 :=
      Nat.le_antisymm (hsound.run later).sent_le_one (hsent ▸ sent_le_run _ later)
    have hrun : (start.run as).run (later ++ more) = ((start.run as).run later).run more :=
      List.foldl_append
    rw [hrun]
    exact returns_of_sent (hsound.run later) hlater (List.getElem?_eq_getElem hk)
      (Nat.le_trans (Waiter.stepsLeft_le _) hsteps)

/-- **An early and a late call, and two that give the signal**: the second
to give it finds the flag up, and who looks at the flag before the message
is sent returns at once. The message waits for who came early. -/
theorem reaches_early_and_late :
    let t := start.run [.wait, .goOn 0, .goOn 0, .trigger, .trigger, .give 0, .wait, .goOn 1,
      .give 1, .goOn 1, .give 0]
    t.triggers = [.done, .done] ∧ t.sent = 1 ∧ t.waiters = [.blocked 0, .returned] ∧
      t.waiting[0]? = some true ∧ (t.goOn 0).waiters[0]? = some .returned := by
  have h := (signal_reaches [.wait, .goOn 0, .goOn 0, .trigger, .trigger, .give 0, .wait, .goOn 1,
    .give 1, .goOn 1, .give 0]).pending (by decide) (by decide) 0 0 (by decide)
  exact ⟨by decide, by decide, by decide, h⟩

end Signalling

end ApiGateway
