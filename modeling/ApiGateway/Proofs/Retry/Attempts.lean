import ApiGateway.Proofs.Retry.Delays
import Mathlib.Data.Nat.Find
import Mathlib.Order.Bounds.Basic
/-!
# Retrying — a run

An operation is called until a call settles the matter, by a success or by
an error that is not retryable, or until the policy allows no further call.
The number `k` of the call that ends a run is the least with one of the two
properties (`IsLast`).

The recursion over the calls that are left (`attempts`) ends at that call,
with its outcome and with the delays before it (`attempts_eq`). So does the
loop that counts the failed attempts in 32 bits, compares the counter with
the policy, and sleeps for a delay and a random share of it. A call that is
not the last one is one pass more (`pass_going_of_lt`), so that the counter
never wraps, and the last one is the end of the loop
(`pass_going_of_isLast`). `attempts_exact` puts the two together.
-/

namespace ApiGateway

namespace Retry

variable {ε α : Type} {policy : RetryPolicy} {outcome : Nat → Except ε α} {retryable : ε → Bool}
  {k n : Nat}

/-! ## The last call -/

/-- No further call can help after this outcome. -/
def Settles (retryable : ε → Bool) : Except ε α → Prop
  | .ok _ => True
  | .error e => retryable e = false

/-- How a call ended, by the outcome and what errors are retryable. -/
def Outcome.of (retryable : ε → Bool) : Except ε α → Outcome ε α
  | .ok a => .done a
  | .error e => if retryable e then .passing e else .lasting e

@[simp] theorem Outcome.result_of (retryable : ε → Bool) (r : Except ε α) :
    (Outcome.of retryable r).result = r := by
  cases r with
  | ok a => rfl
  | error e =>
    rw [Outcome.of]
    split <;> rfl

/-- What does not settle the matter is an error that may pass. -/
theorem exists_error_of_not_settles {r : Except ε α} (h : ¬ Settles retryable r) :
    ∃ e, r = .error e ∧ retryable e = true := by
  cases r with
  | ok a => exact absurd trivial h
  | error e => exact ⟨e, rfl, Bool.of_not_eq_false h⟩

/-- A call that can end a run: the last that the policy allows, or one that
settles the matter. Calls are numbered from one. -/
def CanEnd (policy : RetryPolicy) (retryable : ε → Bool) (outcome : Nat → Except ε α) : Set Nat :=
  {n | n = max policy.maxAttempts 1 ∨ 1 ≤ n ∧ Settles retryable (outcome (n - 1))}

/-- There is a first such call. -/
theorem exists_isLeast_canEnd (policy : RetryPolicy) (retryable : ε → Bool)
    (outcome : Nat → Except ε α) : ∃ k, IsLeast (CanEnd policy retryable outcome) k := by
  classical
  have hsome : ∃ n, n ∈ CanEnd policy retryable outcome := ⟨_, .inl rfl⟩
  exact ⟨Nat.find hsome, Nat.find_spec hsome, fun n hn => Nat.find_min' hsome hn⟩

/-- The first call that can end a run, by what is known of the calls before
it and of itself. -/
structure IsLast (policy : RetryPolicy) (retryable : ε → Bool) (outcome : Nat → Except ε α)
    (m : Nat) : Prop where
  /-- The policy allows the call. -/
  allowed : m < max policy.maxAttempts 1
  before : ∀ i < m, ¬ Settles retryable (outcome i)
  ends : m + 1 = max policy.maxAttempts 1 ∨ Settles retryable (outcome m)

/-- With `m` calls before it, that is the call number `m + 1`. -/
theorem isLeast_canEnd_iff {m : Nat} :
    IsLeast (CanEnd policy retryable outcome) (m + 1) ↔ IsLast policy retryable outcome m := by
  constructor
  · rintro ⟨hmem, hleast⟩
    refine ⟨hleast (.inl rfl), fun i hi hsettles => ?_, ?_⟩
    · have : m + 1 ≤ i + 1 := hleast (.inr ⟨Nat.le_add_left 1 i, hsettles⟩)
      omega
    · exact hmem.imp id And.right
  · intro h
    refine ⟨h.ends.imp id fun hsettles => ⟨Nat.le_add_left 1 m, hsettles⟩, ?_⟩
    rintro n (rfl | ⟨hn, hsettles⟩)
    · exact h.allowed
    · by_contra hlt
      exact h.before (n - 1) (by omega) hsettles

/-- A run ends with some call. -/
theorem one_le_of_isLeast (h : IsLeast (CanEnd policy retryable outcome) k) : 1 ≤ k := by
  rcases h.1 with rfl | ⟨hk, -⟩
  · exact Nat.le_max_right _ _
  · exact hk

/-! ## The recursion -/

/-- An attempt that settles the matter is the last one. -/
theorem attempts_of_settles {attempt : Nat} (h : Settles retryable (outcome attempt)) (left : Nat) :
    attempts policy (fun i => .of retryable (outcome i)) attempt left =
      ⟨outcome attempt, attempt + 1, []⟩ := by
  cases left with
  | zero => rw [attempts, Outcome.result_of]
  | succ left =>
    cases houtcome : outcome attempt with
    | ok a => simp only [attempts, houtcome, Outcome.of, Outcome.result]
    | error e =>
      rw [houtcome] at h
      have hno : ¬ retryable e = true := Bool.not_eq_true _ ▸ h
      simp only [attempts, houtcome, Outcome.of, if_neg hno, Outcome.result]

/-- One that does not is followed by a delay and the attempts that are left. -/
theorem attempts_succ_of_not_settles {attempt : Nat} (h : ¬ Settles retryable (outcome attempt))
    (left : Nat) :
    attempts policy (fun i => .of retryable (outcome i)) attempt (left + 1) =
      let later := attempts policy (fun i => .of retryable (outcome i)) (attempt + 1) left
      { later with
        delays := delay (attempt + 1) policy.baseDelay policy.maxDelay :: later.delays } := by
  obtain ⟨e, he, hretryable⟩ := exists_error_of_not_settles h
  have hpassing : Outcome.of retryable (outcome attempt) = .passing e := by
    rw [he, Outcome.of, if_pos hretryable]
  simp only [attempts, hpassing]

/-- **From one attempt on.** `m` calls that settle nothing and one that does,
or that is the last: its outcome, and a delay after each call before it. -/
theorem attempts_eq {attempt left m : Nat} (hm : m ≤ left)
    (hbefore : ∀ i < m, ¬ Settles retryable (outcome (attempt + i)))
    (hends : m = left ∨ Settles retryable (outcome (attempt + m))) :
    attempts policy (fun i => .of retryable (outcome i)) attempt left =
      ⟨outcome (attempt + m), attempt + m + 1,
        (List.range' (attempt + 1) m).map (delay · policy.baseDelay policy.maxDelay)⟩ := by
  induction m generalizing attempt left with
  | zero =>
    rcases hends with rfl | hsettles
    · rw [attempts, Outcome.result_of]
      rfl
    · exact attempts_of_settles hsettles left
  | succ m ih =>
    obtain ⟨left, rfl⟩ : ∃ l, left = l + 1 := ⟨left - 1, by omega⟩
    have hshift : ∀ i, attempt + (i + 1) = attempt + 1 + i := fun i => by omega
    have hlater := @ih (attempt + 1) left (by omega)
      (fun i hi => hshift i ▸ hbefore (i + 1) (by omega))
      (hends.imp (by omega) (hshift m ▸ ·))
    have hfirst : ¬ Settles retryable (outcome attempt) := hbefore 0 (Nat.zero_lt_succ m)
    rw [attempts_succ_of_not_settles hfirst, hlater, ← hshift m]
    rfl

/-- **From the first attempt on.** -/
theorem run_eq {m : Nat} (h : IsLast policy retryable outcome m) :
    run policy (fun i => .of retryable (outcome i)) =
      ⟨outcome m, m + 1, (List.range' 1 m).map (delay · policy.baseDelay policy.maxDelay)⟩ := by
  have hallowed := h.allowed
  have hbefore : ∀ i < m, ¬ Settles retryable (outcome (0 + i)) := fun i hi =>
    (Nat.zero_add i).symm ▸ h.before i hi
  have hends : m = max policy.maxAttempts 1 - 1 ∨ Settles retryable (outcome (0 + m)) :=
    h.ends.imp (by omega) ((Nat.zero_add m).symm ▸ ·)
  rw [run, attempts_eq (by omega) hbefore hends, Nat.zero_add, Nat.zero_add]

/-! ## The loop -/

/-- Where the loop stands: before another call, with the counter of failed
attempts, the calls made and the time slept after each of them; or at its
end. -/
inductive Progress (ε α : Type) where
  | going (attempt calls : Nat) (slept : List Nat)
  | finished (series : Series ε α)

/-- One pass through the loop. `draw n` is the random number that is drawn
before the sleep number `n`. -/
def pass (policy : RetryPolicy) (retryable : ε → Bool) (outcome : Nat → Except ε α)
    (draw : Nat → Nat) : Progress ε α → Progress ε α
  | .finished series => .finished series
  | .going attempt calls slept =>
    match outcome calls with
    | .ok a => .finished ⟨.ok a, calls + 1, slept⟩
    | .error e =>
      let next := (attempt + 1) % Nat.pow 2 32
      if retryable e && next < max policy.maxAttempts 1 then
        .going next (calls + 1)
          (slept ++ [jittered (draw next) next policy.baseDelay policy.maxDelay])
      else .finished ⟨.error e, calls + 1, slept⟩

/-- The loop after so many passes. -/
def passes (policy : RetryPolicy) (retryable : ε → Bool) (outcome : Nat → Except ε α)
    (draw : Nat → Nat) (n : Nat) : Progress ε α :=
  (pass policy retryable outcome draw)^[n] (.going 0 0 [])

/-- The times slept after the first calls. -/
def sleeps (policy : RetryPolicy) (draw : Nat → Nat) (n : Nat) : List Nat :=
  (List.range' 1 n).map fun i => jittered (draw i) i policy.baseDelay policy.maxDelay

variable {draw : Nat → Nat}

theorem sleeps_succ (policy : RetryPolicy) (draw : Nat → Nat) (n : Nat) :
    sleeps policy draw (n + 1) =
      sleeps policy draw n ++
        [jittered (draw (n + 1)) (n + 1) policy.baseDelay policy.maxDelay] := by
  rw [sleeps, List.range'_1_concat, List.map_append, List.map_singleton, Nat.add_comm 1 n]
  rfl

theorem passes_succ (n : Nat) :
    passes policy retryable outcome draw (n + 1) =
      pass policy retryable outcome draw (passes policy retryable outcome draw n) :=
  Function.iterate_succ_apply' _ _ _

/-- **A call that is not the last one.** The counter is below the greatest
number of attempts, so it does not wrap. -/
theorem pass_going_of_lt {m : Nat} (hfits : policy.Fits) (h : IsLast policy retryable outcome m)
    (hn : n < m) :
    pass policy retryable outcome draw (.going n n (sleeps policy draw n)) =
      .going (n + 1) (n + 1) (sleeps policy draw (n + 1)) := by
  obtain ⟨e, he, hretryable⟩ := exists_error_of_not_settles (h.before n hn)
  have hallowed := h.allowed
  have hmost := hfits.maxAttempts
  have hcounter : (n + 1) % Nat.pow 2 32 = n + 1 := Nat.mod_eq_of_lt (by omega)
  have hfurther : n + 1 < max policy.maxAttempts 1 := by omega
  simp only [pass, he, hcounter, hretryable, hfurther, decide_true, Bool.and_true, if_true,
    sleeps_succ]

/-- **The last call** ends the loop with its outcome. -/
theorem pass_going_of_isLast {m : Nat} (hfits : policy.Fits)
    (h : IsLast policy retryable outcome m) :
    pass policy retryable outcome draw (.going m m (sleeps policy draw m)) =
      .finished ⟨outcome m, m + 1, sleeps policy draw m⟩ := by
  cases houtcome : outcome m with
  | ok a => simp only [pass, houtcome]
  | error e =>
    -- A last call that is allowed to fail for good has no attempt left in its counter.
    have hno :
        (retryable e && decide ((m + 1) % Nat.pow 2 32 < max policy.maxAttempts 1)) = false := by
      rcases h.ends with hall | hsettles
      · have hmost := hfits.maxAttempts
        have hone : 1 < Nat.pow 2 32 := by decide
        have hcounter : (m + 1) % Nat.pow 2 32 = m + 1 := Nat.mod_eq_of_lt (by omega)
        rw [hcounter, hall, decide_eq_false (Nat.lt_irrefl _), Bool.and_false]
      · rw [houtcome] at hsettles
        rw [show retryable e = false from hsettles, Bool.false_and]
    simp only [pass, houtcome, hno, Bool.false_eq_true, if_false]

/-- Before the last call the loop is going. -/
theorem passes_of_le {m : Nat} (hfits : policy.Fits) (h : IsLast policy retryable outcome m)
    (hn : n ≤ m) :
    passes policy retryable outcome draw n = .going n n (sleeps policy draw n) := by
  induction n with
  | zero => rfl
  | succ n ih => rw [passes_succ, ih (by omega), pass_going_of_lt hfits h (by omega)]

/-- From the last call on it stays at its end. -/
theorem passes_of_lt {m : Nat} (hfits : policy.Fits) (h : IsLast policy retryable outcome m)
    (hn : m < n) :
    passes policy retryable outcome draw n = .finished ⟨outcome m, m + 1, sleeps policy draw m⟩ := by
  induction n, hn using Nat.le_induction with
  | base => rw [passes_succ, passes_of_le hfits h le_rfl, pass_going_of_isLast hfits h]
  | succ n _ ih => rw [passes_succ, ih, pass]

/-! ## What a run comes to -/

/-- Delays that are short enough never get shorter. -/
theorem pairwise_sleeps (hfits : policy.Fits)
    (hshort : wholeDelay n policy.baseDelay policy.maxDelay < 20) :
    (sleeps policy draw n).Pairwise (· ≤ ·) := by
  have hmono := wholeDelay_mono policy.baseDelay policy.maxDelay
  have hexact : sleeps policy draw n =
      (List.range' 1 n).map (wholeDelay · policy.baseDelay policy.maxDelay) := by
    refine List.map_congr_left fun i hi => ?_
    have hin : i ≤ n := by
      rw [List.mem_range'_1] at hi
      omega
    exact jittered_eq_wholeDelay _ hfits.maxDelay ((hmono hin).trans_lt hshort)
  rw [hexact]
  exact List.pairwise_le_range'.map _ fun _ _ hab => hmono hab

/-- **What a run comes to.** There is a least number `k` of a call that can end
the run: the last that the policy allows, or one that succeeds or fails with an
error that is not retryable. The run makes `k` calls, has the outcome of the
last of them, and the delays are those after the attempts `1` to `k - 1`,
computed without bounds and never getting shorter.

The loop ends after exactly `k` passes, one for each call, and has slept for
those delays with a random share of each, whatever numbers are drawn. A delay of
less than twenty milliseconds is slept as it is, there is none for attempt
`0`, and as long as the delays are that short no sleep is shorter than an
earlier one. -/
theorem attempts_exact (hfits : policy.Fits) (retryable : ε → Bool)
    (outcome : Nat → Except ε α) :
    ∃ k, IsLeast (CanEnd policy retryable outcome) k ∧
      run policy (fun i => .of retryable (outcome i)) =
        ⟨outcome (k - 1), k,
          (List.range' 1 (k - 1)).map (wholeDelay · policy.baseDelay policy.maxDelay)⟩ ∧
      (run policy fun i => .of retryable (outcome i)).delays.Pairwise (· ≤ ·) ∧
      ∀ draw : Nat → Nat,
        (∀ n < k, passes policy retryable outcome draw n = .going n n (sleeps policy draw n)) ∧
        (∀ n, k ≤ n → passes policy retryable outcome draw n =
          .finished ⟨outcome (k - 1), k, sleeps policy draw (k - 1)⟩) ∧
        (∀ attempt, wholeDelay attempt policy.baseDelay policy.maxDelay < 20 →
          jittered (draw attempt) attempt policy.baseDelay policy.maxDelay =
            wholeDelay attempt policy.baseDelay policy.maxDelay) ∧
        jittered (draw 0) 0 policy.baseDelay policy.maxDelay = 0 ∧
        ∀ n, wholeDelay n policy.baseDelay policy.maxDelay < 20 →
          (sleeps policy draw n).Pairwise (· ≤ ·) := by
  obtain ⟨k, hk⟩ := exists_isLeast_canEnd policy retryable outcome
  obtain ⟨m, rfl⟩ : ∃ m, k = m + 1 := ⟨k - 1, by have := one_le_of_isLeast hk; omega⟩
  have hlast := isLeast_canEnd_iff.1 hk
  have hrun : run policy (fun i => .of retryable (outcome i)) =
      ⟨outcome m, m + 1,
        (List.range' 1 m).map (wholeDelay · policy.baseDelay policy.maxDelay)⟩ := by
    rw [run_eq hlast]
    simp only [delay_eq_wholeDelay hfits.maxDelay]
  refine ⟨m + 1, hk, hrun, ?_, fun draw => ⟨fun n hn => ?_, fun n hn => ?_,
    fun attempt hshort => ?_, ?_, fun n hshort => pairwise_sleeps hfits hshort⟩⟩
  · rw [hrun]
    exact List.pairwise_le_range'.map _ fun _ _ hab =>
      wholeDelay_mono policy.baseDelay policy.maxDelay hab
  · exact passes_of_le hfits hlast (Nat.le_of_lt_succ hn)
  · exact passes_of_lt hfits hlast hn
  · exact jittered_eq_wholeDelay _ hfits.maxDelay hshort
  · have hnone : wholeDelay 0 policy.baseDelay policy.maxDelay = 0 := rfl
    rw [jittered_eq_wholeDelay _ hfits.maxDelay (by omega), hnone]

/-- Twice busy and then done: three calls, with delays of four and eight
milliseconds and no share of them. -/
theorem done_on_third_call :
    (⟨5, 4, 50⟩ : RetryPolicy).Fits ∧
      ∀ draw, passes ⟨5, 4, 50⟩ (· == "busy") (fun i => if i < 2 then .error "busy" else .ok i)
        draw 3 = .finished ⟨.ok 2, 3, [4, 8]⟩ := by
  -- settings can give this policy
  have hread : Settings.retryOf? true (.object [("max_attempts", .ofNat 5),
      ("base_delay_ms", .ofNat 4), ("max_delay_ms", .ofNat 50)]) = some ⟨5, 4, 50⟩ := by
    decide +kernel
  have hfits : (⟨5, 4, 50⟩ : RetryPolicy).Fits := Settings.fits_of_retryOf? hread
  refine ⟨hfits, fun draw => ?_⟩
  have hlast : IsLast ⟨5, 4, 50⟩ (· == "busy")
      (fun i => if i < 2 then .error "busy" else .ok i) 2 := by
    refine ⟨by decide, fun i hi => ?_, .inr trivial⟩
    simp [Settles, hi]
  obtain ⟨k, hk, -, -, hloop⟩ := attempts_exact hfits (· == "busy")
    (fun i => if i < 2 then .error "busy" else .ok i)
  obtain rfl : k = 3 := hk.unique (isLeast_canEnd_iff.2 hlast)
  obtain ⟨-, hdone, hexact, -, -⟩ := hloop draw
  have hslept : sleeps ⟨5, 4, 50⟩ draw 2 =
      [jittered (draw 1) 1 4 50, jittered (draw 2) 2 4 50] := rfl
  rw [hdone 3 le_rfl, hslept, hexact 1 (by decide), hexact 2 (by decide)]
  rfl

end Retry

end ApiGateway
