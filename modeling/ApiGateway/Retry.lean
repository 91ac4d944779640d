/-!
# Retrying — attempts with growing delays

An operation that fails for a passing reason is tried again, each time
after a delay twice as long as the one before, up to a greatest delay and
a number of attempts. Delays are in milliseconds and saturate at
`2 ^ 64 - 1`; the random share that is added to long delays is left
out.
-/

namespace ApiGateway

/-- How often an operation is tried and how long the delays are. -/
structure RetryPolicy where
  maxAttempts : Nat
  baseDelay : Nat
  maxDelay : Nat
  deriving DecidableEq, Repr

namespace Retry

/-- The greatest number of milliseconds. -/
def mostMilliseconds : Nat := Nat.pow 2 64 - 1

/-- The factor after so many doublings; 64 of them are past every number
of milliseconds. -/
def growth (doublings : Nat) : Nat := min (Nat.pow 2 (min doublings 64)) mostMilliseconds

/-- The delay after a failed attempt, the first attempt being number
one. -/
def delay (attempt base most : Nat) : Nat :=
  if attempt = 0 then 0
  else min (min (base * growth (attempt - 1)) mostMilliseconds) most

/-- How one attempt ended. -/
inductive Outcome (ε α : Type) where
  | done (value : α)
  /-- Trying again may help. -/
  | passing (error : ε)
  /-- Trying again does not help. -/
  | lasting (error : ε)
  deriving Repr

/-- The result of an outcome. -/
def Outcome.result {ε α : Type} : Outcome ε α → Except ε α
  | done a => .ok a
  | passing e => .error e
  | lasting e => .error e

/-- What a series of attempts came to: the last result, the number of
attempts and the delays between them. -/
structure Series (ε α : Type) where
  result : Except ε α
  calls : Nat
  delays : List Nat

namespace Series

/-- The time spent waiting. -/
def waited {ε α : Type} (s : Series ε α) : Nat := s.delays.foldr (· + ·) 0

end Series

variable {ε α : Type}

/-- The attempts from number `attempt + 1` on, when `left` more may
follow that one. Attempt number `n + 1` ends as `outcome n` says. -/
def attempts (policy : RetryPolicy) (outcome : Nat → Outcome ε α) (attempt : Nat) :
    Nat → Series ε α
  | 0 => ⟨(outcome attempt).result, attempt + 1, []⟩
  | left + 1 =>
    match outcome attempt with
    | .passing _ =>
      let later := attempts policy outcome (attempt + 1) left
      { later with delays := delay (attempt + 1) policy.baseDelay policy.maxDelay :: later.delays }
    | o => ⟨o.result, attempt + 1, []⟩

/-- The attempts that a policy allows, of which there is at least
one. -/
def run (policy : RetryPolicy) (outcome : Nat → Outcome ε α) : Series ε α :=
  attempts policy outcome 0 (max policy.maxAttempts 1 - 1)

/-- The attempts from number `attempt + 1` on, as `attempts` has them, if
the delays between them are less than `budget` milliseconds in all. -/
def attemptsWithin (policy : RetryPolicy) (outcome : Nat → Outcome ε α) (budget attempt : Nat) :
    Nat → Option (Series ε α)
  | 0 => if 0 < budget then some ⟨(outcome attempt).result, attempt + 1, []⟩ else none
  | left + 1 =>
    match outcome attempt with
    | .passing _ =>
      let d := delay (attempt + 1) policy.baseDelay policy.maxDelay
      if d < budget then
        (attemptsWithin policy outcome (budget - d) (attempt + 1) left).map fun later =>
          { later with delays := d :: later.delays }
      else none
    | o => if 0 < budget then some ⟨o.result, attempt + 1, []⟩ else none

/-- The attempts that a policy allows, if the delays between them are
less than `budget` milliseconds in all. No attempt is made after the
budget is used up. -/
def runWithin (policy : RetryPolicy) (outcome : Nat → Outcome ε α) (budget : Nat) :
    Option (Series ε α) :=
  attemptsWithin policy outcome budget 0 (max policy.maxAttempts 1 - 1)

theorem Series.waited_nil (result : Except ε α) (calls : Nat) :
    (⟨result, calls, []⟩ : Series ε α).waited = 0 := rfl

theorem Series.waited_cons (s : Series ε α) (delay : Nat) :
    (⟨s.result, s.calls, delay :: s.delays⟩ : Series ε α).waited = delay + s.waited := rfl

theorem attemptsWithin_eq (policy : RetryPolicy) (outcome : Nat → Outcome ε α)
    (budget attempt left : Nat) :
    attemptsWithin policy outcome budget attempt left =
      if (attempts policy outcome attempt left).waited < budget then
        some (attempts policy outcome attempt left)
      else none := by
  induction left generalizing budget attempt with
  | zero => rfl
  | succ left ih =>
    cases h : outcome attempt with
    | done a => simp only [attemptsWithin, attempts, h, Series.waited_nil]
    | lasting e => simp only [attemptsWithin, attempts, h, Series.waited_nil]
    | passing e =>
      simp only [attemptsWithin, attempts, h, ih, Series.waited_cons]
      generalize delay (attempt + 1) policy.baseDelay policy.maxDelay = d
      generalize attempts policy outcome (attempt + 1) left = later
      by_cases hd : d < budget
      · by_cases hl : later.waited < budget - d
        · simp [hd, hl, show d + later.waited < budget by omega]
        · simp [hd, hl, show ¬ d + later.waited < budget by omega]
      · simp [hd, show ¬ d + later.waited < budget by omega]

/-- Within a budget the attempts are those without one, if they wait for
less. -/
theorem runWithin_eq (policy : RetryPolicy) (outcome : Nat → Outcome ε α) (budget : Nat) :
    runWithin policy outcome budget =
      if (run policy outcome).waited < budget then some (run policy outcome) else none :=
  attemptsWithin_eq policy outcome budget 0 _

end Retry

end ApiGateway
