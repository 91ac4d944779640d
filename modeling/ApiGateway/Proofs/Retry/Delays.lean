import ApiGateway.Settings.Basic
import Mathlib.Order.MinMax
import Mathlib.Order.Nat
/-!
# Retrying — the delays

A delay is computed with factors and products that saturate, and is cut
at the greatest delay of the policy afterwards. That greatest delay is
itself a number of milliseconds, so the cut hides the saturation: the
delay is the product as the integers have it, cut once
(`delay_eq_wholeDelay`). This holds for a base of zero as well, where the
product never grows, and for as many doublings as there may be. The
policies that settings can give are all of this kind (`fits_of_retryOf?`).

What is slept is the delay and a random share of no more than a tenth of
it (`jittered_bounds`). There is no whole tenth to share below ten
milliseconds, and below twenty the only share is zero
(`jittered_eq_wholeDelay`).
-/

namespace ApiGateway

/-- A policy whose numbers are those of its fields' types. -/
structure RetryPolicy.Fits (policy : RetryPolicy) : Prop where
  maxAttempts : policy.maxAttempts < Nat.pow 2 32
  baseDelay : policy.baseDelay < Nat.pow 2 64
  maxDelay : policy.maxDelay < Nat.pow 2 64

namespace Settings

/-- A number that was read, or the default in its place, is below the
bound. -/
theorem lt_of_withDefault {f : Fields} {name : String} {standard bound n : Nat}
    (hstandard : standard < bound)
    (h : f.withDefault name standard (Json.asNat? bound) = some n) : n < bound := by
  unfold Fields.withDefault at h
  split at h
  · exact Option.some.inj h ▸ hstandard
  · unfold Json.asNat? at h
    split at h
    · obtain ⟨hbounds, hn⟩ := Option.ite_none_right_eq_some.1 h
      have := Option.some.inj hn
      omega
    · cases h

/-- Every policy that settings can give fits. -/
theorem fits_of_retryOf? {surplus : Bool} {j : Json} {policy : RetryPolicy}
    (h : retryOf? surplus j = some policy) : policy.Fits := by
  obtain ⟨f, -, h⟩ := Option.bind_eq_some_iff.1 h
  obtain ⟨attempts, hattempts, h⟩ := Option.bind_eq_some_iff.1 h
  obtain ⟨base, hbase, h⟩ := Option.bind_eq_some_iff.1 h
  obtain ⟨most, hmost, h⟩ := Option.bind_eq_some_iff.1 h
  obtain rfl := Option.some.inj h
  exact ⟨lt_of_withDefault (by decide) hattempts, lt_of_withDefault (by decide) hbase,
    lt_of_withDefault (by decide) hmost⟩

end Settings

namespace Retry

variable {attempt base most : Nat}

/-! ## Without saturation -/

/-- The delay after a failed attempt, computed without bounds. -/
def wholeDelay (attempt base most : Nat) : Nat :=
  if attempt = 0 then 0 else min (base * Nat.pow 2 (attempt - 1)) most

theorem growth_of_lt {doublings : Nat} (h : doublings < 64) :
    growth doublings = Nat.pow 2 doublings := by
  have hpow : Nat.pow 2 doublings < Nat.pow 2 64 := Nat.pow_lt_pow_right (by decide) h
  rw [growth, Nat.min_eq_left h.le]
  exact Nat.min_eq_left (Nat.le_sub_one_of_lt hpow)

theorem growth_of_ge {doublings : Nat} (h : 64 ≤ doublings) :
    growth doublings = mostMilliseconds := by
  rw [growth, Nat.min_eq_right h]
  decide

/-- **Saturation never shows.** The greatest delay is a number of
milliseconds, and what saturates is past all of them. -/
theorem delay_eq_wholeDelay (hmost : most < Nat.pow 2 64) :
    delay attempt base most = wholeDelay attempt base most := by
  have hcap : most ≤ mostMilliseconds := Nat.le_sub_one_of_lt hmost
  rw [delay, wholeDelay]
  split
  · rfl
  rw [Nat.min_assoc, Nat.min_eq_right hcap]
  rcases Nat.lt_or_ge (attempt - 1) 64 with hfew | hmany
  · rw [growth_of_lt hfew]
  rw [growth_of_ge hmany]
  -- With 64 doublings and more both products are past the greatest delay, if they grow at all.
  rcases Nat.eq_zero_or_pos base with rfl | hbase
  · rw [Nat.zero_mul, Nat.zero_mul]
  have hpow : Nat.pow 2 64 ≤ Nat.pow 2 (attempt - 1) := Nat.pow_le_pow_right (by decide) hmany
  have hwhole : Nat.pow 2 (attempt - 1) ≤ base * Nat.pow 2 (attempt - 1) :=
    Nat.le_mul_of_pos_left _ hbase
  have hsaturated : mostMilliseconds ≤ base * mostMilliseconds := Nat.le_mul_of_pos_left _ hbase
  rw [Nat.min_eq_right (hcap.trans hsaturated), Nat.min_eq_right (by omega)]

/-- A later delay is no shorter. -/
theorem wholeDelay_mono (base most : Nat) :
    Monotone fun attempt => wholeDelay attempt base most := by
  intro a b hab
  simp only [wholeDelay]
  split
  · exact Nat.zero_le _
  · rw [if_neg (by omega)]
    have hpow : Nat.pow 2 (a - 1) ≤ Nat.pow 2 (b - 1) :=
      Nat.pow_le_pow_right (by decide) (by omega)
    exact min_le_min_right most (Nat.mul_le_mul_left base hpow)

/-! ## With the random share -/

/-- The random share of a delay: what was drawn out of the numbers below a
tenth of it. -/
def share (draw delay : Nat) : Nat := if 0 < delay / 10 then draw % (delay / 10) else 0

/-- What is slept after a failed attempt. The sum of delay and share wraps
at `2 ^ 64`, where only a delay within a tenth of that can take it. -/
def jittered (draw attempt base most : Nat) : Nat :=
  (delay attempt base most + share draw (delay attempt base most)) % Nat.pow 2 64

/-- The share is at most a tenth. -/
theorem share_le (draw delay : Nat) : share draw delay ≤ delay / 10 := by
  rw [share]
  split
  next h => exact (Nat.mod_lt draw h).le
  next => exact Nat.zero_le _

theorem share_of_lt {draw delay : Nat} (h : delay < 20) : share draw delay = 0 := by
  rw [share]
  split
  · rw [show delay / 10 = 1 by omega, Nat.mod_one]
  · rfl

/-- **Between the delay and a tenth more**, as long as that much can be
slept. -/
theorem jittered_bounds (draw : Nat) (hmost : most + most / 10 < Nat.pow 2 64) :
    wholeDelay attempt base most ≤ jittered draw attempt base most ∧
      jittered draw attempt base most ≤
        wholeDelay attempt base most + wholeDelay attempt base most / 10 := by
  have hle : wholeDelay attempt base most ≤ most := by
    rw [wholeDelay]
    split
    · exact Nat.zero_le _
    · exact Nat.min_le_right _ _
  rw [jittered, delay_eq_wholeDelay (by omega)]
  have hshare := share_le draw (wholeDelay attempt base most)
  rw [Nat.mod_eq_of_lt (by omega)]
  omega

/-- **No jitter on short delays.** -/
theorem jittered_eq_wholeDelay (draw : Nat) (hmost : most < Nat.pow 2 64)
    (h : wholeDelay attempt base most < 20) :
    jittered draw attempt base most = wholeDelay attempt base most := by
  rw [jittered, delay_eq_wholeDelay hmost, share_of_lt h, Nat.add_zero]
  exact Nat.mod_eq_of_lt (h.trans (by decide))

end Retry

end ApiGateway
