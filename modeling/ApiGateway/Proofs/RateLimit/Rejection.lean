import ApiGateway.Proofs.DistinctKeys
import ApiGateway.Proofs.RateLimit.Accounting
/-!
# Rate limits — what a rejected check costs

A check takes tokens limit by limit and gives none back, so one that is
rejected has paid for the limits that it passed. It has passed those in
front of the first one without a token (`exists_split_of_charge_exceeded`),
and what it leaves is what a check of these alone would have left: finding
no token changes nothing (`spend_of_left_eq_zero`). There is one exception.
A limit of the number 0 rejects whatever its bucket holds, and empties it.

Whether two limiters can be told apart by what they answer from now on is
said by `Alike`. They can if an allowance has more tokens left in one of
them (`Alike.left_eq`): asked for it often enough, the other one is the
first to reject. So a rejected check goes unnoticed exactly if it has
passed nothing and found an empty bucket (`rejected_exact`).
-/

namespace ApiGateway

namespace Buckets

variable {b b' : Buckets} {e : Allowance × Nat} {es : List (Allowance × Nat)} {c : Check}
variable {limit : String} {l : RateLimit} {n : Nat}

/-! ## Where a walk stops -/

/-- **A walk that is rejected** has passed what stands in front of a charge
for which there is no token. -/
theorem exists_split_of_charge_exceeded (h : (b.charge es).1 = .exceeded limit) :
    ∃ front e back, es = front ++ e :: back ∧ e.1.limit = limit ∧
      (b.charge front).1 = .admitted ∧ (b.charge front).2.left e = 0 ∧
      (b.charge es).2 = (b.charge front).2.spend e := by
  induction es generalizing b with
  | nil => cases h
  | cons d es ih =>
    rw [charge] at h ⊢
    by_cases hpos : 0 < b.left d
    · rw [if_pos hpos] at h ⊢
      obtain ⟨front, e, back, rfl, hlimit, hfront, hleft, hspent⟩ := ih h
      have hcons : b.charge (d :: front) = (b.spend d).charge front := by rw [charge, if_pos hpos]
      refine ⟨d :: front, e, back, rfl, hlimit, ?_⟩
      rw [hcons]
      exact ⟨hfront, hleft, hspent⟩
    · rw [if_neg hpos] at h ⊢
      exact ⟨[], d, es, rfl, Verdict.exceeded.inj h, rfl, Nat.eq_zero_of_not_pos hpos, rfl⟩

theorem charge_singleton (b : Buckets) (e : Allowance × Nat) :
    b.charge [e] = (if 0 < b.left e then .admitted else .exceeded e.1.limit, b.spend e) := by
  rw [charge]
  split <;> rfl

theorem left_spend_le (b : Buckets) (e d : Allowance × Nat) : (b.spend d).left e ≤ b.left e := by
  have hle := left_charge_le b [d] e
  rwa [charge_singleton] at hle

/-- A limit that could give tokens and gives none has an empty bucket. -/
theorem get?_of_left_eq_zero (h : b.left e = 0) (hpos : 0 < e.2) :
    OrderedMap.get? b e.1.bucket = some 0 := by
  rw [left, tokens] at h
  cases hget : OrderedMap.get? b e.1.bucket with
  | none =>
    rw [hget] at h
    exact absurd h (Nat.ne_of_gt hpos)
  | some m =>
    rw [hget] at h
    have hmin : min m e.2 = 0 := h
    rw [show m = 0 by omega]

/-- An empty bucket stays as it is. -/
theorem spend_of_get? (h : OrderedMap.get? b e.1.bucket = some 0) : b.spend e = b := by
  have hleft : b.left e = 0 := by rw [left, tokens, h]; exact Nat.zero_min _
  have hspend : b.spend e = OrderedMap.insert b e.1.bucket (b.left e - 1) := rfl
  rw [hspend, hleft]
  exact OrderedMap.insert_of_get? h

/-- **Finding no token changes nothing.** -/
theorem spend_of_left_eq_zero (h : b.left e = 0) (hpos : 0 < e.2) : b.spend e = b :=
  spend_of_get? (get?_of_left_eq_zero h hpos)

/-! ## Limiters that answer alike -/

/-- The verdicts of checks that are made one after the other. -/
def verdicts (b : Buckets) : List Check → List Verdict
  | [] => []
  | c :: cs => (b.ask c).1 :: verdicts (b.ask c).2 cs

/-- Two limiters give the same verdicts from now on. -/
def Alike (b b' : Buckets) : Prop := ∀ later : List Check, b.verdicts later = b'.verdicts later

/-- A check of one limit. -/
def single (scope client : String) (l : RateLimit) : Check := ⟨scope, client, [l]⟩

theorem charges_single (h : number? l = some n) (scope client : String) :
    (single scope client l).charges = [(⟨scope, client, l.name⟩, n)] := by
  rw [Check.charges, single, List.filterMap_cons, h]
  rfl

/-- **What is left can be told by asking**: a single check can be made so
many times, and no more. -/
theorem verdicts_replicate (hc : c.charges = [e]) (b : Buckets) (k : Nat) :
    (∀ v ∈ b.verdicts (List.replicate k c), v = .admitted) ↔ k ≤ b.left e := by
  induction k generalizing b with
  | zero => simp [verdicts]
  | succ k ih =>
    rw [List.replicate_succ, verdicts, List.forall_mem_cons, ask_eq_charge, hc, charge_singleton,
      ih, left_spend_self]
    by_cases hpos : 0 < b.left e
    · rw [if_pos hpos]
      exact ⟨fun h => by omega, fun h => ⟨rfl, by omega⟩⟩
    · rw [if_neg hpos]
      exact ⟨fun h => absurd h.1 nofun, fun h => by omega⟩

/-- **Limiters that answer alike have the same left** of every limit that
can be written. -/
theorem Alike.left_eq (h : Alike b b') (hn : number? l = some n) (scope client : String) :
    b.left (⟨scope, client, l.name⟩, n) = b'.left (⟨scope, client, l.name⟩, n) := by
  have hc := charges_single hn scope client
  have hiff : ∀ k, k ≤ b.left (⟨scope, client, l.name⟩, n) ↔
      k ≤ b'.left (⟨scope, client, l.name⟩, n) := fun k => by
    rw [← verdicts_replicate hc, ← verdicts_replicate hc, h]
  exact Nat.le_antisymm ((hiff _).1 (Nat.le_refl _)) ((hiff _).2 (Nat.le_refl _))

/-! ## Rejected checks -/

/-- The check with other limits. -/
def Check.withLimits (c : Check) (limits : List RateLimit) : Check := { c with limits := limits }

/-- The allowance of a limit in a check. -/
def Check.allowance (c : Check) (l : RateLimit) : Allowance := ⟨c.scope, c.client, l.name⟩

/-- **Where a rejected check stops**: at a limit with a number, in front of
which everything was passed. -/
theorem exists_limit_of_ask_exceeded (h : (b.ask c).1 = .exceeded limit) :
    ∃ before l behind n, c.limits = before ++ l :: behind ∧ l.name = limit ∧
      number? l = some n ∧ (b.ask (c.withLimits before)).1 = .admitted ∧
      (b.ask (c.withLimits before)).2.left (c.allowance l, n) = 0 ∧
      (b.ask c).2 = (b.ask (c.withLimits before)).2.spend (c.allowance l, n) := by
  rw [ask_eq_charge] at h
  obtain ⟨front, e, back, hcharges, hlimit, hfront, hleft, hspent⟩ :=
    exists_split_of_charge_exceeded h
  rw [Check.charges, List.filterMap_eq_append_iff] at hcharges
  obtain ⟨before, rest, hlimits, hbefore, hrest⟩ := hcharges
  obtain ⟨skipped, l, behind, rfl, hskipped, hl, -⟩ := List.filterMap_eq_cons_iff.1 hrest
  obtain ⟨n, hn, rfl⟩ := Option.map_eq_some_iff.1 hl
  -- limits without a number in front of the one that rejects are passed over
  have hcharged : (c.withLimits (before ++ skipped)).charges = front := by
    rw [Check.charges, Check.withLimits, List.filterMap_append, hbefore,
      List.filterMap_eq_nil_iff.2 hskipped, List.append_nil]
  refine ⟨before ++ skipped, l, behind, n, by rw [hlimits, List.append_assoc], hlimit, hn, ?_⟩
  rw [ask_eq_charge, ask_eq_charge, hcharged]
  exact ⟨hfront, hleft, hspent⟩

/-- What was passed is paid for. -/
theorem left_ask_lt (hpassed : (b.ask c).1 = .admitted) (hcharges : c.charges = e :: es) :
    (b.ask c).2.left e < b.left e := by
  rw [ask_eq_charge, hcharges, charge] at hpassed ⊢
  by_cases hpos : 0 < b.left e
  · rw [if_pos hpos]
    have hle := left_charge_le (b.spend e) es e
    rw [left_spend_self] at hle
    omega
  · rw [if_neg hpos] at hpassed
    cases hpassed

/-- **A check that has passed something is noticed**: the first limit that
it passed has a token less. -/
theorem charges_eq_nil_of_alike {before : List RateLimit}
    (hpassed : (b.ask (c.withLimits before)).1 = .admitted)
    (hspent : (b.ask c).2 = (b.ask (c.withLimits before)).2.spend e)
    (halike : Alike (b.ask c).2 b) : (c.withLimits before).charges = [] := by
  cases hcharges : (c.withLimits before).charges with
  | nil => rfl
  | cons d front =>
    have hd : d ∈ (c.withLimits before).charges := hcharges ▸ List.mem_cons_self
    obtain ⟨l, -, hl⟩ := List.mem_filterMap.1 hd
    obtain ⟨m, hm, rfl⟩ := Option.map_eq_some_iff.1 hl
    have hsame := halike.left_eq hm c.scope c.client
    have hlt := left_ask_lt hpassed hcharges
    have hle := left_spend_le (b.ask (c.withLimits before)).2 (⟨c.scope, c.client, l.name⟩, m) e
    rw [← hspent, hsame] at hle
    exact absurd hlt (Nat.not_lt.2 hle)

/-- **A bucket that was emptied is noticed** by a limit of the number 1. -/
theorem get?_of_alike_spend {t : Allowance} (hleft : b.left (t, n) = 0)
    (halike : Alike (b.spend (t, n)) b) : OrderedMap.get? b t.bucket = some 0 := by
  have hquota : Quota.parse? "1/s" = some (.limited 1 1) := by decide +kernel
  have hnumber : number? ⟨t.limit, "1/s"⟩ = some 1 := by simp only [number?, hquota]
  have hsame : (b.spend (t, n)).left (t, 1) = b.left (t, 1) :=
    halike.left_eq hnumber t.scope t.client
  have hzero : (b.spend (t, n)).left (t, 1) = 0 := by
    rw [left, tokens, get?_spend_self, hleft]
    rfl
  exact get?_of_left_eq_zero (e := (t, 1)) (hsame.symm.trans hzero) Nat.one_pos

/-- **A rejected check costs what it has passed.** It stops at a limit `l`
with a number and without a token, and reports its name. A check of the
limits in front of `l` would have been admitted, and it would have left the
same buckets, unless the number of `l` is 0. So the rejected check goes
unnoticed exactly if nothing in front of `l` has a number and the bucket of
`l` was empty. -/
theorem rejected_exact (h : (b.ask c).1 = .exceeded limit) :
    ∃ before l behind n, c.limits = before ++ l :: behind ∧ l.name = limit ∧
      number? l = some n ∧
      (b.ask (c.withLimits before)).1 = .admitted ∧
      (b.ask (c.withLimits before)).2.left (c.allowance l, n) = 0 ∧
      (0 < n → (b.ask c).2 = (b.ask (c.withLimits before)).2) ∧
      (Alike (b.ask c).2 b ↔
        (∀ l' ∈ before, number? l' = none) ∧
          OrderedMap.get? b (c.allowance l).bucket = some 0) := by
  obtain ⟨before, l, behind, n, hlimits, hname, hn, hpassed, hleft, hspent⟩ :=
    exists_limit_of_ask_exceeded h
  refine ⟨before, l, behind, n, hlimits, hname, hn, hpassed, hleft, fun hpos => ?_, ?_⟩
  · rw [hspent, spend_of_left_eq_zero hleft hpos]
  · have hnone : (∀ l' ∈ before, number? l' = none) ↔ (c.withLimits before).charges = [] := by
      rw [Check.charges, List.filterMap_eq_nil_iff]
      simp only [Check.withLimits, Option.map_eq_none_iff]
    have hnothing : (c.withLimits before).charges = [] → (b.ask (c.withLimits before)).2 = b :=
      fun hnil => by rw [ask_eq_charge, hnil]; rfl
    rw [hnone]
    constructor
    · intro halike
      have hnil := charges_eq_nil_of_alike hpassed hspent halike
      rw [hspent, hnothing hnil] at halike
      rw [hnothing hnil] at hleft
      exact ⟨hnil, get?_of_alike_spend hleft halike⟩
    · rintro ⟨hnil, hempty⟩ later
      rw [hspent, hnothing hnil, spend_of_get? (e := (c.allowance l, n)) hempty]

/-- **The third check of a client in a row** is rejected by its day, and has
paid for its week: it leaves what a check of the limits in front of the day
leaves. -/
theorem day_rejects_behind_week :
    let c := weekAndDay "alice"
    let b := after [] [.check c, .check c]
    (b.ask c).1 = .exceeded "day" ∧
      (b.ask c).2 = (b.ask (c.withLimits [⟨"week", "3/1week"⟩, ⟨"burst", "unlimited"⟩])).2 ∧
      ¬ Alike (b.ask c).2 b := by
  intro c b
  have hrejected : (b.ask c).1 = .exceeded "day" := by decide +kernel
  obtain ⟨before, l, behind, n, hlimits, hname, hn, -, -, hsame, halike⟩ := rejected_exact hrejected
  -- the day is the last of the three limits
  have hbefore : before = [⟨"week", "3/1week"⟩, ⟨"burst", "unlimited"⟩] ∧
      l = ⟨"day", "2/1day"⟩ := by
    have hthree : [⟨"week", "3/1week"⟩, ⟨"burst", "unlimited"⟩, ⟨"day", "2/1day"⟩] =
        before ++ l :: behind := hlimits
    rcases before with _ | ⟨x, _ | ⟨y, _ | ⟨z, before⟩⟩⟩
    · obtain rfl := (List.cons.inj hthree).1
      exact absurd hname (by decide)
    · simp only [List.cons_append, List.nil_append, List.cons.injEq] at hthree
      obtain ⟨-, rfl, -⟩ := hthree
      exact absurd hname (by decide)
    · simp only [List.cons_append, List.nil_append, List.cons.injEq] at hthree
      obtain ⟨rfl, rfl, rfl, -⟩ := hthree
      exact ⟨rfl, rfl⟩
    · simp at hthree
  obtain ⟨rfl, rfl⟩ := hbefore
  have hnumber : number? ⟨"day", "2/1day"⟩ = some 2 := by decide +kernel
  obtain rfl : n = 2 := Option.some.inj (hn.symm.trans hnumber)
  refine ⟨hrejected, hsame (by decide), fun h => ?_⟩
  have hweek := (halike.1 h).1 ⟨"week", "3/1week"⟩ List.mem_cons_self
  have hthree : number? ⟨"week", "3/1week"⟩ = some 3 := by decide +kernel
  exact absurd (hweek.symm.trans hthree) nofun

/-- **Rejected checks that are noticed.** A request that is rejected by its
day takes the last token for the week, and a request for the week alone is
rejected afterwards that would have been admitted. And a limit of the number
0 empties a bucket that was not there, which is found empty when the limit
has another number. -/
theorem rejected_and_noticed :
    (let day : RateLimit := ⟨"day", "1/1day"⟩
      let week : RateLimit := ⟨"week", "2/1week"⟩
      let b := after [] [.check (single "gold" "app" day), .check (single "gold" "app" week)]
      let rejected := b.ask ⟨"gold", "app", [week, day]⟩
      rejected.1 = .exceeded "day" ∧
        b.verdicts [single "gold" "app" week] = [.admitted] ∧
        rejected.2.verdicts [single "gold" "app" week] = [.exceeded "week"]) ∧
    (let none : RateLimit := ⟨"day", "0/1day"⟩
      let one : RateLimit := ⟨"day", "1/1day"⟩
      let rejected := ask [] (single "gold" "app" none)
      rejected.1 = .exceeded "day" ∧
        verdicts [] [single "gold" "app" one] = [.admitted] ∧
        rejected.2.verdicts [single "gold" "app" one] = [.exceeded "day"]) := by
  constructor
  · decide +kernel
  · decide +kernel

end Buckets

end ApiGateway
