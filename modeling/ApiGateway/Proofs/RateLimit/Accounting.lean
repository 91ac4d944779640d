import ApiGateway.Proofs.RateLimit.Charges
import Mathlib.Data.List.Find
import Mathlib.Data.List.Induction
import Mathlib.Data.List.Nodup
/-!
# Rate limits — the account of every allowance

A check that is rejected has spent tokens all the same: those of the
limits before the one that rejected it. What it has passed can be told
from its verdict alone (`passed`), and this is just what it has spent
(`left_charge`). So in every run the tokens that are left of an allowance
and the checks since the last reset that passed it make up its number
(`Regular.left_add_timesPassed`).

A verdict is told by the tokens that are left: the first allowance in the
order of the check that has none rejects it (`charge_verdict`). Of a check
that is made again and again the first ones are admitted, as many as its
least number, whatever is asked for other allowances in between
(`Regular.admitted_iff`): as long as each of its allowances has a token,
none of them has been rejected (`admitted_of_left_pos`), and so each has
passed them all.
-/

namespace ApiGateway

namespace Buckets

variable {b : Buckets} {e d : Allowance × Nat} {es : List (Allowance × Nat)} {t : Allowance}
variable {c : Check} {acts : List Act}

/-! ## What a check spends -/

/-- What a check has passed: everything if it was admitted, and what it
lists before the limit that rejected it if not. -/
def passed (listed : List Allowance) : Verdict → List Allowance
  | .admitted => listed
  | .exceeded limit => listed.takeWhile fun t => t.limit ≠ limit

/-- What a check with this verdict has passed. -/
def Check.passed (c : Check) (v : Verdict) : List Allowance := Buckets.passed c.allowances v

theorem mem_of_mem_passed {listed : List Allowance} {v : Verdict} (h : t ∈ passed listed v) :
    t ∈ listed := by
  cases v with
  | admitted => exact h
  | exceeded limit => exact (List.takeWhile_sublist _).subset h

/-- A check is rejected by one of its limits. -/
theorem exists_of_charge_exceeded {limit : String} (h : (b.charge es).1 = .exceeded limit) :
    ∃ e ∈ es, e.1.limit = limit := by
  induction es generalizing b with
  | nil => cases h
  | cons e es ih =>
    rw [charge] at h
    split at h
    · obtain ⟨d, hd, hlimit⟩ := ih h
      exact ⟨d, List.mem_cons_of_mem e hd, hlimit⟩
    · exact ⟨e, List.mem_cons_self, Verdict.exceeded.inj h⟩

theorem left_spend_of_ne (h : d.1.bucket ≠ e.1.bucket) : (b.spend d).left e = b.left e :=
  left_congr (get?_spend_of_ne h)

/-- **A walk spends what it passes**: one token of each, and none of what
it does not pass. -/
theorem left_charge (hlimits : (es.map (·.1.limit)).Nodup)
    (hown : ∀ d ∈ es, d.1.bucket = e.1.bucket → d = e) :
    (b.charge es).2.left e + (if e.1 ∈ passed (es.map (·.1)) (b.charge es).1 then 1 else 0) =
      b.left e := by
  induction es generalizing b with
  | nil => rfl
  | cons d es ih =>
    obtain ⟨hd, hlimits⟩ := List.nodup_cons.1 hlimits
    have hown' : ∀ d ∈ es, d.1.bucket = e.1.bucket → d = e := fun d hd =>
      hown d (List.mem_cons_of_mem _ hd)
    have hothers : ∀ d' ∈ es, d'.1.limit ≠ d.1.limit := fun d' hd' heq =>
      hd (List.mem_map.2 ⟨d', hd', heq⟩)
    rw [charge, List.map_cons]
    by_cases hpos : 0 < b.left d
    · rw [if_pos hpos]
      -- no later limit has the name of the first, so that is passed whatever rejects the walk
      have hpassed : passed (d.1 :: es.map (·.1)) ((b.spend d).charge es).1 =
          d.1 :: passed (es.map (·.1)) ((b.spend d).charge es).1 := by
        cases hv : ((b.spend d).charge es).1 with
        | admitted => rfl
        | exceeded limit =>
          obtain ⟨d', hd', hlimit⟩ := exists_of_charge_exceeded hv
          have hne : d.1.limit ≠ limit := fun h => hothers d' hd' (hlimit.trans h.symm)
          rw [passed, passed, List.takeWhile_cons_of_pos (by simpa using hne)]
      rw [hpassed]
      by_cases hbucket : d.1.bucket = e.1.bucket
      · obtain rfl := hown d List.mem_cons_self hbucket
        have hlater : ∀ d' ∈ es, d'.1.bucket ≠ d.1.bucket := fun d' hd' h =>
          hothers d' hd' (by rw [hown' d' hd' h])
        rw [if_pos List.mem_cons_self, left_congr (get?_charge_of_ne hlater), left_spend_self]
        omega
      · have hne : e.1 ≠ d.1 := fun h => hbucket (by rw [h])
        have hiff : e.1 ∈ d.1 :: passed (es.map (·.1)) ((b.spend d).charge es).1 ↔
            e.1 ∈ passed (es.map (·.1)) ((b.spend d).charge es).1 :=
          ⟨fun h => (List.mem_cons.1 h).resolve_left hne, List.mem_cons_of_mem _⟩
        have hrest := ih (b := b.spend d) hlimits hown'
        rw [if_congr hiff rfl rfl, hrest, left_spend_of_ne hbucket]
    · have hnone : passed (d.1 :: es.map (·.1)) (.exceeded d.1.limit) = [] := by
        rw [passed, List.takeWhile_cons_of_neg (by simp)]
      rw [if_neg hpos, hnone, if_neg List.not_mem_nil, Nat.add_zero]
      by_cases hbucket : d.1.bucket = e.1.bucket
      · obtain rfl := hown d List.mem_cons_self hbucket
        rw [left_spend_self]
        omega
      · exact left_spend_of_ne hbucket

/-- **What a check is told**: the first of its allowances that has no token
left rejects it. -/
theorem charge_verdict (hown : (es.map (·.1.bucket)).Nodup) :
    (b.charge es).1 =
      match es.find? fun e => b.left e = 0 with
      | none => .admitted
      | some e => .exceeded e.1.limit := by
  induction es generalizing b with
  | nil => rfl
  | cons d es ih =>
    obtain ⟨hd, hown⟩ := List.nodup_cons.1 hown
    rw [charge]
    by_cases hpos : 0 < b.left d
    · have hkept : ∀ e ∈ es, (b.spend d).left e = b.left e := fun e he =>
        left_spend_of_ne fun h => hd (List.mem_map.2 ⟨e, he, h.symm⟩)
      have hfind : (es.find? fun e => (b.spend d).left e = 0) =
          es.find? fun e => b.left e = 0 :=
        List.find?_congr fun e he => by rw [hkept e he]
      rw [if_pos hpos, ih hown, hfind, List.find?_cons_of_neg (by simp; omega)]
    · rw [if_neg hpos, List.find?_cons_of_pos (by simp; omega)]

/-- No walk gives tokens back. -/
theorem left_charge_le (b : Buckets) (es : List (Allowance × Nat)) (e : Allowance × Nat) :
    (b.charge es).2.left e ≤ b.left e := by
  have hspend : ∀ (b : Buckets) (d : Allowance × Nat), (b.spend d).left e ≤ b.left e := by
    intro b d
    by_cases hbucket : d.1.bucket = e.1.bucket
    · rw [left, tokens, ← hbucket, get?_spend_self, left, left, tokens, tokens, hbucket]
      cases OrderedMap.get? b e.1.bucket with
      | none => exact Nat.min_le_right _ _
      | some n => simp only; omega
    · rw [left_spend_of_ne hbucket]
  induction es generalizing b with
  | nil => exact Nat.le_refl _
  | cons d es ih =>
    rw [charge]
    split
    · exact Nat.le_trans (ih _) (hspend b d)
    · exact hspend b d

/-! ## Limits without a number -/

/-- The check without the limits that have no number. -/
def Check.numbered (c : Check) : Check :=
  { c with limits := c.limits.filter fun l => (number? l).isSome }

/-- **Limits without a number never matter.** -/
theorem ask_numbered (b : Buckets) (c : Check) : b.ask c.numbered = b.ask c := by
  have hcharges : c.numbered.charges = c.charges := by
    rw [Check.charges, Check.charges, Check.numbered, List.filterMap_filter]
    refine List.filterMap_congr fun l _ => ?_
    cases number? l <;> rfl
  rw [ask_eq_charge, ask_eq_charge, hcharges]

/-! ## The account -/

/-- The answers since the last reset, the first one first, after an act
that finds these buckets. -/
def answering (b : Buckets) (answered : List (Check × Verdict)) : Act → List (Check × Verdict)
  | .check c => answered ++ [(c, (b.ask c).1)]
  | .reset => []

/-- A limiter after a run, with the answers that it has given since the
last reset. -/
def ledger (acts : List Act) : Buckets × List (Check × Verdict) :=
  acts.foldl (fun l act => (l.1.perform act, answering l.1 l.2 act)) ([], [])

/-- The checks since the last reset, with their verdicts. -/
def answered (acts : List Act) : List (Check × Verdict) := (ledger acts).2

/-- How many checks passed an allowance. -/
def timesPassed (t : Allowance) (answers : List (Check × Verdict)) : Nat :=
  answers.countP fun p => t ∈ p.1.passed p.2

theorem ledger_concat (acts : List Act) (act : Act) :
    ledger (acts ++ [act]) =
      ((ledger acts).1.perform act, answering (ledger acts).1 (ledger acts).2 act) := by
  rw [ledger, List.foldl_append]
  rfl

theorem ledger_fst (acts : List Act) : (ledger acts).1 = after [] acts := by
  induction acts using List.reverseRecOn with
  | nil => rfl
  | append_singleton acts act ih => rw [ledger_concat, ih, after, after, List.foldl_concat]

theorem after_concat (b : Buckets) (acts : List Act) (act : Act) :
    b.after (acts ++ [act]) = (b.after acts).perform act := List.foldl_concat ..

theorem answered_concat (acts : List Act) (act : Act) :
    answered (acts ++ [act]) = answering (after [] acts) (answered acts) act := by
  rw [answered, ledger_concat, ledger_fst]
  rfl

/-- **What is asked of a run**: no check lists a limit twice, an allowance
always comes with the same number, and no two of them share a bucket. -/
structure Regular (acts : List Act) : Prop where
  nodup : ∀ c, .check c ∈ acts → c.allowances.Nodup
  number_eq : ∀ e ∈ charged acts, ∀ e' ∈ charged acts, e.1 = e'.1 → e.2 = e'.2
  own : OwnBuckets (allowances acts)

/-- What tells the limits of one client under one scope apart comes once in
a check. -/
theorem Check.nodup_map {key : Allowance → String} (h : c.allowances.Nodup)
    (hkey : ∀ t t' : Allowance, t.scope = t'.scope → t.client = t'.client → key t = key t' →
      t = t') :
    (c.charges.map fun e => key e.1).Nodup := by
  have hmap : (c.charges.map fun e => key e.1) = c.allowances.map key := by
    rw [Check.allowances, List.map_map]
    rfl
  rw [hmap]
  refine (List.nodup_map_iff_inj_on h).2 fun t ht t' ht' heq => ?_
  obtain ⟨hscope, hclient⟩ := scope_client_of_mem ht
  obtain ⟨hscope', hclient'⟩ := scope_client_of_mem ht'
  exact hkey t t' (hscope.trans hscope'.symm) (hclient.trans hclient'.symm) heq

theorem Check.nodup_limits (h : c.allowances.Nodup) : (c.charges.map (·.1.limit)).Nodup :=
  Check.nodup_map h fun _ _ => Allowance.ext

theorem Check.nodup_buckets (h : c.allowances.Nodup) : (c.charges.map (·.1.bucket)).Nodup :=
  Check.nodup_map h fun _ _ => Allowance.limit_eq_of_bucket_eq

/-- A check that another one is made apart from: they share no allowance. -/
def Check.Apart (c c' : Check) : Prop := ∀ t ∈ c'.allowances, t ∉ c.allowances

instance (c c' : Check) : Decidable (c.Apart c') := by
  unfold Check.Apart
  infer_instance

section

variable {run before rest : List Act} (hreg : Regular run)
include hreg

/-- **One check of a run** spends what its verdict says. -/
theorem Regular.left_ask (hc : .check c ∈ run) (he : e ∈ charged run) (b : Buckets) :
    (b.ask c).2.left e + (if e.1 ∈ c.passed (b.ask c).1 then 1 else 0) = b.left e := by
  have hown : ∀ d ∈ c.charges, d.1.bucket = e.1.bucket → d = e := by
    intro d hd hbucket
    have hd' : d ∈ charged run := mem_charged hc hd
    have hfst : d.1 = e.1 :=
      hreg.own d.1 (List.mem_map_of_mem hd') e.1 (List.mem_map_of_mem he) hbucket
    exact Prod.ext hfst (hreg.number_eq d hd' e he hfst)
  rw [ask_eq_charge]
  exact left_charge (Check.nodup_limits (hreg.nodup c hc)) hown

/-- **The account is kept by any number of acts**: what is left of an
allowance and the checks that passed it make up its number. -/
theorem Regular.left_add_timesPassed (hrun : run = before ++ rest) (he : e ∈ charged run) :
    (after [] before).left e + timesPassed e.1 (answered before) = e.2 := by
  induction before using List.reverseRecOn generalizing rest with
  | nil => rfl
  | append_singleton before act ih =>
    have hact : act ∈ run := by simp [hrun]
    have hsplit : run = before ++ act :: rest := by simp [hrun]
    have hbefore := ih hsplit
    rw [after_concat, answered_concat]
    cases act with
    | reset => rfl
    | check c =>
      have hspent := hreg.left_ask hact he (after [] before)
      rw [perform, answering, timesPassed, List.countP_append, List.countP_singleton, ← hbefore,
        ← hspent, timesPassed]
      simp only [decide_eq_true_eq]
      omega

/-- **The verdict of a check of a run.** -/
theorem Regular.ask_verdict (hc : .check c ∈ run) (b : Buckets) :
    (b.ask c).1 =
      match c.charges.find? fun e => b.left e = 0 with
      | none => .admitted
      | some e => .exceeded e.1.limit := by
  rw [ask_eq_charge]
  exact charge_verdict (Check.nodup_buckets (hreg.nodup c hc))

/-- A check is admitted exactly if all that it charges has a token left. -/
theorem Regular.ask_eq_admitted_iff (hc : .check c ∈ run) (b : Buckets) :
    (b.ask c).1 = .admitted ↔ ∀ e ∈ c.charges, 0 < b.left e := by
  rw [hreg.ask_verdict hc]
  constructor
  · intro h e he
    split at h
    next hnone =>
      have hleft := List.find?_eq_none.1 hnone e he
      simp only [decide_eq_true_eq] at hleft
      omega
    next => cases h
  · intro h
    have hnone : (c.charges.find? fun e => b.left e = 0) = none := by
      refine List.find?_eq_none.2 fun e he => ?_
      have hpos := h e he
      simp only [decide_eq_true_eq]
      omega
    rw [hnone]

/-- **As long as a check would be admitted, it has been**, each time since
the last reset. -/
theorem Regular.admitted_of_left_pos (hrun : run = before ++ rest) (hc : .check c ∈ run)
    (hpos : ∀ e ∈ c.charges, 0 < (after [] before).left e) :
    ∀ p ∈ answered before, p.1 = c → p.2 = .admitted := by
  induction before using List.reverseRecOn generalizing rest with
  | nil => exact fun p hp => absurd hp List.not_mem_nil
  | append_singleton before act ih =>
    rw [answered_concat]
    rw [after_concat] at hpos
    cases act with
    | reset => exact fun p hp => absurd hp List.not_mem_nil
    | check c' =>
      have hpos' : ∀ e ∈ c.charges, 0 < (after [] before).left e := by
        intro e he
        have hle := left_charge_le (after [] before) c'.charges e
        rw [← ask_eq_charge] at hle
        exact Nat.lt_of_lt_of_le (hpos e he) hle
      intro p hp hpc
      rcases List.mem_append.1 hp with hp | hp
      · have hsplit : run = before ++ .check c' :: rest := by simp [hrun]
        exact ih hsplit hpos' p hp hpc
      · obtain rfl := List.mem_singleton.1 hp
        obtain rfl : c' = c := hpc
        exact (hreg.ask_eq_admitted_iff hc _).2 hpos'

/-- **The first ones are admitted.** Where since the last reset nothing was
asked but `c` and checks apart from it, the next `c` is admitted exactly if
it has been made fewer times than the least of its numbers says. -/
theorem Regular.admitted_iff (hrun : run = before ++ .check c :: rest)
    (halone : ∀ p ∈ answered before, p.1 = c ∨ c.Apart p.1) :
    ((after [] before).ask c).1 = .admitted ↔
      ∀ n, (c.charges.map (·.2)).min? = some n → (answered before).countP (·.1 = c) < n := by
  have hc : .check c ∈ run := by simp [hrun]
  have hleast : (∀ n, (c.charges.map (·.2)).min? = some n →
      (answered before).countP (·.1 = c) < n) ↔
        ∀ e ∈ c.charges, (answered before).countP (·.1 = c) < e.2 := by
    constructor
    · intro h e he
      have hmem : e.2 ∈ c.charges.map (·.2) := List.mem_map_of_mem he
      obtain ⟨n, hn⟩ := Option.isSome_iff_exists.1 (List.isSome_min?_of_mem hmem)
      exact Nat.lt_of_lt_of_le (h n hn) ((List.min?_eq_some_iff.1 hn).2 _ hmem)
    · intro h n hn
      obtain ⟨e, he, rfl⟩ := List.mem_map.1 (List.min?_eq_some_iff.1 hn).1
      exact h e he
  -- no other check has passed what `c` charges
  have hpassed : ∀ e ∈ c.charges,
      timesPassed e.1 (answered before) ≤ (answered before).countP (·.1 = c) := by
    intro e he
    refine List.countP_mono_left fun p hp hmem => ?_
    rw [decide_eq_true_eq] at hmem ⊢
    have hlisted : e.1 ∈ p.1.allowances := mem_of_mem_passed hmem
    exact (halone p hp).resolve_right fun h => h e.1 hlisted (Check.mem_allowances_of_mem he)
  rw [hreg.ask_eq_admitted_iff hc, hleast]
  constructor
  · intro hpos e he
    have hall := hreg.admitted_of_left_pos hrun hc hpos
    have heq : timesPassed e.1 (answered before) = (answered before).countP (·.1 = c) := by
      refine Nat.le_antisymm (hpassed e he) (List.countP_mono_left fun p hp hpc => ?_)
      rw [decide_eq_true_eq] at hpc ⊢
      rw [hall p hp hpc, hpc]
      exact Check.mem_allowances_of_mem he
    have hsum := hreg.left_add_timesPassed hrun (mem_charged hc he)
    have hleft := hpos e he
    omega
  · intro hlt e he
    have hsum := hreg.left_add_timesPassed hrun (mem_charged hc he)
    have hle := hpassed e he
    have hnumber := hlt e he
    omega

end

/-- **The account of a limiter.** In every run that starts with no buckets
and is regular:

- after every step, what is left of an allowance and the checks since the
  last reset that passed it make up its number;
- a check is rejected by the first of its limits that has no token left,
  and is admitted if there is none;
- limits without a number may be left out of any check;
- where since the last reset nothing was asked but one check and checks
  apart from it, that check is admitted as many times as the least of its
  numbers says, and then no more. -/
theorem accounting {run : List Act} (hreg : Regular run) :
    (∀ before rest, run = before ++ rest → ∀ e ∈ charged run,
      (after [] before).left e + timesPassed e.1 (answered before) = e.2) ∧
    (∀ before c rest, run = before ++ .check c :: rest →
      ((after [] before).ask c).1 =
        match c.charges.find? fun e => (after [] before).left e = 0 with
        | none => .admitted
        | some e => .exceeded e.1.limit) ∧
    (∀ (b : Buckets) (c : Check), b.ask c.numbered = b.ask c) ∧
    ∀ before c rest, run = before ++ .check c :: rest →
      (∀ p ∈ answered before, p.1 = c ∨ c.Apart p.1) →
      (((after [] before).ask c).1 = .admitted ↔
        ∀ n, (c.charges.map (·.2)).min? = some n → (answered before).countP (·.1 = c) < n) := by
  refine ⟨fun before rest hrun e he => hreg.left_add_timesPassed hrun he,
    fun before c rest hrun => ?_, ask_numbered, fun before c rest hrun => hreg.admitted_iff hrun⟩
  have hc : .check c ∈ run := by simp [hrun]
  exact hreg.ask_verdict hc _

/-- The limits of a plan: three requests a week, and two a day. -/
def weekAndDay (client : String) : Check :=
  ⟨"gold", client, [⟨"week", "3/1week"⟩, ⟨"burst", "unlimited"⟩, ⟨"day", "2/1day"⟩]⟩

/-- **A check that is rejected is paid for.** The third check of one client
finds no token for the day, and has taken the last one for the week. The
other client is admitted all the same. -/
theorem week_spent_by_rejected :
    let alice := Act.check (weekAndDay "alice")
    let bob := Act.check (weekAndDay "bob")
    let run := [alice, .reset, alice, bob, alice, alice, bob]
    let week : Allowance := ⟨"gold", "alice", "week"⟩
    Regular run ∧ timesPassed week (answered run) = 3 ∧ (after [] run).left (week, 3) = 0 ∧
      ((after [] (run.take 5)).ask (weekAndDay "alice")).1 = .exceeded "day" ∧
      ((after [] (run.take 6)).ask (weekAndDay "bob")).1 = .admitted := by
  intro alice bob run week
  have hnodup : ∀ c ∈ [weekAndDay "alice", weekAndDay "bob"], c.allowances.Nodup := by
    decide +kernel
  have hreg : Regular run := by
    refine ⟨fun c hc => hnodup c ?_, by decide +kernel, by decide +kernel⟩
    simp only [run, alice, bob, List.mem_cons, Act.check.injEq, reduceCtorEq, List.not_mem_nil,
      or_false, false_or] at hc ⊢
    tauto
  obtain ⟨haccount, hverdict, -, hfirst⟩ := accounting hreg
  have hpassed : timesPassed week (answered run) = 3 := by decide +kernel
  have hweek : (after [] run).left (week, 3) + timesPassed week (answered run) = 3 :=
    haccount run [] (List.append_nil run).symm (week, 3) (by decide +kernel)
  refine ⟨hreg, hpassed, by omega, ?_, ?_⟩
  · rw [hverdict (run.take 5) (weekAndDay "alice") (run.drop 6) rfl]
    decide +kernel
  · refine (hfirst (run.take 6) (weekAndDay "bob") [] rfl ?_).2 ?_
    · decide +kernel
    · decide +kernel

end Buckets

end ApiGateway
