import ApiGateway.Proofs.RateLimit.Charges
/-!
# Rate limits — whose tokens a check can spend

A check takes tokens of its own allowances only, and yet it may decide
over those of another: a check that stops at a limit without tokens spends
nothing of the limits that it lists behind. So what is left of an
allowance `x` can be felt where some check lists another allowance behind
`x`, and from there on again (`felt`). It is felt nowhere else: two
limiters that agree but for where `x` can be felt go on to agree there
after every act (`Agree.perform`), and so the checks of `x` alone may be
left out of a run without anything changing elsewhere (`isolated`). As a
check is made for one client under one scope, nothing is felt by another
client or in another plan.

All this is about allowances that have a bucket each.
-/

namespace ApiGateway

namespace Buckets

variable {b b' : Buckets} {ts S : List Allowance} {t x y : Allowance} {c : Check}

/-! ## Where spending can be felt -/

/-- What is listed behind the first of the allowances `S`. -/
def behind (S listed : List Allowance) : List Allowance := (listed.dropWhile (· ∉ S)).tail

/-- Where the spending of `x` can be felt after an act, if it could be
felt at `S` before. -/
def spread (x : Allowance) (S : List Allowance) : Act → List Allowance
  | .check c => S ++ behind S c.allowances
  | .reset => [x]

/-- Where the spending of `x` can be felt after a run: at `x` itself, and
at what a check since the last reset lists behind an allowance where it
could be felt. -/
def felt (x : Allowance) (acts : List Act) : List Allowance := acts.foldl (spread x) [x]

theorem behind_cons_of_mem {S listed : List Allowance} (h : t ∈ S) :
    behind S (t :: listed) = listed := by
  rw [behind, List.dropWhile_cons_of_neg (by simpa using h), List.tail_cons]

theorem behind_cons_of_not_mem {S listed : List Allowance} (h : t ∉ S) :
    behind S (t :: listed) = behind S listed := by
  rw [behind, List.dropWhile_cons_of_pos (by simpa using h), behind]

/-- Something is listed behind the allowances `S` only if one of them is
listed as well. -/
theorem exists_mem_of_mem_behind {listed : List Allowance} (h : t ∈ behind S listed) :
    t ∈ listed ∧ ∃ s ∈ S, s ∈ listed := by
  induction listed with
  | nil => exact absurd h List.not_mem_nil
  | cons a listed ih =>
    by_cases ha : a ∈ S
    · rw [behind_cons_of_mem ha] at h
      exact ⟨List.mem_cons_of_mem a h, a, ha, List.mem_cons_self⟩
    · rw [behind_cons_of_not_mem ha] at h
      obtain ⟨ht, s, hs, hlisted⟩ := ih h
      exact ⟨List.mem_cons_of_mem a ht, s, hs, List.mem_cons_of_mem a hlisted⟩

theorem mem_spread_self (h : x ∈ S) (act : Act) : x ∈ spread x S act := by
  cases act with
  | check c => exact List.mem_append_left _ h
  | reset => exact List.mem_cons_self

/-- **What one client spends under one scope is felt there only.** -/
theorem scope_client_of_mem_felt {acts : List Act} (h : t ∈ felt x acts) :
    t.scope = x.scope ∧ t.client = x.client := by
  have hrun : ∀ (acts : List Act) (S : List Allowance),
      (∀ s ∈ S, s.scope = x.scope ∧ s.client = x.client) →
      ∀ t ∈ acts.foldl (spread x) S, t.scope = x.scope ∧ t.client = x.client := by
    intro acts
    induction acts with
    | nil => exact fun S hS => hS
    | cons act acts ih =>
      intro S hS
      refine ih _ fun t ht => ?_
      cases act with
      | reset => rw [List.mem_singleton.1 ht]; exact ⟨rfl, rfl⟩
      | check c =>
        rcases List.mem_append.1 ht with ht | ht
        · exact hS t ht
        · obtain ⟨htc, s, hs, hsc⟩ := exists_mem_of_mem_behind ht
          obtain ⟨htscope, htclient⟩ := Check.scope_client_of_mem htc
          obtain ⟨hscope, hclient⟩ := Check.scope_client_of_mem hsc
          obtain ⟨hx, hx'⟩ := hS s hs
          exact ⟨by rw [htscope, ← hscope, hx], by rw [htclient, ← hclient, hx']⟩
  exact hrun acts [x] (fun s hs => by rw [List.mem_singleton.1 hs]; exact ⟨rfl, rfl⟩) t h

/-! ## Limiters that agree but for some allowances -/

/-- **A check spends nothing but what it charges.** -/
theorem get?_ask_of_not_mem (hown : OwnBuckets ts) (hc : ∀ t ∈ c.allowances, t ∈ ts)
    (ht : t ∈ ts) (hnot : t ∉ c.allowances) :
    OrderedMap.get? (b.ask c).2 t.bucket = OrderedMap.get? b t.bucket := by
  rw [ask_eq_charge]
  refine get?_charge_of_ne fun e he hbucket => hnot ?_
  have hmem := Check.mem_allowances_of_mem he
  rwa [hown e.1 (hc e.1 hmem) t ht hbucket] at hmem

/-- Two limiters agree on the allowances `ts`, but for those in `S`. -/
def Agree (ts S : List Allowance) (b b' : Buckets) : Prop :=
  ∀ t ∈ ts, t ∉ S → OrderedMap.get? b t.bucket = OrderedMap.get? b' t.bucket

/-- **A walk through limiters that agree** but for `S` leaves them in
agreement but for `S` and what is listed behind it; and if it meets none
of `S`, it ends alike. -/
theorem Agree.charge (hown : OwnBuckets ts) {es : List (Allowance × Nat)}
    (hes : ∀ e ∈ es, e.1 ∈ ts) (h : Agree ts S b b') :
    Agree ts (S ++ behind S (es.map (·.1))) (b.charge es).2 (b'.charge es).2 ∧
      ((∀ e ∈ es, e.1 ∉ S) → (b.charge es).1 = (b'.charge es).1) := by
  induction es generalizing b b' with
  | nil => exact ⟨fun t ht hnot => h t ht fun hmem => hnot (List.mem_append_left _ hmem), fun _ => rfl⟩
  | cons e es ih =>
    have he : e.1 ∈ ts := hes e List.mem_cons_self
    have hes' : ∀ d ∈ es, d.1 ∈ ts := fun d hd => hes d (List.mem_cons_of_mem e hd)
    by_cases hS : e.1 ∈ S
    · -- from here on the walks may part, and nothing else can be touched
      refine ⟨fun t ht hnot => ?_, fun hnone => absurd hS (hnone e List.mem_cons_self)⟩
      rw [List.map_cons, behind_cons_of_mem hS, List.mem_append, not_or] at hnot
      obtain ⟨htS, htes⟩ := hnot
      have hne : ∀ d ∈ e :: es, d.1.bucket ≠ t.bucket := by
        intro d hd hbucket
        have hdt : d.1 = t := hown d.1 (hes d hd) t ht hbucket
        rcases List.mem_cons.1 hd with rfl | hd
        · exact htS (hdt ▸ hS)
        · exact htes (hdt ▸ List.mem_map_of_mem hd)
      rw [get?_charge_of_ne hne, get?_charge_of_ne hne]
      exact h t ht htS
    · have hget := h e.1 he hS
      have hleft : b.left e = b'.left e := left_congr hget
      have hspend : Agree ts S (b.spend e) (b'.spend e) := by
        intro t ht htS
        by_cases hbucket : e.1.bucket = t.bucket
        · rw [← hbucket, get?_spend_self, get?_spend_self, hleft]
        · rw [get?_spend_of_ne hbucket, get?_spend_of_ne hbucket]
          exact h t ht htS
      rw [List.map_cons, behind_cons_of_not_mem hS, Buckets.charge, Buckets.charge, hleft]
      by_cases hpos : 0 < b'.left e
      · rw [if_pos hpos, if_pos hpos]
        obtain ⟨hagree, hverdict⟩ := ih hes' hspend
        exact ⟨hagree, fun hnone => hverdict fun d hd => hnone d (List.mem_cons_of_mem e hd)⟩
      · rw [if_neg hpos, if_neg hpos]
        exact ⟨fun t ht hnot => hspend t ht fun hmem => hnot (List.mem_append_left _ hmem),
          fun _ => rfl⟩

/-- **One act** that both limiters see. -/
theorem Agree.perform (hown : OwnBuckets ts) (x : Allowance) {act : Act}
    (hact : ∀ t ∈ allowances [act], t ∈ ts) (h : Agree ts S b b') :
    Agree ts (spread x S act) (b.perform act) (b'.perform act) := by
  cases act with
  | reset => exact fun _ _ _ => rfl
  | check c =>
    have hc : ∀ e ∈ c.charges, e.1 ∈ ts := fun e he =>
      hact e.1 (mem_allowances List.mem_cons_self (Check.mem_allowances_of_mem he))
    rw [Buckets.perform, Buckets.perform, ask_eq_charge, ask_eq_charge]
    exact (Agree.charge hown hc h).1

/-! ## Runs without the checks of one allowance -/

/-- A check charges nothing but `x`. -/
def Check.Concerns (c : Check) (x : Allowance) : Prop := ∀ t ∈ c.allowances, t = x

instance (c : Check) (x : Allowance) : Decidable (c.Concerns x) := by
  unfold Check.Concerns
  infer_instance

/-- What is left out of a run are checks that concern `x` only. -/
def LeavesOut (x : Allowance) (keep : Act → Bool) : Prop :=
  ∀ act, keep act = false → ∃ c, act = .check c ∧ c.Concerns x

/-- **Any number of acts**, of which the one limiter does not see the
checks of `x`. -/
theorem Agree.after (hown : OwnBuckets ts) {keep : Act → Bool} (hkeep : LeavesOut x keep)
    {acts : List Act} (hacts : ∀ t ∈ allowances acts, t ∈ ts) (hx : x ∈ S)
    (h : Agree ts S b b') :
    Agree ts (acts.foldl (spread x) S) (b.after acts) (b'.after (acts.filter keep)) := by
  induction acts generalizing b b' S with
  | nil => exact h
  | cons act acts ih =>
    rw [← List.singleton_append, allowances_append] at hacts
    have hact : ∀ t ∈ allowances [act], t ∈ ts := fun t ht => hacts t (List.mem_append_left _ ht)
    have hrest : ∀ t ∈ allowances acts, t ∈ ts := fun t ht => hacts t (List.mem_append_right _ ht)
    have hx' : x ∈ spread x S act := mem_spread_self hx act
    cases hk : keep act with
    | true =>
      rw [List.filter_cons_of_pos hk]
      exact ih hrest hx' (Agree.perform hown x hact h)
    | false =>
      obtain ⟨c, rfl, hc⟩ := hkeep act hk
      rw [List.filter_cons_of_neg (by simp [hk])]
      refine ih hrest hx' fun t ht hnot => ?_
      -- a check of `x` that is left out has written to the bucket of `x` at most
      have htS : t ∉ S := fun hmem => hnot (List.mem_append_left _ hmem)
      have htc : t ∉ c.allowances := fun hmem => htS (hc t hmem ▸ hx)
      have hcts : ∀ t ∈ c.allowances, t ∈ ts := fun t ht =>
        hact t (mem_allowances List.mem_cons_self ht)
      exact (get?_ask_of_not_mem hown hcts ht htc).trans (h t ht htS)

/-- **Allowances are isolated, but for what a check lists behind.** In
every run over allowances that have a bucket each:

- a check changes the bucket of no allowance that it does not charge;
- the checks that concern `x` only may be left out, all or some of them,
  and a check that concerns another allowance `y` only has the same verdict,
  unless the spending of `x` can be felt at `y` by then;
- it can be felt at no allowance of another client or another scope. -/
theorem isolated (b : Buckets) {run : List Act} (hown : OwnBuckets (allowances run))
    {x y : Allowance} {keep : Act → Bool} (hkeep : LeavesOut x keep) :
    ∀ before c rest, run = before ++ .check c :: rest →
      (∀ t ∈ allowances run, t ∉ c.allowances →
        OrderedMap.get? ((b.after before).ask c).2 t.bucket =
          OrderedMap.get? (b.after before) t.bucket) ∧
      (c.Concerns y → y ∉ felt x before →
        ((b.after before).ask c).1 = ((b.after (before.filter keep)).ask c).1) ∧
      (x.scope ≠ y.scope ∨ x.client ≠ y.client → y ∉ felt x before) := by
  rintro before c rest rfl
  have hc : ∀ t ∈ c.allowances, t ∈ allowances (before ++ .check c :: rest) := fun t ht =>
    mem_allowances (by simp) ht
  have hbefore : ∀ t ∈ allowances before, t ∈ allowances (before ++ .check c :: rest) := by
    intro t ht
    rw [allowances_append]
    exact List.mem_append_left _ ht
  refine ⟨fun t ht hnot => get?_ask_of_not_mem hown hc ht hnot, fun hy hfelt => ?_, fun hne hfelt => ?_⟩
  · have hself : Agree (allowances (before ++ .check c :: rest)) [x] b b := fun _ _ _ => rfl
    have hagree := hself.after hown hkeep hbefore List.mem_cons_self
    rw [ask_eq_charge, ask_eq_charge]
    refine (Agree.charge hown (fun e he => hc e.1 (Check.mem_allowances_of_mem he)) hagree).2 ?_
    intro e he
    rwa [hy e.1 (Check.mem_allowances_of_mem he)]
  · obtain ⟨hscope, hclient⟩ := scope_client_of_mem_felt hfelt
    exact hne.elim (fun h => h hscope.symm) fun h => h hclient.symm

/-- One request a day for a client. -/
def daily (client : String) : Check := ⟨"gold", client, [⟨"day", "1/1day"⟩]⟩

/-- **One client uses up its day, and another does not notice.** -/
theorem admitted_beside_exhausted :
    let alice := Act.check (daily "alice")
    let run := [alice, alice, .check (daily "bob")]
    OwnBuckets (allowances run) ∧
      ((after [] [alice]).ask (daily "alice")).1 = .exceeded "day" ∧
      ((after [] [alice, alice]).ask (daily "bob")).1 = .admitted := by
  intro alice run
  have hown : OwnBuckets (allowances run) := by decide +kernel
  have hkeep : LeavesOut ⟨"gold", "alice", "day"⟩ fun act => decide (act ≠ alice) := by
    intro act hact
    have halice : act = alice := by simpa using hact
    exact ⟨daily "alice", halice, by decide +kernel⟩
  have hbob : (daily "bob").Concerns ⟨"gold", "bob", "day"⟩ := by decide +kernel
  obtain ⟨-, hverdict, hapart⟩ :=
    isolated (y := ⟨"gold", "bob", "day"⟩) [] hown hkeep [alice, alice] (daily "bob") [] rfl
  refine ⟨hown, by decide +kernel, ?_⟩
  rw [hverdict hbob (hapart (Or.inr (by decide)))]
  decide +kernel

/-- **Where allowances are not isolated.** A request of a client that uses
up its day spares the week of the same client: the next check stops at the
day and takes no token for the week, which a request for the week alone
then finds. And the client `eu:app` of the plan `gold` has one bucket with
the client `app` of the plan `gold:eu`. -/
theorem spared_and_shared :
    (let day : Allowance := ⟨"gold", "app", "day"⟩
      let week : Allowance := ⟨"gold", "app", "week"⟩
      let forDay : Check := ⟨"gold", "app", [⟨"day", "1/1day"⟩]⟩
      let forBoth : Check := ⟨"gold", "app", [⟨"day", "1/1day"⟩, ⟨"week", "1/1week"⟩]⟩
      let forWeek : Check := ⟨"gold", "app", [⟨"week", "1/1week"⟩]⟩
      day ≠ week ∧ day.bucket ≠ week.bucket ∧ forDay.Concerns day ∧ forWeek.Concerns week ∧
        ((after [] [.check forDay, .check forBoth]).ask forWeek).1 = .admitted ∧
        ((after [] [.check forBoth]).ask forWeek).1 = .exceeded "week") ∧
    (let mine : Allowance := ⟨"peaks:1.0.0:gold:eu", "app", "default"⟩
      let theirs : Allowance := ⟨"peaks:1.0.0:gold", "eu:app", "default"⟩
      let forMine : Check := ⟨"peaks:1.0.0:gold:eu", "app", [⟨"default", "1/1day"⟩]⟩
      let forTheirs : Check := ⟨"peaks:1.0.0:gold", "eu:app", [⟨"default", "1/1day"⟩]⟩
      mine ≠ theirs ∧ forMine.Concerns mine ∧ forTheirs.Concerns theirs ∧
        ((after [] [.check forMine]).ask forTheirs).1 = .exceeded "default" ∧
        ((after [] []).ask forTheirs).1 = .admitted) := by
  constructor
  · decide +kernel
  · decide +kernel

end Buckets

end ApiGateway
