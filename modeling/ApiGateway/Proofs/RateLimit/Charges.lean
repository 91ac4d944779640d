import ApiGateway.RateLimit.Buckets
import ApiGateway.Proofs.Text.Cutting
/-!
# Rate limits — what a check charges

A limit of a plan is an allowance for each client: it has a scope, a
client and a name, and a bucket under these three. What a check asks for
is the list of the allowances whose limits have a number, with their
numbers (`Check.charges`), and the check is a walk over this list and
nothing else (`ask_eq_charge`). A walk writes to no bucket but those that
are charged (`get?_charge_of_ne`).

Two allowances may have one bucket, since the three names are joined with
colons and may hold colons. Within one check they do not
(`Allowance.limit_eq_of_bucket_eq`).
-/

namespace ApiGateway

namespace Buckets

/-- A limit as one client has it under one scope. -/
@[ext] structure Allowance where
  scope : String
  client : String
  limit : String
  deriving DecidableEq, Repr

/-- The limits that a client has to pass under a scope. -/
structure Check where
  scope : String
  client : String
  limits : List RateLimit
  deriving DecidableEq, Repr

/-- The bucket of an allowance. -/
def Allowance.bucket (t : Allowance) : String := bucketName t.scope t.client t.limit

/-- The number of a limit that has one: it is neither unlimited nor
without a valid quota. -/
def number? (l : RateLimit) : Option Nat :=
  match Quota.parse? l.value with
  | some (.limited n _) => some n
  | _ => none

namespace Check

variable {c : Check} {t : Allowance}

/-- What a check charges, and how much each can hold. -/
def charges (c : Check) : List (Allowance × Nat) :=
  c.limits.filterMap fun l => (number? l).map fun n => (⟨c.scope, c.client, l.name⟩, n)

/-- The allowances that a check charges, in its order. -/
def allowances (c : Check) : List Allowance := c.charges.map (·.1)

/-- A check charges nothing but its own client under its own scope. -/
theorem scope_client_of_mem (h : t ∈ c.allowances) : t.scope = c.scope ∧ t.client = c.client := by
  obtain ⟨e, he, rfl⟩ := List.mem_map.1 h
  obtain ⟨l, -, hl⟩ := List.mem_filterMap.1 he
  obtain ⟨n, -, rfl⟩ := Option.map_eq_some_iff.1 hl
  exact ⟨rfl, rfl⟩

theorem mem_allowances_of_mem {e : Allowance × Nat} (h : e ∈ c.charges) : e.1 ∈ c.allowances :=
  List.mem_map_of_mem h

end Check

/-! ## Buckets that allowances share -/

namespace Allowance

variable {t t' : Allowance}

/-- Of one client under one scope, limits of different names have
different buckets. -/
theorem limit_eq_of_bucket_eq (hscope : t.scope = t'.scope) (hclient : t.client = t'.client)
    (h : t.bucket = t'.bucket) : t = t' := by
  have hlist := congrArg String.toList h
  simp only [bucket, bucketName, hscope, hclient, String.toList_append,
    List.append_cancel_left_eq] at hlist
  exact Allowance.ext hscope hclient (String.toList_inj.1 hlist)

end Allowance

/-! ## A check as a walk over its charges -/

variable {b b' : Buckets} {k : String} {e : Allowance × Nat} {es : List (Allowance × Nat)}

/-- What is left of what is charged. -/
def left (b : Buckets) (e : Allowance × Nat) : Nat := b.tokens e.1.bucket e.2

/-- The buckets with one token less in that of `e`, if it has one. -/
def spend (b : Buckets) (e : Allowance × Nat) : Buckets := (b.take e.1.bucket e.2).2

/-- One token taken for each charge, up to the first that has none. -/
def charge (b : Buckets) : List (Allowance × Nat) → Verdict × Buckets
  | [] => (.admitted, b)
  | e :: es => if 0 < b.left e then charge (b.spend e) es else (.exceeded e.1.limit, b.spend e)

/-- What becomes of a check. -/
def ask (b : Buckets) (c : Check) : Verdict × Buckets := b.check c.scope c.client c.limits

/-- A limit without a number is passed over. -/
theorem check_cons_of_none {l : RateLimit} (h : number? l = none) (b : Buckets)
    (scope client : String) (limits : List RateLimit) :
    b.check scope client (l :: limits) = b.check scope client limits := by
  rw [check]
  unfold number? at h
  split
  next n period hq => rw [hq] at h; cases h
  next => rfl

/-- A limit with a number is charged. -/
theorem check_cons_of_some {l : RateLimit} {n : Nat} (h : number? l = some n) (b : Buckets)
    (scope client : String) (limits : List RateLimit) :
    let e : Allowance × Nat := (⟨scope, client, l.name⟩, n)
    b.check scope client (l :: limits) =
      if 0 < b.left e then (b.spend e).check scope client limits
      else (.exceeded l.name, b.spend e) := by
  intro e
  have htake : b.take (bucketName scope client l.name) n = (decide (0 < b.left e), b.spend e) := rfl
  rw [check]
  unfold number? at h
  split
  next m period hq =>
    rw [hq] at h
    cases h
    rw [htake]
    by_cases hleft : 0 < b.left e
    · rw [decide_eq_true hleft, if_pos hleft]
    · rw [decide_eq_false hleft, if_neg hleft]
  next hq =>
    split at h
    next m period hm => exact absurd hm (hq m period)
    next => cases h

/-- **A check is a walk over what it charges.** -/
theorem ask_eq_charge (b : Buckets) (c : Check) : b.ask c = b.charge c.charges := by
  obtain ⟨scope, client, limits⟩ := c
  induction limits generalizing b with
  | nil => rfl
  | cons l limits ih =>
    rw [ask, Check.charges, List.filterMap_cons]
    cases hl : number? l with
    | none =>
      rw [check_cons_of_none hl]
      exact ih b
    | some n =>
      rw [check_cons_of_some hl, Option.map_some, charge]
      exact if_congr Iff.rfl (ih _) rfl

theorem left_congr (h : OrderedMap.get? b e.1.bucket = OrderedMap.get? b' e.1.bucket) :
    b.left e = b'.left e := by
  rw [left, left, tokens, tokens, h]

theorem get?_spend_self (b : Buckets) (e : Allowance × Nat) :
    OrderedMap.get? (b.spend e) e.1.bucket = some (b.left e - 1) :=
  OrderedMap.get?_insert_self b e.1.bucket _

theorem get?_spend_of_ne (h : e.1.bucket ≠ k) :
    OrderedMap.get? (b.spend e) k = OrderedMap.get? b k :=
  OrderedMap.get?_insert_of_ne b _ h

theorem left_le (b : Buckets) (e : Allowance × Nat) : b.left e ≤ e.2 := by
  unfold left tokens
  split
  · exact Nat.min_le_right _ _
  · exact Nat.le_refl _

theorem left_spend_self (b : Buckets) (e : Allowance × Nat) :
    (b.spend e).left e = b.left e - 1 := by
  have hle := left_le b e
  rw [left, tokens, get?_spend_self]
  exact Nat.min_eq_left (Nat.le_trans (Nat.sub_le _ _) hle)

/-- **A walk writes to no other bucket.** -/
theorem get?_charge_of_ne (h : ∀ e ∈ es, e.1.bucket ≠ k) :
    OrderedMap.get? (b.charge es).2 k = OrderedMap.get? b k := by
  induction es generalizing b with
  | nil => rfl
  | cons e es ih =>
    have hspend : OrderedMap.get? (b.spend e) k = OrderedMap.get? b k :=
      get?_spend_of_ne (h e List.mem_cons_self)
    rw [charge]
    split
    · rw [ih fun d hd => h d (List.mem_cons_of_mem e hd), hspend]
    · exact hspend

/-! ## Runs -/

/-- What happens to a limiter. -/
inductive Act where
  | check (c : Check)
  /-- Every bucket is forgotten. -/
  | reset
  deriving DecidableEq, Repr

/-- The buckets after an act. -/
def perform (b : Buckets) : Act → Buckets
  | .check c => (b.ask c).2
  | .reset => []

/-- The buckets after a run. -/
def after (b : Buckets) (acts : List Act) : Buckets := acts.foldl perform b

/-- What a run charges. -/
def charged (acts : List Act) : List (Allowance × Nat) :=
  acts.flatMap fun
    | .check c => c.charges
    | .reset => []

/-- The allowances that a run charges. -/
def allowances (acts : List Act) : List Allowance := (charged acts).map (·.1)

/-- No two of these allowances have one bucket. -/
def OwnBuckets (ts : List Allowance) : Prop :=
  ∀ t ∈ ts, ∀ t' ∈ ts, t.bucket = t'.bucket → t = t'

instance (ts : List Allowance) : Decidable (OwnBuckets ts) := by
  unfold OwnBuckets
  infer_instance

theorem allowances_append (acts acts' : List Act) :
    allowances (acts ++ acts') = allowances acts ++ allowances acts' := by
  rw [allowances, charged, List.flatMap_append, List.map_append]
  rfl

theorem mem_charged {acts : List Act} {c : Check} (hc : .check c ∈ acts)
    (he : e ∈ c.charges) : e ∈ charged acts :=
  List.mem_flatMap.2 ⟨_, hc, he⟩

theorem mem_allowances {acts : List Act} {c : Check} {t : Allowance} (hc : .check c ∈ acts)
    (ht : t ∈ c.allowances) : t ∈ allowances acts := by
  obtain ⟨e, he, rfl⟩ := List.mem_map.1 ht
  exact List.mem_map_of_mem (mem_charged hc he)

end Buckets

end ApiGateway
