import ApiGateway.Proofs.Text.Cutting
import ApiGateway.RateLimit.Quota
import Mathlib
/-!
# Rate limits — the texts that are quotas

A quota is read by cutting, trimming and counting; here it is said what
may be written. A count is a number with an optional plus in front
(`IsCount`), and a period a number of units, which may be left out, and the
name of a unit (`IsPeriod`). Numbers are what their digits denote by their
places, of any length, and the bounds are on the numbers: a count that is
too great, or seconds that are, make no quota, and nothing is counted
modulo a bound.

That reading gives just this is said for the parts
(`Decimal.count?_eq_some_iff`, `period?_eq_some_iff`) and then for all
texts (`grammar_exact`). The part that is not obvious is where the number
of units ends: it is the whole run of digits, and no other cut leaves the
name of a unit, since no name has a digit.
-/

namespace ApiGateway

/-! ## Letters and blanks -/

namespace Text

variable {s : List Char} {c d : Char}

/-- What is not blank stays when a text is trimmed. -/
theorem mem_trim (h : c ∈ s) (hc : isBlank c = false) : c ∈ trim s := by
  have hkeep : ∀ {t : List Char}, c ∈ t → c ∈ t.dropWhile isBlank := by
    intro t ht
    rw [← List.takeWhile_append_dropWhile (p := isBlank) (l := t)] at ht
    refine (List.mem_append.1 ht).resolve_left fun hblank => ?_
    rw [List.mem_takeWhile_imp hblank] at hc
    cases hc
  rw [trim, trimEnd, trimStart, List.mem_reverse]
  exact hkeep (List.mem_reverse.2 (hkeep h))

theorem isBlank_of_isDigit (h : c.isDigit = true) : isBlank c = false := by
  have hrange : 48 ≤ c.toNat ∧ c.toNat ≤ 57 := by
    simpa [Char.isDigit, UInt32.le_iff_toNat_le] using h
  simp only [isBlank, Bool.or_eq_false_iff, Bool.and_eq_false_imp, beq_eq_false_iff_ne,
    decide_eq_true_eq, decide_eq_false_iff_not]
  omega

/-- A letter that becomes a small one was that letter, in either case. -/
theorem toLower_eq_iff (hd : d.isLower = true) : c.toLower = d ↔ c = d ∨ c = d.toUpper := by
  constructor
  · rintro rfl
    by_cases hc : c.isUpper
    · have hsmall : ¬ c.isLower := fun h => Char.not_isUpper_of_isLower h hc
      exact .inr (by rw [Char.toUpper_toLower_eq_toUpper, Char.toUpper_eq_of_not_isLower hsmall])
    · exact .inl (Char.toLower_eq_of_not_isUpper hc).symm
  · have hd : d.toLower = d := Char.toLower_eq_of_not_isUpper (Char.not_isUpper_of_isLower hd)
    rintro (rfl | rfl)
    · exact hd
    · rw [Char.toLower_toUpper_eq_toLower, hd]

/-- What a text becomes in small letters, told letter by letter. -/
theorem lower_eq_iff {t : List Char} (ht : ∀ d ∈ t, d.isLower = true) :
    lower s = t ↔ List.Forall₂ (fun c d => c = d ∨ c = d.toUpper) s t := by
  induction s generalizing t with
  | nil => cases t <;> simp [lower]
  | cons c s ih =>
    cases t with
    | nil => simp [lower]
    | cons d t =>
      have hrest := ih fun e he => ht e (List.mem_cons_of_mem d he)
      rw [List.forall₂_cons, ← toLower_eq_iff (ht d List.mem_cons_self), ← hrest]
      simp [lower]

end Text

/-! ## Numbers -/

namespace Decimal

variable {s digits rest : List Char} {n bound : Nat}

/-- **Decimal digits denote a number**, each by its place. -/
def Denotes (digits : List Char) (n : Nat) : Prop :=
  (∀ c ∈ digits, c.isDigit = true) ∧
    Nat.ofDigits 10 (digits.reverse.map fun c => c.toNat - '0'.toNat) = n

theorem ofDigits_eq (s : List Char) :
    ofDigits s = Nat.ofDigits 10 (s.reverse.map fun c => c.toNat - '0'.toNat) := by
  rw [ofDigits, Nat.ofDigits_eq_foldr, List.foldr_map, List.foldr_reverse]
  simp only [Nat.cast_id, Nat.add_comm]

theorem denotes_iff : Denotes digits n ↔ digits.all Char.isDigit = true ∧ ofDigits digits = n := by
  rw [Denotes, ofDigits_eq, List.all_eq_true]

/-- What is read of digits is what they denote, below a bound. -/
theorem ofDigits_below_iff :
    (if digits ≠ [] ∧ digits.all Char.isDigit ∧ ofDigits digits < bound then
      some (ofDigits digits) else none) = some n ↔
      digits ≠ [] ∧ Denotes digits n ∧ n < bound := by
  rw [denotes_iff]
  constructor
  · intro h
    obtain ⟨⟨hne, hall, hlt⟩, hn⟩ := Option.ite_none_right_eq_some.1 h
    obtain rfl := Option.some.inj hn
    exact ⟨hne, ⟨hall, rfl⟩, hlt⟩
  · rintro ⟨hne, ⟨hall, rfl⟩, hlt⟩
    exact if_pos ⟨hne, hall, hlt⟩

/-- A count without a plus in front is its digits. -/
theorem count?_of_ne (h : ∀ rest, s ≠ '+' :: rest) :
    count? bound s =
      if s ≠ [] ∧ s.all Char.isDigit ∧ ofDigits s < bound then some (ofDigits s) else none := by
  simp only [count?]

/-- **A count is read** if there are digits, with an optional plus in front,
that denote a number below the bound. -/
theorem count?_eq_some_iff : count? bound s = some n ↔
    ∃ digits, (s = digits ∨ s = '+' :: digits) ∧ digits ≠ [] ∧ Denotes digits n ∧ n < bound := by
  by_cases hs : ∃ rest, s = '+' :: rest
  · obtain ⟨rest, rfl⟩ := hs
    refine ofDigits_below_iff.trans ⟨fun h => ⟨rest, .inr rfl, h⟩, ?_⟩
    rintro ⟨digits, rfl | hs, h⟩
    · -- a plus is no digit, so that it cannot be the first of them
      exact absurd (h.2.1.1 '+' List.mem_cons_self) (by decide)
    · exact (List.cons.inj hs).2 ▸ h
  · rw [count?_of_ne fun rest h => hs ⟨rest, h⟩, ofDigits_below_iff]
    refine ⟨fun h => ⟨s, .inl rfl, h⟩, ?_⟩
    rintro ⟨digits, rfl | h, hdenotes⟩
    · exact hdenotes
    · exact absurd ⟨digits, h⟩ hs

/-- A run of digits ends where a text goes on with anything else. -/
theorem digitRun_append (hdigits : ∀ c ∈ digits, c.isDigit = true)
    (hrest : ∀ c ∈ rest.head?, c.isDigit = false) : digitRun (digits ++ rest) = (digits, rest) := by
  rw [digitRun, List.takeWhile_append_of_pos hdigits, List.dropWhile_append_of_pos hdigits]
  cases rest with
  | nil => simp
  | cons c rest =>
    have hc := hrest c rfl
    rw [List.takeWhile_cons_of_neg (by simp [hc]), List.dropWhile_cons_of_neg (by simp [hc]),
      List.append_nil]

end Decimal

namespace Quota

variable {s t : List Char} {c : Char} {n p : Nat} {name : String}

/-! ## Counts and periods -/

/-- **How a count is written**: at least one digit, and an optional plus in
front. -/
def IsCount (s : List Char) (n : Nat) : Prop :=
  ∃ digits, (s = digits ∨ s = '+' :: digits) ∧ digits ≠ [] ∧ Decimal.Denotes digits n ∧
    n < Nat.pow 2 32

/-- A number of units, which is one where it is left out. -/
def IsAmount (digits : List Char) (n : Nat) : Prop :=
  (digits = [] ∧ n = 1 ∨ digits ≠ [] ∧ Decimal.Denotes digits n) ∧ 0 < n ∧ n < Nat.pow 2 64

/-- **How a period is written**, in small letters: a number of units and the
name of the unit. -/
def IsPeriod (s : List Char) (p : Nat) : Prop :=
  ∃ digits unit amount names seconds, s = digits ++ unit ∧ IsAmount digits amount ∧
    (names, seconds) ∈ units ∧ String.ofList (Text.trim unit) ∈ names ∧
    amount * seconds < Nat.pow 2 64 ∧ p = amount * seconds

/-- A unit is found by any of its names. -/
theorem unitSeconds?_eq_some_iff :
    unitSeconds? name = some n ↔ ∃ names, (names, n) ∈ units ∧ name ∈ names := by
  constructor
  · intro h
    obtain ⟨u, hu, rfl⟩ := Option.map_eq_some_iff.1 h
    refine ⟨u.1, List.mem_of_find?_eq_some hu, ?_⟩
    simpa using List.find?_some hu
  · rintro ⟨names, hunit, hname⟩
    have hall : ∀ u ∈ units, ∀ name ∈ u.1, unitSeconds? name = some u.2 := by decide
    exact hall _ hunit name hname

/-- No name of a unit holds a digit. -/
theorem not_isDigit_of_unitSeconds? {unit : List Char} (hc : c ∈ unit)
    (h : unitSeconds? (String.ofList (Text.trim unit)) = some n) : c.isDigit = false := by
  -- stated with `all`, since a statement on all characters would be decided one by one
  have hall : (units.all fun u =>
      u.1.all fun name => name.toList.all fun c => !c.isDigit) = true := by decide
  simp only [List.all_eq_true, Bool.not_eq_true'] at hall
  obtain ⟨names, hunit, hname⟩ := unitSeconds?_eq_some_iff.1 h
  by_contra hdigit
  have hdigit : c.isDigit = true := by simpa using hdigit
  have hin : c ∈ Text.trim unit := Text.mem_trim hc (Text.isBlank_of_isDigit hdigit)
  simp [hall _ hunit _ hname c (by simpa using hin)] at hdigit

/-- **A period is read** if it is written as one, and then it is what was
written. -/
theorem period?_eq_some_iff : period? s = some p ↔ IsPeriod (Text.lower (Text.trim s)) p := by
  constructor
  · intro h
    simp only [period?] at h
    split at h
    · cases h
    · rename_i seconds hseconds
      obtain ⟨⟨hpos, hlt, hprod⟩, hp⟩ := Option.ite_none_right_eq_some.1 h
      obtain ⟨names, hunit, hname⟩ := unitSeconds?_eq_some_iff.1 hseconds
      refine ⟨_, _, _, names, seconds, (List.takeWhile_append_dropWhile).symm, ⟨?_, hpos, hlt⟩,
        hunit, hname, hprod, (Option.some.inj hp).symm⟩
      split
      · rename_i hnil
        exact .inl ⟨hnil, rfl⟩
      · rename_i hne
        exact .inr ⟨hne, fun c hc => List.mem_takeWhile_imp hc, (Decimal.ofDigits_eq _).symm⟩
  · rintro ⟨digits, unit, amount, names, seconds, hs, ⟨hamount, hpos, hbound⟩, hunit, hname, hlt,
      rfl⟩
    have hseconds := unitSeconds?_eq_some_iff.2 ⟨names, hunit, hname⟩
    have hdigits : ∀ c ∈ digits, c.isDigit = true := by
      rcases hamount with ⟨rfl, -⟩ | ⟨-, hdenotes⟩
      · simp
      · exact hdenotes.1
    have hvalue : (if digits = [] then 1 else Decimal.ofDigits digits) = amount := by
      rcases hamount with ⟨rfl, rfl⟩ | ⟨hne, hdenotes⟩
      · rfl
      · rw [if_neg hne, (Decimal.denotes_iff.1 hdenotes).2]
    -- the name has no digit, so that the run of digits is the number and no more
    have hrun : Decimal.digitRun (Text.lower (Text.trim s)) = (digits, unit) := by
      rw [hs]
      exact Decimal.digitRun_append hdigits fun c hc =>
        not_isDigit_of_unitSeconds? (List.mem_of_head? hc) hseconds
    simp only [period?, hrun, hseconds, hvalue]
    exact if_pos ⟨hpos, hbound, hlt⟩

/-- A period lasts a second at least. -/
theorem IsPeriod.pos (h : IsPeriod s p) : 0 < p := by
  obtain ⟨digits, unit, amount, names, seconds, -, ⟨-, hpos, -⟩, hunit, -, -, rfl⟩ := h
  have hall : ∀ u ∈ units, 0 < u.2 := by decide
  exact Nat.mul_pos hpos (hall _ hunit)

/-! ## Quotas -/

/-- **How a quota without an end is written**: one word, each of its letters
in either case. -/
def IsUnlimited (s : List Char) : Prop :=
  List.Forall₂ (fun c d => c = d ∨ c = d.toUpper) s "unlimited".toList

/-- **How any other quota is written**: a count and a period, with blanks
around them and the first slash between them. -/
def IsLimited (s : List Char) (n p : Nat) : Prop :=
  ∃ count period, s = count ++ '/' :: period ∧ '/' ∉ count ∧ IsCount (Text.trim count) n ∧
    IsPeriod (Text.lower (Text.trim period)) p

theorem lower_eq_unlimited_iff : Text.lower s = "unlimited".toList ↔ IsUnlimited s :=
  Text.lower_eq_iff (List.all_eq_true.1 (by decide))

/-- Nothing is written both ways, for the one has a slash. -/
theorem IsLimited.not_isUnlimited (h : IsLimited s n p) : ¬ IsUnlimited s := by
  obtain ⟨count, period, rfl, -⟩ := h
  intro hword
  have hslash : '/' ∈ "unlimited".toList := by
    rw [← lower_eq_unlimited_iff.2 hword]
    exact List.mem_map.2 ⟨'/', by simp, by decide⟩
  exact absurd hslash (by decide)

theorem parseTrimmed?_eq_unlimited_iff : parseTrimmed? s = some .unlimited ↔ IsUnlimited s := by
  rw [← lower_eq_unlimited_iff, parseTrimmed?]
  constructor
  · intro h
    by_contra hword
    rw [if_neg hword] at h
    repeat' split at h
    all_goals cases h
  · exact fun hword => if_pos hword

theorem parseTrimmed?_eq_limited_iff :
    parseTrimmed? s = some (.limited n p) ↔ IsLimited s n p := by
  constructor
  · intro h
    rw [parseTrimmed?] at h
    split at h
    · cases h
    · split at h
      · cases h
      · rename_i count period hcut
        obtain ⟨hs, hslash⟩ := Text.cutFirst_eq_some_iff.1 hcut
        split at h
        · rename_i hcount hperiod
          cases h
          exact ⟨count, period, hs, hslash, Decimal.count?_eq_some_iff.1 hcount,
            period?_eq_some_iff.1 hperiod⟩
        · cases h
  · intro h
    have hword : ¬ Text.lower s = "unlimited".toList :=
      fun hword => h.not_isUnlimited (lower_eq_unlimited_iff.1 hword)
    obtain ⟨count, period, hs, hslash, hcount, hperiod⟩ := h
    have hcut := Text.cutFirst_eq_some_iff.2 ⟨hs, hslash⟩
    have hn := Decimal.count?_eq_some_iff.2 hcount
    have hp := period?_eq_some_iff.2 hperiod
    simp only [parseTrimmed?, if_neg hword, hcut, hn, hp]

/-- **The quotas that there are.** A text without the blanks around it is
the word for no limit, or a count and a period that are both in bounds, or
no quota; and it is read as just that. No number wraps: the period is the
product as it stands, at least a second and below the bound. What is said of
a text that is no quota holds it without its blanks. -/
theorem grammar_exact (s : String) :
    (parse? s = some .unlimited ↔ IsUnlimited (Text.trim s.toList)) ∧
      (∀ n p, parse? s = some (.limited n p) ↔ IsLimited (Text.trim s.toList) n p) ∧
      (parse? s = none ↔
        ¬ IsUnlimited (Text.trim s.toList) ∧ ∀ n p, ¬ IsLimited (Text.trim s.toList) n p) ∧
      (∀ n p, parse? s = some (.limited n p) →
        n < Nat.pow 2 32 ∧ 1 ≤ p ∧ p < Nat.pow 2 64) ∧
      invalidMessage s =
        "invalid rate limit '" ++ String.ofList (Text.trim s.toList) ++ "'" := by
  have hunlimited : parse? s = some .unlimited ↔ IsUnlimited (Text.trim s.toList) :=
    parseTrimmed?_eq_unlimited_iff
  have hlimited : ∀ n p, parse? s = some (.limited n p) ↔ IsLimited (Text.trim s.toList) n p :=
    fun n p => parseTrimmed?_eq_limited_iff
  refine ⟨hunlimited, hlimited, ?_, ?_, rfl⟩
  · simp only [← hunlimited, ← hlimited]
    constructor
    · intro h
      simp [h]
    · rintro ⟨hno, hnone⟩
      cases hquota : parse? s with
      | none => rfl
      | some quota =>
        cases quota with
        | unlimited => exact absurd hquota hno
        | limited n p => exact absurd hquota (hnone n p)
  · intro n p h
    obtain ⟨count, period, -, -, ⟨_, -, -, -, hn⟩, hperiod⟩ := (hlimited n p).1 h
    have hp : 0 < p := hperiod.pos
    obtain ⟨_, _, _, _, _, -, -, -, -, hlt, rfl⟩ := hperiod
    exact ⟨hn, hp, hlt⟩

/-- Five requests in two hours, written with a plus, blanks and capitals. -/
theorem plus_five_per_two_hours :
    parse? " +5 /2 HOURS " = some (.limited 5 7200) ∧ 5 < Nat.pow 2 32 ∧ 1 ≤ 7200 ∧
      7200 < Nat.pow 2 64 := by
  have h : parse? " +5 /2 HOURS " = some (.limited 5 7200) := by decide +kernel
  exact ⟨h, (grammar_exact " +5 /2 HOURS ").2.2.2.1 5 7200 h⟩

end Quota

end ApiGateway
