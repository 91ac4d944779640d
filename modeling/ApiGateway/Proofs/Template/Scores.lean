import ApiGateway.Proofs.Template.Scanning
import ApiGateway.Proofs.Text.Cutting
import Mathlib.Tactic.Linarith
/-!
# Templates — what the score tells

The score of a template adds up the positions of its pieces that have a
placeholder. Three things keep a template with a placeholder at the score
of one without any. The piece before the first slash is at position zero; a
placeholder with a slash in its name is in no piece; and the sum is counted
in 32 bits. Which templates add up to nothing can be seen from their text:
those in which no placeholder is `Counted` (`weight_ne_zero_iff`). A
template of not too many slashes is counted in full (`weight_lt`).
-/

namespace ApiGateway

namespace Template

variable {t : List Char} {ps : List (List Char)} {k : Nat}

/-- The sum of the positions of the pieces that have a placeholder. -/
def weight (t : List Char) : Nat := scoreFrom 0 (Text.pieces '/' t)

/-- A placeholder is counted that comes after a slash and has none between
its braces. -/
def Counted (t : List Char) : Prop :=
  ∃ before inside after, t = before ++ '\x7b' :: (inside ++ '\x7d' :: after) ∧
    '/' ∈ before ∧ '/' ∉ inside

/-! ## Placeholders in pieces -/

theorem hasPlaceholder_iff_isInfix :
    hasPlaceholder t = true ↔ ∃ inside, '\x7b' :: (inside ++ ['\x7d']) <:+: t := by
  rw [hasPlaceholder_iff, List.cons_sublist_iff]
  constructor
  · rintro ⟨front, back, rfl, hopen, hclose⟩
    obtain ⟨before, left, rfl⟩ := List.append_of_mem hopen
    obtain ⟨right, after, rfl⟩ := List.append_of_mem (List.singleton_sublist.1 hclose)
    exact ⟨left ++ right, before, after, by simp⟩
  · rintro ⟨inside, before, after, rfl⟩
    refine ⟨before ++ ['\x7b'], inside ++ '\x7d' :: after, by simp, by simp, ?_⟩
    exact List.singleton_sublist.2 (by simp)

/-- **Some piece has a placeholder** exactly if the text has one with no
slash between the braces. -/
theorem exists_piece_hasPlaceholder_iff :
    (∃ p ∈ Text.pieces '/' t, hasPlaceholder p = true) ↔
      ∃ inside, '/' ∉ inside ∧ '\x7b' :: (inside ++ ['\x7d']) <:+: t := by
  have hbraces : ∀ inside : List Char,
      '/' ∉ '\x7b' :: (inside ++ ['\x7d']) ↔ '/' ∉ inside := by simp
  constructor
  · rintro ⟨p, hp, hsome⟩
    obtain ⟨inside, hinside⟩ := hasPlaceholder_iff_isInfix.1 hsome
    obtain ⟨hslash, hinfix⟩ := Text.exists_isInfix_piece_iff.1 ⟨p, hp, hinside⟩
    exact ⟨inside, (hbraces inside).1 hslash, hinfix⟩
  · rintro ⟨inside, hslash, hinfix⟩
    obtain ⟨p, hp, hinside⟩ :=
      Text.exists_isInfix_piece_iff.2 ⟨(hbraces inside).2 hslash, hinfix⟩
    exact ⟨p, hp, hasPlaceholder_iff_isInfix.2 ⟨inside, hinside⟩⟩

/-- No piece of a template without placeholders has one. -/
theorem hasPlaceholder_piece (h : hasPlaceholder t = false) :
    ∀ p ∈ Text.pieces '/' t, hasPlaceholder p = false := by
  intro p hp
  by_contra hsome
  obtain ⟨inside, -, hinfix⟩ :=
    exists_piece_hasPlaceholder_iff.1 ⟨p, hp, Bool.not_eq_false _ ▸ hsome⟩
  exact absurd (hasPlaceholder_iff_isInfix.2 ⟨inside, hinfix⟩) (by simp [h])

/-- The pieces after the first slash have a placeholder exactly if the text
has a counted one. -/
theorem exists_tail_hasPlaceholder_iff :
    (∃ p ∈ (Text.pieces '/' t).tail, hasPlaceholder p = true) ↔ Counted t := by
  by_cases hslash : '/' ∈ t
  · obtain ⟨first, rest, rfl, hfirst⟩ := List.eq_append_cons_of_mem hslash
    rw [Text.pieces_append_sep hfirst, List.tail_cons, exists_piece_hasPlaceholder_iff]
    constructor
    · rintro ⟨inside, hinside, before, after, rfl⟩
      exact ⟨first ++ '/' :: before, inside, after, by simp, by simp, hinside⟩
    · rintro ⟨before, inside, after, htext, hbefore, hinside⟩
      obtain ⟨first', before', rfl, hfirst'⟩ := List.eq_append_cons_of_mem hbefore
      rw [List.append_assoc, List.cons_append] at htext
      obtain ⟨-, hrest⟩ := Text.append_sep_inj hfirst hfirst' htext
      exact ⟨inside, hinside, before', after, by simp [hrest]⟩
  · rw [Text.pieces_of_not_mem hslash]
    refine ⟨by simp, ?_⟩
    rintro ⟨before, inside, after, rfl, hbefore, -⟩
    exact absurd (List.mem_append_left _ hbefore) hslash

/-! ## Sums of positions -/

theorem scoreFrom_succ_eq_zero_iff :
    scoreFrom (k + 1) ps = 0 ↔ ∀ p ∈ ps, hasPlaceholder p = false := by
  induction ps generalizing k with
  | nil => simp [scoreFrom]
  | cons p ps ih =>
    rw [scoreFrom, Nat.add_eq_zero_iff, ih, List.forall_mem_cons]
    simp

/-- Positions add up to half the product of their number with the one
before it, at most. -/
theorem scoreFrom_le (k : Nat) (ps : List (List Char)) :
    2 * scoreFrom k ps + ps.length ≤ ps.length * (2 * k + ps.length) := by
  induction ps generalizing k with
  | nil => simp [scoreFrom]
  | cons p ps ih =>
    have hrest := ih (k + 1)
    have hfirst : (if hasPlaceholder p then k else 0) ≤ k := by split <;> omega
    rw [scoreFrom, List.length_cons]
    nlinarith

/-- **A template adds up to something** exactly if it has a counted
placeholder. -/
theorem weight_ne_zero_iff : weight t ≠ 0 ↔ Counted t := by
  obtain ⟨p, ps, hpieces⟩ := List.exists_cons_of_ne_nil (Text.pieces_ne_nil '/' t)
  have hfirst : (if hasPlaceholder p then 0 else 0) + scoreFrom 1 ps = scoreFrom 1 ps := by simp
  rw [← exists_tail_hasPlaceholder_iff, weight, hpieces, scoreFrom, hfirst, ne_eq,
    scoreFrom_succ_eq_zero_iff, List.tail_cons]
  simp

instance (t : List Char) : Decidable (Counted t) := decidable_of_iff _ weight_ne_zero_iff

/-- A template without placeholders adds up to nothing. -/
theorem weight_of_literal (h : hasPlaceholder t = false) : weight t = 0 := by
  by_contra hne
  obtain ⟨p, hp, hsome⟩ := exists_tail_hasPlaceholder_iff.2 (weight_ne_zero_iff.1 hne)
  rw [hasPlaceholder_piece h p (List.mem_of_mem_tail hp)] at hsome
  exact absurd hsome Bool.false_ne_true

/-- **With up to 92681 slashes, the sum fits into 32 bits.** -/
theorem weight_lt (h : t.count '/' ≤ 92681) : weight t < Nat.pow 2 32 := by
  have hle : 2 * weight t + (t.count '/' + 1) ≤ (t.count '/' + 1) * (t.count '/' + 1) := by
    have h := scoreFrom_le 0 (Text.pieces '/' t)
    simpa [weight, Text.length_pieces] using h
  have hpow : Nat.pow 2 32 = 4294967296 := by decide
  rw [hpow]
  nlinarith

/-! ## Scores -/

theorem Score.ofNat_eq_zero_iff {n : Nat} : Score.ofNat n = 0 ↔ Nat.pow 2 32 ∣ n := by
  rw [Score.ofNat, Fin.ext_iff, Nat.dvd_iff_mod_eq_zero]
  rfl

/-- **Which templates score nothing**: those that add up to nothing, and
those whose sum starts over at zero. -/
theorem matchingScore_eq_zero_iff : matchingScore t = 0 ↔ Nat.pow 2 32 ∣ weight t :=
  Score.ofNat_eq_zero_iff

/-- A template without placeholders scores nothing. -/
theorem matchingScore_of_literal (h : hasPlaceholder t = false) : matchingScore t = 0 := by
  rw [matchingScore_eq_zero_iff, weight_of_literal h]
  exact Nat.dvd_zero _

/-- A counted placeholder makes a score, if there are not too many
slashes. -/
theorem matchingScore_ne_zero (h : Counted t) (hslashes : t.count '/' ≤ 92681) :
    matchingScore t ≠ 0 := by
  rw [ne_eq, matchingScore_eq_zero_iff]
  intro hdvd
  exact weight_ne_zero_iff.2 h (Nat.eq_zero_of_dvd_of_lt hdvd (weight_lt hslashes))

end Template

end ApiGateway
