import ApiGateway.Pattern.Basic
/-!
# Patterns — matching is fitting

`Fits` says which texts a pattern matches, by cutting the text into one
part per item; `isMatch` finds it out from marks on the suffixes of the
text. Both follow the same equations, one per kind of repetition
(`fits_once_cons`, `fits_any_cons`, `fits_atLeastOnce_cons`), so a pattern
matches exactly the texts that fit it (`isMatch_iff_fits`).
-/

namespace ApiGateway

namespace Pattern

variable {item : Item} {rest p : Pattern} {c : Char} {s : List Char}

/-! ## The equations of fitting -/

theorem fits_nil_iff : Fits [] s ↔ s = [] := by
  constructor
  · intro h
    cases h
    rfl
  · rintro rfl
    exact .nil

/-- A text fits an item and what follows if it has a part for the item. -/
theorem fits_cons_iff :
    Fits (item :: rest) s ↔ ∃ part tail, s = part ++ tail ∧ (∀ c ∈ part, item.set.has c = true) ∧
      item.repetition.allows part.length = true ∧ Fits rest tail := by
  constructor
  · intro h
    cases h with
    | cons hset hlen htail => exact ⟨_, _, rfl, hset, hlen, htail⟩
  · rintro ⟨part, tail, rfl, hset, hlen, htail⟩
    exact .cons hset hlen htail

theorem fits_once_nil (h : item.repetition = .once) : ¬ Fits (item :: rest) [] := by
  rw [fits_cons_iff]
  rintro ⟨part, tail, hs, -, hlen, -⟩
  obtain ⟨rfl, rfl⟩ := List.append_eq_nil_iff.1 hs.symm
  rw [h] at hlen
  cases hlen

theorem fits_once_cons (h : item.repetition = .once) :
    Fits (item :: rest) (c :: s) ↔ item.set.has c = true ∧ Fits rest s := by
  rw [fits_cons_iff]
  constructor
  · rintro ⟨part, tail, hs, hset, hlen, htail⟩
    rw [h] at hlen
    obtain ⟨d, rfl⟩ := List.length_eq_one_iff.1 (of_decide_eq_true hlen)
    obtain ⟨rfl, rfl⟩ := List.cons_eq_cons.1 hs
    exact ⟨hset c List.mem_cons_self, htail⟩
  · rintro ⟨hc, hs⟩
    exact ⟨[c], s, rfl, fun d hd => List.mem_singleton.1 hd ▸ hc, by rw [h]; rfl, hs⟩

theorem fits_any_nil (h : item.repetition = .any) : Fits (item :: rest) [] ↔ Fits rest [] := by
  rw [fits_cons_iff]
  constructor
  · rintro ⟨part, tail, hs, -, -, htail⟩
    obtain ⟨rfl, rfl⟩ := List.append_eq_nil_iff.1 hs.symm
    exact htail
  · exact fun hr => ⟨[], [], rfl, fun _ hd => absurd hd List.not_mem_nil, by rw [h]; rfl, hr⟩

theorem fits_any_cons (h : item.repetition = .any) :
    Fits (item :: rest) (c :: s) ↔
      Fits rest (c :: s) ∨ item.set.has c = true ∧ Fits (item :: rest) s := by
  constructor
  · intro hf
    obtain ⟨part, tail, hs, hset, -, htail⟩ := fits_cons_iff.1 hf
    cases part with
    | nil => exact Or.inl (hs ▸ htail)
    | cons d part =>
      obtain ⟨rfl, rfl⟩ := List.cons_eq_cons.1 hs
      refine Or.inr ⟨hset c List.mem_cons_self, fits_cons_iff.2 ⟨part, tail, rfl, ?_, ?_, htail⟩⟩
      · exact fun d hd => hset d (List.mem_cons_of_mem c hd)
      · rw [h]
        rfl
  · rintro (hf | ⟨hc, hf⟩)
    · exact fits_cons_iff.2
        ⟨[], c :: s, rfl, fun _ hd => absurd hd List.not_mem_nil, by rw [h]; rfl, hf⟩
    · obtain ⟨part, tail, rfl, hset, -, htail⟩ := fits_cons_iff.1 hf
      refine fits_cons_iff.2 ⟨c :: part, tail, rfl, ?_, by rw [h]; rfl, htail⟩
      exact fun d hd => (List.mem_cons.1 hd).elim (fun e => e ▸ hc) (hset d)

theorem fits_atLeastOnce_nil (h : item.repetition = .atLeastOnce) : ¬ Fits (item :: rest) [] := by
  rw [fits_cons_iff]
  rintro ⟨part, tail, hs, -, hlen, -⟩
  obtain ⟨rfl, rfl⟩ := List.append_eq_nil_iff.1 hs.symm
  rw [h] at hlen
  cases hlen

theorem fits_atLeastOnce_cons (h : item.repetition = .atLeastOnce) :
    Fits (item :: rest) (c :: s) ↔
      item.set.has c = true ∧ (Fits rest s ∨ Fits (item :: rest) s) := by
  constructor
  · intro hf
    obtain ⟨part, tail, hs, hset, hlen, htail⟩ := fits_cons_iff.1 hf
    rw [h] at hlen
    cases part with
    | nil => cases hlen
    | cons d part =>
      obtain ⟨rfl, rfl⟩ := List.cons_eq_cons.1 hs
      refine ⟨hset c List.mem_cons_self, ?_⟩
      -- whether anything of the part is left decides which side holds
      cases part with
      | nil => exact Or.inl htail
      | cons e part =>
        refine Or.inr (fits_cons_iff.2 ⟨e :: part, tail, rfl, ?_, ?_, htail⟩)
        · exact fun d hd => hset d (List.mem_cons_of_mem c hd)
        · rw [h]
          exact decide_eq_true (Nat.succ_pos part.length)
  · rintro ⟨hc, hf | hf⟩
    · refine fits_cons_iff.2 ⟨[c], s, rfl, fun d hd => List.mem_singleton.1 hd ▸ hc, ?_, hf⟩
      rw [h]
      rfl
    · obtain ⟨part, tail, rfl, hset, -, htail⟩ := fits_cons_iff.1 hf
      refine fits_cons_iff.2 ⟨c :: part, tail, rfl, ?_, ?_, htail⟩
      · exact fun d hd => (List.mem_cons.1 hd).elim (fun e => e ▸ hc) (hset d)
      · rw [h]
        exact decide_eq_true (Nat.succ_pos part.length)

/-! ## Characters and wildcards -/

/-- A character stands for itself. -/
theorem fits_char_cons_iff :
    Fits (Item.char c :: rest) s ↔ ∃ tail, s = c :: tail ∧ Fits rest tail := by
  cases s with
  | nil => exact iff_of_false (fits_once_nil rfl) nofun
  | cons d s =>
    have hd : (Item.char c).set.has d = true ↔ d = c := by
      simp [Item.char, CharSet.has]
    rw [fits_once_cons rfl, hd]
    constructor
    · rintro ⟨rfl, hs⟩
      exact ⟨s, rfl, hs⟩
    · rintro ⟨tail, hs, htail⟩
      obtain ⟨rfl, rfl⟩ := List.cons_eq_cons.1 hs
      exact ⟨rfl, htail⟩

/-- The item for any text without a line feed. -/
def Item.anything : Item := ⟨.notLineFeed, .any, false⟩

theorem fits_anything_cons_iff :
    Fits (Item.anything :: rest) s ↔ ∃ v tail, s = v ++ tail ∧ '\n' ∉ v ∧ Fits rest tail := by
  have hline : ∀ v : List Char, (∀ c ∈ v, CharSet.notLineFeed.has c = true) ↔ '\n' ∉ v := by
    intro v
    simp only [CharSet.has, decide_eq_true_eq]
    exact ⟨fun h hd => h _ hd rfl, fun h d hd e => h (e ▸ hd)⟩
  rw [fits_cons_iff]
  constructor
  · rintro ⟨v, tail, rfl, hv, -, htail⟩
    exact ⟨v, tail, rfl, (hline v).1 hv, htail⟩
  · rintro ⟨v, tail, rfl, hv, htail⟩
    exact ⟨v, tail, rfl, (hline v).2 hv, rfl, htail⟩

/-! ## The marks -/

/-- The marks of a text without its first character are those behind the
first. -/
theorem tail_marks (p : Pattern) (c : Char) (s : List Char) :
    (marks p (c :: s)).tail = marks p s := by
  induction p with
  | nil => rfl
  | cons item rest ih =>
    change item.marks s (marks rest (c :: s)).tail = item.marks s (marks rest s)
    rw [ih]

/-- **The first mark says whether the whole text fits.** -/
theorem headD_marks (p : Pattern) (s : List Char) : (marks p s).headD false = true ↔ Fits p s := by
  induction p generalizing s with
  | nil =>
    rw [fits_nil_iff]
    cases s <;> simp [marks]
  | cons item rest ih =>
    induction s with
    | nil =>
      have hrest := ih []
      cases h : item.repetition with
      | once => simp [marks, Item.marks, h, fits_once_nil h]
      | any => simp [marks, Item.marks, h, fits_any_nil h, ← hrest]
      | atLeastOnce => simp [marks, Item.marks, h, fits_atLeastOnce_nil h]
    | cons c s ihs =>
      have hhere := ih (c :: s)
      have hrest := ih s
      rw [marks] at ihs ⊢
      cases h : item.repetition with
      | once => simp [Item.marks, h, fits_once_cons h, tail_marks, ← hrest]
      | any => simp [Item.marks, h, fits_any_cons h, tail_marks, ← hhere, ← ihs]
      | atLeastOnce => simp [Item.marks, h, fits_atLeastOnce_cons h, tail_marks, ← hrest, ← ihs]

/-- **A pattern matches exactly the texts that fit it.** -/
theorem isMatch_iff_fits (p : Pattern) (s : List Char) : isMatch p s = true ↔ Fits p s := by
  induction p generalizing s with
  | nil => rw [isMatch, List.isEmpty_iff, fits_nil_iff]
  | cons item rest ih =>
    cases h : item.repetition with
    | once =>
      cases s with
      | nil => simp only [isMatch, h, Bool.false_eq_true, fits_once_nil h]
      | cons c s => simp only [isMatch, h, fits_once_cons h, Bool.and_eq_true, ih]
    | any => simpa only [isMatch, h] using headD_marks (item :: rest) s
    | atLeastOnce => simpa only [isMatch, h] using headD_marks (item :: rest) s

end Pattern

end ApiGateway
