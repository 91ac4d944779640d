import ApiGateway.Proofs.Pattern.Language
/-!
# Patterns — what the items capture

An item that is repeated takes the greatest number of characters after
which what is left fits the rest of the pattern (`Cut`, `taken?_eq_some`).
Where a text can be cut in one way only there is nothing to choose: then an
item captures its part, and the rest of the pattern captures what it
captures of the rest of the text (`captures?_cons_of_unique`).

However the parts are chosen, they make up the text: what is captured are
the parts of the captured items in some cut of the text into one part per
item (`Captured`, `captured_of_captures?`), and something is captured of
every text that fits (`isSome_captures?_iff`).
-/

namespace ApiGateway

namespace Pattern

variable {item : Item} {rest p : Pattern} {c : Char} {s part tail : List Char} {n : Nat}

/-- **The first so many characters may be the part of an item**: they are of
its set, their number is allowed, and what is left fits the rest. -/
structure Cut (item : Item) (rest : Pattern) (s : List Char) (n : Nat) : Prop where
  le : n ≤ s.length
  set : ∀ c ∈ s.take n, item.set.has c = true
  allows : item.repetition.allows n = true
  fits : Fits rest (s.drop n)

/-! ## The greatest cut -/

/-- A mark says whether the suffix fits that it stands for. -/
theorem getD_marks (h : n ≤ s.length) :
    (marks p s).getD n false = true ↔ Fits p (s.drop n) := by
  induction s generalizing n with
  | nil =>
    obtain rfl := Nat.le_zero.1 h
    rw [List.drop_zero, ← headD_marks]
    cases marks p [] <;> rfl
  | cons c s ih =>
    cases n with
    | zero =>
      rw [List.drop_zero, ← headD_marks]
      cases marks p (c :: s) <;> rfl
    | succ n =>
      rw [List.drop_succ_cons, ← ih (Nat.le_of_succ_le_succ h), ← tail_marks p c s]
      cases marks p (c :: s) <;> rfl

/-- So many characters are in the longest run exactly if each of them is of
the kind. -/
theorem le_length_takeWhile_iff {kind : Char → Bool} :
    n ≤ (s.takeWhile kind).length ↔ n ≤ s.length ∧ ∀ c ∈ s.take n, kind c = true := by
  induction s generalizing n with
  | nil => simp
  | cons d s ih =>
    cases n with
    | zero => simp
    | succ n =>
      cases hd : kind d with
      | true => simp [hd, ih]
      | false => simp [hd]

/-- The greatest number that is allowed is the one that is found. -/
theorem longest_eq_some {allows : Nat → Bool} {bound : Nat} (hle : n ≤ bound)
    (hn : allows n = true) (hgreatest : ∀ m ≤ bound, allows m = true → m ≤ n) :
    longest allows bound = some n := by
  induction bound with
  | zero =>
    obtain rfl := Nat.le_zero.1 hle
    rw [longest, if_pos hn]
  | succ bound ih =>
    rcases Nat.eq_or_lt_of_le hle with rfl | hlt
    · rw [longest, if_pos hn]
    · have hnot : ¬ allows (bound + 1) = true := fun h =>
        Nat.not_le_of_lt hlt (hgreatest (bound + 1) (Nat.le_refl _) h)
      rw [longest, if_neg hnot]
      exact ih (Nat.le_of_lt_succ hlt) fun m hm => hgreatest m (Nat.le_succ_of_le hm)

/-- What is found is allowed, and within the bound. -/
theorem allows_of_longest {allows : Nat → Bool} {bound : Nat} (h : longest allows bound = some n) :
    n ≤ bound ∧ allows n = true := by
  induction bound with
  | zero =>
    rw [longest] at h
    split at h
    next hzero =>
      obtain rfl := Option.some.inj h
      exact ⟨Nat.le_refl _, hzero⟩
    next => cases h
  | succ bound ih =>
    rw [longest] at h
    split at h
    next hbound =>
      obtain rfl := Option.some.inj h
      exact ⟨Nat.le_refl _, hbound⟩
    next => exact (ih h).imp_left Nat.le_succ_of_le

/-- A number is found if one is allowed. -/
theorem exists_longest (allows : Nat → Bool) {bound : Nat} (hle : n ≤ bound)
    (hn : allows n = true) : ∃ m, longest allows bound = some m := by
  induction bound with
  | zero =>
    obtain rfl := Nat.le_zero.1 hle
    exact ⟨0, if_pos hn⟩
  | succ bound ih =>
    rw [longest]
    split
    next => exact ⟨_, rfl⟩
    next hnot =>
      have hne : n ≠ bound + 1 := fun e => hnot (e ▸ hn)
      exact ih (Nat.le_of_lt_succ (Nat.lt_of_le_of_ne hle hne))

/-- For an item that is repeated there is a choice. -/
theorem taken?_of_repeated (h : item.repetition ≠ .once) : taken? item rest s =
    longest (fun n => item.repetition.allows n && (marks rest s).getD n false)
      (s.takeWhile item.set.has).length := by
  unfold taken?
  cases hrep : item.repetition with
  | once => exact absurd hrep h
  | any => rfl
  | atLeastOnce => rfl

/-- An item that stands once takes one character of its set. -/
theorem taken?_of_once (h : item.repetition = .once) : taken? item rest s =
    if 1 ≤ (s.takeWhile item.set.has).length then some 1 else none := by
  unfold taken?
  rw [h]

/-- **The greatest cut is taken.** -/
theorem taken?_eq_some (h : item.repetition ≠ .once) (hcut : Cut item rest s n)
    (hgreatest : ∀ m, Cut item rest s m → m ≤ n) : taken? item rest s = some n := by
  rw [taken?_of_repeated h]
  refine longest_eq_some (le_length_takeWhile_iff.2 ⟨hcut.le, hcut.set⟩) ?_ fun m hm hallows => ?_
  · rw [hcut.allows, (getD_marks hcut.le).2 hcut.fits, Bool.and_true]
  · obtain ⟨hle, hset⟩ := le_length_takeWhile_iff.1 hm
    rw [Bool.and_eq_true, getD_marks hle] at hallows
    exact hgreatest m ⟨hle, hset, hallows.1, hallows.2⟩

/-! ## What is captured -/

/-- A character that stands for itself is taken, and not captured. -/
theorem captures?_char_cons (c : Char) (rest : Pattern) (s : List Char) :
    captures? (Item.char c :: rest) (c :: s) = captures? rest s := by
  have htaken : taken? (Item.char c) rest (c :: s) = some 1 := by
    simp [taken?, Item.char, CharSet.has]
  rw [captures?, htaken]
  simp [Item.char]

/-- **Where a text can be cut in one way only**, an item that is captured
captures its part. -/
theorem captures?_cons_of_unique (hcaptured : item.captured = true)
    (hrepeated : item.repetition ≠ .once) (hset : ∀ c ∈ part, item.set.has c = true)
    (hallows : item.repetition.allows part.length = true) (hfits : Fits rest tail)
    (hunique : ∀ part' tail', part ++ tail = part' ++ tail' →
      (∀ c ∈ part', item.set.has c = true) → Fits rest tail' → part' = part) :
    captures? (item :: rest) (part ++ tail) = (captures? rest tail).map (part :: ·) := by
  have hcut : Cut item rest (part ++ tail) part.length := by
    refine ⟨by simp, ?_, hallows, ?_⟩
    · rw [List.take_left]
      exact hset
    · rw [List.drop_left]
      exact hfits
  have hgreatest : ∀ m, Cut item rest (part ++ tail) m → m ≤ part.length := by
    intro m hm
    have hpart := hunique _ _ (List.take_append_drop m (part ++ tail)).symm hm.set hm.fits
    have hlen := congrArg List.length hpart
    rw [List.length_take_of_le hm.le] at hlen
    exact Nat.le_of_eq hlen
  rw [captures?, taken?_eq_some hrepeated hcut hgreatest]
  simp [hcaptured]

/-! ## The parts make up the text -/

/-- **What may be captured of a text**: the text is cut into one part per
item, as it is to fit, and the parts of the captured items are kept. -/
inductive Captured : Pattern → List Char → List (List Char) → Prop where
  | nil : Captured [] [] []
  | cons {item : Item} {rest : Pattern} {part tail : List Char} {parts : List (List Char)} :
      (∀ c ∈ part, item.set.has c = true) → item.repetition.allows part.length = true →
      Captured rest tail parts →
      Captured (item :: rest) (part ++ tail) (if item.captured then part :: parts else parts)

/-- A text is cut for an item and what follows if it has a part for the
item, which is kept if the item is captured. -/
theorem captured_cons_iff {parts : List (List Char)} :
    Captured (item :: rest) s parts ↔ ∃ part tail parts', s = part ++ tail ∧
      parts = (if item.captured then part :: parts' else parts') ∧
      (∀ c ∈ part, item.set.has c = true) ∧ item.repetition.allows part.length = true ∧
      Captured rest tail parts' := by
  constructor
  · intro h
    cases h with
    | cons hset hallows hrest => exact ⟨_, _, _, rfl, rfl, hset, hallows, hrest⟩
  · rintro ⟨part, tail, parts', rfl, rfl, hset, hallows, hrest⟩
    exact .cons hset hallows hrest

/-- A character that stands for itself is cut off and not kept. -/
theorem captured_char_cons_iff {parts : List (List Char)} :
    Captured (Item.char c :: rest) s parts ↔ ∃ tail, s = c :: tail ∧ Captured rest tail parts := by
  rw [captured_cons_iff]
  constructor
  · rintro ⟨part, tail, parts', rfl, hparts, hset, hallows, hrest⟩
    obtain ⟨d, rfl⟩ := List.length_eq_one_iff.1 (of_decide_eq_true hallows)
    obtain rfl : d = c := of_decide_eq_true (hset d List.mem_cons_self)
    exact ⟨tail, rfl, hparts ▸ hrest⟩
  · rintro ⟨tail, rfl, htail⟩
    refine ⟨[c], tail, parts, rfl, rfl, fun d hd => ?_, rfl, htail⟩
    exact decide_eq_true (List.mem_singleton.1 hd)

/-- What is taken is of the item's set, and so many are allowed. -/
theorem allows_of_taken? (h : taken? item rest s = some n) :
    n ≤ s.length ∧ (∀ c ∈ s.take n, item.set.has c = true) ∧
      item.repetition.allows n = true := by
  have hrun : ∀ {m}, m ≤ (s.takeWhile item.set.has).length →
      m ≤ s.length ∧ ∀ c ∈ s.take m, item.set.has c = true := le_length_takeWhile_iff.1
  by_cases hrep : item.repetition = .once
  · rw [taken?_of_once hrep] at h
    split at h
    next hone =>
      obtain rfl := Option.some.inj h
      exact ⟨(hrun hone).1, (hrun hone).2, by rw [hrep]; rfl⟩
    next => cases h
  · rw [taken?_of_repeated hrep] at h
    obtain ⟨hle, hallows⟩ := allows_of_longest h
    exact ⟨(hrun hle).1, (hrun hle).2, (Bool.and_eq_true _ _ ▸ hallows).1⟩

/-- **What is captured** are the parts of a cut. -/
theorem captured_of_captures? {parts : List (List Char)} (h : captures? p s = some parts) :
    Captured p s parts := by
  induction p generalizing s parts with
  | nil =>
    cases s with
    | nil =>
      obtain rfl := Option.some.inj h
      exact .nil
    | cons c s => cases h
  | cons item rest ih =>
    rw [captures?] at h
    cases htaken : taken? item rest s with
    | none =>
      rw [htaken] at h
      cases h
    | some n =>
      rw [htaken] at h
      obtain ⟨hle, hset, hallows⟩ := allows_of_taken? htaken
      obtain ⟨parts', hrest, rfl⟩ := Option.map_eq_some_iff.1 h
      have hcut := Captured.cons hset (by rwa [List.length_take_of_le hle]) (ih hrest)
      rwa [List.take_append_drop] at hcut

/-- A text of which something is captured fits. -/
theorem Captured.fits {parts : List (List Char)} (h : Captured p s parts) : Fits p s := by
  induction h with
  | nil => exact .nil
  | cons hset hallows _ ih => exact .cons hset hallows ih

/-- Of a text that fits, the first item takes a part after which the rest
fits. -/
theorem exists_taken?_of_fits (h : Fits (item :: rest) s) :
    ∃ n, taken? item rest s = some n ∧ Fits rest (s.drop n) := by
  obtain ⟨part, tail, rfl, hset, hallows, htail⟩ := fits_cons_iff.1 h
  have hrun : part.length ≤ ((part ++ tail).takeWhile item.set.has).length := by
    rw [le_length_takeWhile_iff, List.take_left]
    exact ⟨by simp, hset⟩
  by_cases hrep : item.repetition = .once
  · rw [hrep] at hallows
    have hone : part.length = 1 := of_decide_eq_true hallows
    refine ⟨1, ?_, ?_⟩
    · rw [taken?_of_once hrep, if_pos (hone ▸ hrun)]
    · rwa [← hone, List.drop_left]
  · have hmark : (item.repetition.allows part.length &&
        (marks rest (part ++ tail)).getD part.length false) = true := by
      rw [hallows, Bool.true_and, getD_marks (by simp), List.drop_left]
      exact htail
    obtain ⟨n, hn⟩ := exists_longest
      (fun n => item.repetition.allows n && (marks rest (part ++ tail)).getD n false)
      hrun hmark
    obtain ⟨hle, hboth⟩ := allows_of_longest hn
    refine ⟨n, (taken?_of_repeated hrep).trans hn, ?_⟩
    exact (getD_marks (le_length_takeWhile_iff.1 hle).1).1 (Bool.and_eq_true _ _ ▸ hboth).2

/-- **Something is captured of exactly the texts that fit.** -/
theorem isSome_captures?_iff : (captures? p s).isSome = true ↔ Fits p s := by
  constructor
  · intro h
    obtain ⟨parts, hparts⟩ := Option.isSome_iff_exists.1 h
    exact (captured_of_captures? hparts).fits
  · intro h
    induction p generalizing s with
    | nil =>
      rw [fits_nil_iff] at h
      subst h
      rfl
    | cons item rest ih =>
      obtain ⟨n, hn, hrest⟩ := exists_taken?_of_fits h
      rw [captures?, hn, Option.isSome_map]
      exact ih hrest

end Pattern

end ApiGateway
