import ApiGateway.Pattern.Notation
/-!
# Patterns — reading what was written

The notation of a pattern reads as the pattern (`parse?_written`). Every
item is read up to where the next begins, and no item begins with a sign
of repetition (`not_repeats_written`), so an item that stands once is not
taken for a repeated one.
-/

namespace ApiGateway

namespace Pattern

variable {rest : List Char}

/-- A text begins with a sign of repetition. -/
def Repeats (s : List Char) : Prop := s.head? = some '*' ∨ s.head? = some '+'

theorem parseSet?_of_not_special {c : Char} (h : isSpecial c = false) (rest : List Char) :
    parseSet? (c :: rest) = some (.only c, rest) := by
  unfold parseSet?
  -- the characters that open another case are all special
  split
  next heq =>
    obtain ⟨rfl, -⟩ := List.cons_eq_cons.1 heq
    cases h
  next heq =>
    obtain ⟨rfl, -⟩ := List.cons_eq_cons.1 heq
    cases h
  next heq =>
    obtain ⟨rfl, -⟩ := List.cons_eq_cons.1 heq
    cases h
  next heq =>
    obtain ⟨rfl, rfl⟩ := List.cons_eq_cons.1 heq
    simp [h]
  next heq => cases heq

/-- A set of characters is read as it was written. -/
theorem parseSet?_written (set : CharSet) (rest : List Char) :
    parseSet? (set.written ++ rest) = some (set, rest) := by
  cases set with
  | only c =>
    cases h : isSpecial c with
    | true => simp [CharSet.written, escaped, h, parseSet?]
    | false =>
      simpa [CharSet.written, escaped, h] using parseSet?_of_not_special h rest
  | notLineFeed => rfl
  | notSlash => rfl

/-- What a set begins with. -/
theorem exists_head_written (set : CharSet) :
    ∃ c tail, set.written = c :: tail ∧ c ≠ '*' ∧ c ≠ '+' ∧ c ≠ '(' := by
  cases set with
  | only c =>
    cases h : isSpecial c with
    | true => exact ⟨'\\', [c], by simp [CharSet.written, escaped, h], by decide⟩
    | false =>
      have hne : ∀ d, isSpecial d = true → c ≠ d := by
        rintro d hd rfl
        rw [h] at hd
        cases hd
      exact ⟨c, [], by simp [CharSet.written, escaped, h], hne '*' rfl, hne '+' rfl, hne '(' rfl⟩
  | notLineFeed => exact ⟨'.', [], rfl, by decide⟩
  | notSlash => exact ⟨'[', ['^', '/', ']'], rfl, by decide⟩

/-- A repetition is read as it was written, if no other sign of one
follows. -/
theorem parseRepetition_written (r : Repetition) (h : ¬ Repeats rest) :
    parseRepetition (r.written ++ rest) = (r, rest) := by
  cases r with
  | any => rfl
  | atLeastOnce => rfl
  | once =>
    change parseRepetition rest = _
    unfold parseRepetition
    split
    next tail => exact absurd (Or.inl rfl) h
    next tail => exact absurd (Or.inr rfl) h
    next => rfl

/-- No item begins with a sign of repetition. -/
theorem not_repeats_written (item : Item) (rest : List Char) :
    ¬ Repeats (item.written ++ rest) := by
  obtain ⟨c, tail, hc, hstar, hplus, -⟩ := exists_head_written item.set
  unfold Repeats Item.written
  split
  · simp
  · rw [hc]
    simp [hstar, hplus]

/-- **An item is read as it was written.** -/
theorem parseItem?_written (item : Item) (h : ¬ Repeats rest) :
    parseItem? (item.written ++ rest) = some (item, rest) := by
  obtain ⟨set, repetition, captured⟩ := item
  cases captured with
  | true =>
    have hclose : ¬ Repeats (')' :: rest) := by simp [Repeats]
    have hbody : (Item.mk set repetition true).written ++ rest =
        '(' :: (set.written ++ (repetition.written ++ (')' :: rest))) := by
      simp [Item.written]
    rw [hbody, parseItem?, parseSet?_written]
    simp only [parseRepetition_written repetition hclose]
  | false =>
    have hbody : (Item.mk set repetition false).written ++ rest =
        set.written ++ (repetition.written ++ rest) := by
      simp [Item.written]
    obtain ⟨c, tail, hc, -, -, hopen⟩ := exists_head_written set
    have hread : parseSet? (c :: (tail ++ (repetition.written ++ rest))) =
        some (set, repetition.written ++ rest) := by
      have := parseSet?_written set (repetition.written ++ rest)
      rwa [hc, List.cons_append] at this
    rw [hbody, hc, List.cons_append]
    unfold parseItem?
    split
    next heq => exact absurd (List.cons_eq_cons.1 heq).1 hopen
    next =>
      rw [hread]
      simp only [parseRepetition_written repetition h]

theorem written_ne_nil (item : Item) : item.written ≠ [] := by
  obtain ⟨c, tail, hc, -⟩ := exists_head_written item.set
  unfold Item.written
  split <;> simp [hc]

/-- The items up to the closing sign are read as they were written, with
fuel for each of them. -/
theorem parseItems?_written (p : Pattern) {fuel : Nat} (hfuel : p.length ≤ fuel) :
    parseItems? fuel (p.flatMap Item.written ++ ['$']) = some p := by
  induction p generalizing fuel with
  | nil =>
    cases fuel <;> rfl
  | cons item p ih =>
    obtain ⟨fuel, rfl⟩ : ∃ n, fuel = n + 1 := ⟨fuel - 1, by simp at hfuel; omega⟩
    have hstop : ¬ Repeats (p.flatMap Item.written ++ ['$']) := by
      cases p with
      | nil => simp [Repeats]
      | cons next p =>
        rw [List.flatMap_cons, List.append_assoc]
        exact not_repeats_written next _
    have hne : item.written ++ (p.flatMap Item.written ++ ['$']) ≠ ['$'] := by
      intro heq
      have hlen := congrArg List.length heq
      have hpos := List.length_pos_iff.2 (written_ne_nil item)
      simp only [List.length_append, List.length_cons, List.length_nil] at hlen
      omega
    rw [List.flatMap_cons, List.append_assoc, parseItems?, parseItem?_written item hstop]
    · have hread := ih (show p.length ≤ fuel by simpa using hfuel)
      simp only [hread, Option.map_some]
    · exact hne

/-- **The notation of a pattern reads as the pattern.** -/
theorem parse?_written (p : Pattern) : parse? p.written = some p := by
  have hlen : p.length ≤ (p.flatMap Item.written ++ ['$']).length := by
    induction p with
    | nil => simp
    | cons item p ih =>
      have hpos := List.length_pos_iff.2 (written_ne_nil item)
      simp only [List.flatMap_cons, List.length_append, List.length_cons] at ih ⊢
      omega
  exact parseItems?_written p hlen

end Pattern

end ApiGateway
