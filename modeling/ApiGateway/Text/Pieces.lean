/-!
# Text — cutting at a separator, and joining

`pieces` cuts a list at every occurrence of a separator and keeps empty
pieces; `join` puts the separator back. The elements are characters of
a text or bytes of a request. Cutting and joining undo each other
(`join_pieces`), and no piece holds the separator
(`not_mem_of_mem_pieces`).
-/

namespace ApiGateway

namespace Text

variable {α : Type} [DecidableEq α]

/-- The pieces of a list between the occurrences of `sep`; a list
without any is one piece. -/
def pieces (sep : α) : List α → List (List α)
  | [] => [[]]
  | c :: rest =>
    if c = sep then [] :: pieces sep rest
    else
      match pieces sep rest with
      | [] => [[c]]
      | p :: ps => (c :: p) :: ps

/-- The pieces in their order with `sep` between neighbours. -/
def join (sep : List α) : List (List α) → List α
  | [] => []
  | [p] => p
  | p :: q :: ps => p ++ sep ++ join sep (q :: ps)

theorem pieces_ne_nil (sep : α) (s : List α) : pieces sep s ≠ [] := by
  cases s with
  | nil => simp [pieces]
  | cons c rest =>
    by_cases h : c = sep
    · simp [pieces, h]
    · cases hp : pieces sep rest <;> simp [pieces, h, hp]

/-- Joining the pieces of a list gives the list back. -/
theorem join_pieces (sep : α) (s : List α) : join [sep] (pieces sep s) = s := by
  induction s with
  | nil => rfl
  | cons c rest ih =>
    cases hp : pieces sep rest with
    | nil => exact absurd hp (pieces_ne_nil sep rest)
    | cons p ps =>
      rw [hp] at ih
      by_cases h : c = sep
      · simp only [pieces, h, hp, if_true, join, List.nil_append, List.singleton_append, ih]
      · cases ps with
        | nil => simp_all [pieces, join]
        | cons q qs => simp_all [pieces, join]

/-- No piece holds the separator. -/
theorem not_mem_of_mem_pieces {sep : α} {s p : List α} (h : p ∈ pieces sep s) :
    sep ∉ p := by
  induction s generalizing p with
  | nil =>
    simp only [pieces, List.mem_singleton] at h
    simp [h]
  | cons c rest ih =>
    by_cases hc : c = sep
    · simp only [pieces, hc, if_true, List.mem_cons] at h
      rcases h with h | h
      · simp [h]
      · exact ih h
    · cases hp : pieces sep rest with
      | nil => exact absurd hp (pieces_ne_nil sep rest)
      | cons q qs =>
        simp only [pieces, hc, if_false, hp, List.mem_cons] at h
        rw [hp] at ih
        rcases h with h | h
        · subst h
          have := ih List.mem_cons_self
          simp only [List.mem_cons, not_or]
          exact ⟨fun e => hc e.symm, this⟩
        · exact ih (List.mem_cons_of_mem _ h)

/-- The parts before and after the first occurrence of `sep`. -/
def cutFirst (sep : α) (s : List α) : Option (List α × List α) :=
  match s.dropWhile (· ≠ sep) with
  | [] => none
  | _ :: rest => some (s.takeWhile (· ≠ sep), rest)

/-- The parts before and after the last occurrence of `sep`. -/
def cutLast (sep : α) (s : List α) : Option (List α × List α) :=
  (cutFirst sep s.reverse).map fun p => (p.2.reverse, p.1.reverse)

end Text

end ApiGateway

namespace String

/-- The pieces of a string between the occurrences of `sep`. -/
def pieces (sep : Char) (s : String) : List String :=
  (ApiGateway.Text.pieces sep s.toList).map ofList

/-- The strings in their order with `sep` between neighbours. -/
def joined (sep : String) (parts : List String) : String :=
  ofList (ApiGateway.Text.join sep.toList (parts.map toList))

/-- Joining is the interspersing of the library. -/
theorem joined_eq_intercalate (sep : String) (parts : List String) :
    joined sep parts = sep.intercalate parts := by
  induction parts with
  | nil => simp [joined, ApiGateway.Text.join]
  | cons p ps ih =>
    cases ps with
    | nil => simp [joined, ApiGateway.Text.join]
    | cons q ps =>
      rw [intercalate_cons_cons, ← ih]
      simp [joined, ApiGateway.Text.join, String.append_assoc]

end String
