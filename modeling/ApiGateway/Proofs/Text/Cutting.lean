import ApiGateway.Text.Pieces
import Mathlib.Data.List.TakeWhile
/-!
# Text — what cutting at a separator gives

The first piece of a text is what stands before the first separator
(`headD_pieces`), so it is a given word exactly if the text is that word
or goes on with the separator behind it (`headD_pieces_eq_iff`), and the
first separator parts a text in one way only (`append_sep_inj`), which is
how it is cut there (`cutFirst_eq_some_iff`). A
separator at the end of a text adds an empty piece (`pieces_concat`), any
other character goes to the last piece (`pieces_concat_of_ne`), and a
separator before every piece is one before the text (`flatMap_pieces`). The
pieces of a text are the one way to cut it: joined they are the text, none
holds the separator, and no other texts are like that (`pieces_eq_iff`). They
are what the library splits a text into (`pieces_eq_splitOn`). What stands in
some piece is what stands in the text without a separator
(`exists_isInfix_piece_iff`).
-/

namespace ApiGateway

namespace Text

variable {α : Type} [DecidableEq α] {sep : α} {s word : List α}

/-! ## The first piece -/

theorem headD_pieces (sep : α) (s default : List α) :
    (pieces sep s).headD default = s.takeWhile (· ≠ sep) := by
  induction s with
  | nil => rfl
  | cons c rest ih =>
    by_cases hc : c = sep
    · simp [pieces, hc]
    · cases hp : pieces sep rest with
      | nil => exact absurd hp (pieces_ne_nil sep rest)
      | cons p ps =>
        rw [hp] at ih
        simp only [List.headD_cons] at ih
        simp [pieces, hc, hp, ih]

/-- What stands before the first separator is a word without any, exactly
if the text is the word or begins with the word and a separator. -/
theorem takeWhile_ne_eq_iff (hword : sep ∉ word) :
    s.takeWhile (· ≠ sep) = word ↔ s = word ∨ word ++ [sep] <+: s := by
  have hall : ∀ c ∈ word, decide (c ≠ sep) = true :=
    fun c hc => decide_eq_true fun e => hword (e ▸ hc)
  constructor
  · intro h
    have hs : word ++ s.dropWhile (· ≠ sep) = s := h ▸ List.takeWhile_append_dropWhile
    cases hd : s.dropWhile (· ≠ sep) with
    | nil =>
      rw [hd, List.append_nil] at hs
      exact Or.inl hs.symm
    | cons d rest =>
      -- the text goes on with the character that stopped the reading
      have hne : s.dropWhile (· ≠ sep) ≠ [] := hd ▸ List.cons_ne_nil d rest
      have hstop := List.head_dropWhile_not (fun c => decide (c ≠ sep)) hne
      have hd' : d = sep := by simpa only [hd, List.head_cons, decide_eq_false_iff_not,
        Decidable.not_not] using hstop
      rw [hd, hd'] at hs
      exact Or.inr ⟨rest, by rw [← hs]; simp⟩
  · rintro (rfl | ⟨rest, rfl⟩)
    · exact List.takeWhile_eq_self_iff.2 hall
    · rw [List.append_assoc, List.takeWhile_append_of_pos hall]
      simp

theorem headD_pieces_eq_iff (hword : sep ∉ word) (default : List α) :
    (pieces sep s).headD default = word ↔ s = word ∨ word ++ [sep] <+: s := by
  rw [headD_pieces, takeWhile_ne_eq_iff hword]

/-- A text without any separator is one piece. -/
theorem pieces_of_not_mem (h : sep ∉ s) : pieces sep s = [s] := by
  induction s with
  | nil => rfl
  | cons c rest ih =>
    obtain ⟨hc, hrest⟩ := not_or.1 (mt List.mem_cons.2 h)
    rw [pieces, if_neg (Ne.symm hc), ih hrest]

/-- The first separator parts a text in one way only. -/
theorem append_sep_inj {rest word' rest' : List α} (hword : sep ∉ word) (hword' : sep ∉ word')
    (h : word ++ sep :: rest = word' ++ sep :: rest') : word = word' ∧ rest = rest' := by
  have hfirst : ∀ {w t : List α}, sep ∉ w → (w ++ sep :: t).takeWhile (· ≠ sep) = w := by
    intro w t hw
    exact (takeWhile_ne_eq_iff hw).2 (Or.inr ⟨t, by rw [List.append_assoc, List.singleton_append]⟩)
  have hsame : word = word' := by rw [← hfirst hword, h, hfirst hword']
  subst hsame
  exact ⟨rfl, (List.cons_eq_cons.1 (List.append_cancel_left h)).2⟩

/-- **Cutting at the first separator**: what stands before it has none. -/
theorem cutFirst_eq_some_iff {rest : List α} :
    cutFirst sep s = some (word, rest) ↔ s = word ++ sep :: rest ∧ sep ∉ word := by
  have hwhole : s.takeWhile (· ≠ sep) ++ s.dropWhile (· ≠ sep) = s :=
    List.takeWhile_append_dropWhile
  have hfree : sep ∉ s.takeWhile (· ≠ sep) := fun hmem => by
    have hne := List.mem_takeWhile_imp hmem
    simp at hne
  rw [cutFirst]
  cases hd : s.dropWhile (· ≠ sep) with
  | nil =>
    rw [hd, List.append_nil] at hwhole
    rw [hwhole] at hfree
    refine ⟨nofun, ?_⟩
    rintro ⟨rfl, -⟩
    exact absurd (List.mem_append_right word List.mem_cons_self) hfree
  | cons d after =>
    have hd' : d = sep := by
      have hstop := List.head_dropWhile_not (fun c => decide (c ≠ sep)) (hd ▸ List.cons_ne_nil d after)
      simpa only [hd, List.head_cons, decide_eq_false_iff_not, Decidable.not_not] using hstop
    rw [hd, hd'] at hwhole
    constructor
    · intro h
      obtain ⟨rfl, rfl⟩ := Prod.mk.inj (Option.some.inj h)
      exact ⟨hwhole.symm, hfree⟩
    · rintro ⟨hs, hword⟩
      obtain ⟨hfirst, rfl⟩ := append_sep_inj hfree hword (hwhole.trans hs)
      rw [hfirst]

/-- A text begins with a separator exactly if nothing stands before its
first one. -/
theorem head?_eq_sep_iff : s.head? = some sep ↔ ∃ ps, ps ≠ [] ∧ pieces sep s = [] :: ps := by
  cases s with
  | nil => simp [pieces]
  | cons c rest =>
    rw [List.head?_cons, Option.some_inj, pieces]
    by_cases hc : c = sep
    · simp [hc, pieces_ne_nil]
    · cases hp : pieces sep rest with
      | nil => exact absurd hp (pieces_ne_nil sep rest)
      | cons p ps => simp [hc]

/-! ## The last piece -/

/-- A separator at the end adds an empty piece. -/
theorem pieces_concat (sep : α) (s : List α) : pieces sep (s ++ [sep]) = pieces sep s ++ [[]] := by
  induction s with
  | nil => simp [pieces]
  | cons c rest ih =>
    rw [List.cons_append, pieces, pieces, ih]
    by_cases hc : c = sep
    · simp [hc]
    · rw [if_neg hc, if_neg hc]
      cases hp : pieces sep rest with
      | nil => exact absurd hp (pieces_ne_nil sep rest)
      | cons p ps => rfl

/-- Any other character at the end goes to the last piece. -/
theorem pieces_concat_of_ne {d : α} (hd : d ≠ sep) (s : List α) :
    ∃ front last, pieces sep s = front ++ [last] ∧
      pieces sep (s ++ [d]) = front ++ [last ++ [d]] := by
  induction s with
  | nil => exact ⟨[], [], rfl, by simp [pieces, hd]⟩
  | cons c rest ih =>
    obtain ⟨front, last, hs, hsd⟩ := ih
    rw [List.cons_append, pieces, pieces, hs, hsd]
    by_cases hc : c = sep
    · exact ⟨[] :: front, last, by simp [hc], by simp [hc]⟩
    · cases front with
      | nil => exact ⟨[], c :: last, by simp [hc], by simp [hc]⟩
      | cons p front => exact ⟨(c :: p) :: front, last, by simp [hc], by simp [hc]⟩

/-! ## Putting the pieces together -/

/-- A separator before every piece is one before the text. -/
theorem flatMap_pieces (sep : α) (s : List α) :
    (pieces sep s).flatMap (fun p => sep :: p) = sep :: s := by
  induction s with
  | nil => rfl
  | cons c rest ih =>
    by_cases hc : c = sep
    · rw [pieces, if_pos hc, List.flatMap_cons, ih, hc, List.singleton_append]
    · cases hp : pieces sep rest with
      | nil => exact absurd hp (pieces_ne_nil sep rest)
      | cons p ps =>
        rw [hp, List.flatMap_cons, List.cons_append, List.cons_inj_right] at ih
        rw [pieces, if_neg hc, hp]
        simp only [List.flatMap_cons, List.cons_append, ih]

/-! ## All pieces -/

theorem length_pieces (sep : α) (s : List α) : (pieces sep s).length = s.count sep + 1 := by
  induction s with
  | nil => rfl
  | cons c rest ih =>
    rw [pieces]
    by_cases hc : c = sep
    · rw [if_pos hc, List.length_cons, ih, hc, List.count_cons_self]
    · rw [if_neg hc, List.count_cons_of_ne hc, ← ih]
      cases hp : pieces sep rest with
      | nil => exact absurd hp (pieces_ne_nil sep rest)
      | cons p ps => rfl

/-- The first separator parts a text into its first piece and the others. -/
theorem pieces_append_sep {first : List α} (h : sep ∉ first) (rest : List α) :
    pieces sep (first ++ sep :: rest) = first :: pieces sep rest := by
  induction first with
  | nil => simp [pieces]
  | cons c first ih =>
    obtain ⟨hc, hfirst⟩ := not_or.1 (mt List.mem_cons.2 h)
    rw [List.cons_append, pieces, if_neg (Ne.symm hc), ih hfirst]

/-- Texts without separators are cut apart again where they were joined. -/
theorem pieces_join {ps : List (List α)} (hne : ps ≠ []) (h : ∀ p ∈ ps, sep ∉ p) :
    pieces sep (join [sep] ps) = ps := by
  induction ps with
  | nil => exact absurd rfl hne
  | cons p ps ih =>
    have hp : sep ∉ p := h p List.mem_cons_self
    cases ps with
    | nil => exact pieces_of_not_mem hp
    | cons q ps =>
      rw [join, List.append_assoc, List.singleton_append, pieces_append_sep hp,
        ih (List.cons_ne_nil _ _) fun r hr => h r (List.mem_cons_of_mem _ hr)]

/-- **The one way to cut a text at a separator.** -/
theorem pieces_eq_iff {ps : List (List α)} :
    pieces sep s = ps ↔ ps ≠ [] ∧ join [sep] ps = s ∧ ∀ p ∈ ps, sep ∉ p := by
  constructor
  · rintro rfl
    exact ⟨pieces_ne_nil sep s, join_pieces sep s, fun p hp => not_mem_of_mem_pieces hp⟩
  · rintro ⟨hne, rfl, h⟩
    exact pieces_join hne h

/-- Where two texts meet, the last piece of one and the first of the other are
one piece. -/
theorem pieces_append {front back : List (List α)} {left right rest : List α}
    (hs : pieces sep s = front ++ [left]) (hrest : pieces sep rest = right :: back) :
    pieces sep (s ++ rest) = front ++ (left ++ right) :: back := by
  induction s generalizing front left with
  | nil =>
    have hone : ([] ++ [[]] : List (List α)) = front ++ [left] := hs
    obtain ⟨rfl, hleft⟩ := List.append_inj' hone rfl
    obtain rfl := List.singleton_inj.1 hleft
    exact hrest
  | cons c s ih =>
    rw [pieces] at hs
    rw [List.cons_append, pieces]
    by_cases hc : c = sep
    · rw [if_pos hc] at hs ⊢
      cases front with
      | nil => exact absurd (List.cons_eq_cons.1 hs).2 (pieces_ne_nil sep s)
      | cons p front =>
        obtain ⟨rfl, hs'⟩ := List.cons_eq_cons.1 hs
        rw [ih hs', List.cons_append]
    · obtain ⟨p, ps, hp⟩ := List.exists_cons_of_ne_nil (pieces_ne_nil sep s)
      rw [if_neg hc, hp] at hs
      rw [if_neg hc]
      cases front with
      | nil =>
        obtain ⟨rfl, rfl⟩ := List.cons_eq_cons.1 hs
        have hlast : pieces sep s = [] ++ [p] := hp
        rw [ih hlast]
        rfl
      | cons q front =>
        obtain ⟨rfl, rfl⟩ := List.cons_eq_cons.1 hs
        have hlast : pieces sep s = (p :: front) ++ [left] := hp
        rw [ih hlast]
        rfl

/-- What stands before a piece has a separator for every piece before it. -/
theorem exists_append_of_pieces {front back : List (List α)} {p : List α}
    (h : pieces sep s = front ++ p :: back) :
    ∃ before after, s = before ++ p ++ after ∧ before.count sep = front.length := by
  induction front generalizing s with
  | nil =>
    have hp : p = s.takeWhile (· ≠ sep) := by rw [← headD_pieces sep s [], h]; rfl
    refine ⟨[], s.dropWhile (· ≠ sep), ?_, rfl⟩
    rw [List.nil_append, hp, List.takeWhile_append_dropWhile]
  | cons q front ih =>
    have hmem : sep ∈ s := by
      by_contra hnone
      have hlength := congrArg List.length h
      simp [pieces_of_not_mem hnone] at hlength
    obtain ⟨first, rest, rfl, hfirst⟩ := List.eq_append_cons_of_mem hmem
    rw [pieces_append_sep hfirst, List.cons_append, List.cons_eq_cons] at h
    obtain ⟨rfl, h⟩ := h
    obtain ⟨before, after, rfl, hcount⟩ := ih h
    refine ⟨first ++ sep :: before, after, by simp, ?_⟩
    rw [List.count_append, List.count_eq_zero.2 hfirst, List.count_cons_self, hcount,
      List.length_cons, Nat.zero_add]

/-- Cutting is the splitting of the library. -/
theorem pieces_eq_splitOn (sep : α) (s : List α) : pieces sep s = s.splitOn sep := by
  induction s with
  | nil => rfl
  | cons c rest ih =>
    rw [List.splitOn_cons_eq_if_modifyHead, ← ih, pieces]
    by_cases hc : c = sep
    · simp [hc]
    · cases hp : pieces sep rest with
      | nil => exact absurd hp (pieces_ne_nil sep rest)
      | cons p ps => simp [hc]

/-- A word without separators that begins a text begins its first piece. -/
theorem isPrefix_takeWhile_iff :
    word <+: s.takeWhile (· ≠ sep) ↔ sep ∉ word ∧ word <+: s := by
  constructor
  · intro h
    refine ⟨fun hsep => ?_, h.trans (List.takeWhile_prefix _)⟩
    have hne : decide (sep ≠ sep) = true :=
      List.mem_takeWhile_imp (p := fun c => decide (c ≠ sep)) (h.subset hsep)
    exact absurd rfl (of_decide_eq_true hne)
  · rintro ⟨hword, rest, rfl⟩
    have hall : ∀ c ∈ word, decide (c ≠ sep) = true :=
      fun c hc => decide_eq_true fun e => hword (e ▸ hc)
    rw [List.takeWhile_append_of_pos hall]
    exact List.prefix_append word _

/-- **What stands in a piece** is what stands in the text without a
separator. -/
theorem exists_isInfix_piece_iff :
    (∃ p ∈ pieces sep s, word <:+: p) ↔ sep ∉ word ∧ word <:+: s := by
  induction s with
  | nil =>
    simp only [pieces, List.mem_singleton, exists_eq_left, List.infix_nil]
    exact ⟨fun h => ⟨h ▸ List.not_mem_nil, h⟩, And.right⟩
  | cons c rest ih =>
    obtain ⟨p, ps, hp⟩ := List.exists_cons_of_ne_nil (pieces_ne_nil sep rest)
    rw [List.infix_cons_iff, and_or_left, ← ih, hp, pieces, hp]
    by_cases hc : c = sep
    · have hempty : sep ∉ word ∧ word <+: c :: rest ↔ word = [] := by
        rw [← isPrefix_takeWhile_iff, hc]
        simp
      rw [hempty, if_pos hc]
      simp
    · have hfirst : p = rest.takeWhile (· ≠ sep) := by
        rw [← headD_pieces sep rest [], hp, List.headD_cons]
      have hbegins : sep ∉ word ∧ word <+: c :: rest ↔ word <+: c :: p := by
        have hpos : decide (c ≠ sep) = true := decide_eq_true hc
        rw [← isPrefix_takeWhile_iff, List.takeWhile_cons, hpos, if_pos rfl, hfirst]
      rw [hbegins, if_neg hc]
      simp [List.infix_cons_iff, or_assoc]

end Text

end ApiGateway

namespace String

/-- **The one way to cut a string at a character**: the pieces joined are the
string, and none holds the character. -/
theorem pieces_eq_iff {sep : Char} {s : String} {ps : List String} :
    s.pieces sep = ps ↔
      ps ≠ [] ∧ joined (singleton sep) ps = s ∧ ∀ p ∈ ps, sep ∉ p.toList := by
  have hlists : s.pieces sep = ps ↔ ApiGateway.Text.pieces sep s.toList = ps.map toList := by
    constructor
    · rintro rfl
      simp [pieces]
    · intro h
      rw [pieces, h]
      simp
  rw [hlists, ApiGateway.Text.pieces_eq_iff, joined, ← toList_inj, toList_ofList,
    toList_singleton]
  simp

end String
