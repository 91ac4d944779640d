import ApiGateway.Call
import ApiGateway.Proofs.Text.Cutting
import Mathlib.Data.List.Chain
/-!
# Paths — what normalizing leaves alone, and what it gives

A path begins with a slash and has no empty piece between two slashes
(`IsPath`), which is to say that no two slashes stand side by side in it
(`isPath_iff_isChain`). Normalizing leaves the root and every path that
does not end with a slash alone, and takes the slash at the end of any
other away (`normal_cases`). So what comes out ends with a slash only if
it is the root (`getLast?_normalizedPath`).

Any text is normalized to a normal path (`IsNormal`) with the same pieces,
the empty ones left out, and there is only one (`normalizedPath_eq_iff`). So
texts are told apart by normalizing exactly as far as their pieces are, and
so are requests by their paths (`Call.path_ofRequest_eq_iff`).
-/

namespace ApiGateway

open Text

variable {p s : List Char}

/-- Two characters in a row are not two slashes. -/
def NotBothSlash (a b : Char) : Prop := ¬ (a = '/' ∧ b = '/')

/-- The pieces of a text that have a slash on either side. -/
def innerPieces (p : List Char) : List (List Char) := (pieces '/' p).tail.dropLast

/-- **A path** begins with a slash, and none of its inner pieces is
empty. -/
def IsPath (p : List Char) : Prop := p.head? = some '/' ∧ ∀ q ∈ innerPieces p, q ≠ []

/-- A base path is empty or a path. -/
def IsBasePath (p : List Char) : Prop := p = [] ∨ IsPath p

instance (p : List Char) : Decidable (IsPath p) := inferInstanceAs (Decidable (_ ∧ _))

instance (p : List Char) : Decidable (IsBasePath p) := inferInstanceAs (Decidable (_ ∨ _))

/-! ## Slashes side by side -/

/-- **No inner piece is empty exactly if no two slashes stand side by
side.** -/
theorem innerPieces_ne_nil_iff :
    (∀ q ∈ innerPieces s, q ≠ []) ↔ s.IsChain NotBothSlash := by
  induction s with
  | nil => simp [innerPieces, pieces]
  | cons c rest ih =>
    cases hp : pieces '/' rest with
    | nil => exact absurd hp (pieces_ne_nil '/' rest)
    | cons q qs =>
      have hrest : innerPieces rest = qs.dropLast := by rw [innerPieces, hp, List.tail_cons]
      rw [List.isChain_cons, ← ih, hrest]
      by_cases hc : c = '/'
      · -- the first piece of the rest has a slash before it, and is inner unless it is the last
        have hinner : innerPieces (c :: rest) = (q :: qs).dropLast := by
          rw [innerPieces, pieces, if_pos hc, hp, List.tail_cons]
        have hhead : rest.head? = some '/' ↔ qs ≠ [] ∧ q = [] := by
          rw [head?_eq_sep_iff, hp]
          simp [and_comm]
        have hnext : (∀ d ∈ rest.head?, NotBothSlash c d) ↔ ¬ (qs ≠ [] ∧ q = []) := by
          rw [← hhead]
          constructor
          · exact fun h hd => h '/' hd ⟨hc, rfl⟩
          · exact fun h d hd hcd => h (hcd.2 ▸ hd)
        rw [hinner, hnext]
        cases qs with
        | nil => simp
        | cons q' qs => simp
      · have hinner : innerPieces (c :: rest) = qs.dropLast := by
          rw [innerPieces, pieces, if_neg hc, hp, List.tail_cons]
        rw [hinner]
        exact ⟨fun h => ⟨fun _ _ hcd => hc hcd.1, h⟩, fun h => h.2⟩

theorem isPath_iff_isChain : IsPath p ↔ p.head? = some '/' ∧ p.IsChain NotBothSlash := by
  rw [IsPath, innerPieces_ne_nil_iff]

/-! ## Normalizing -/

/-- **A path that does not end with a slash is normal.** -/
theorem IsPath.normalizedPath_eq_self (h : IsPath p) (hlast : p.getLast? ≠ some '/') :
    normalizedPath p = p := by
  obtain ⟨hhead, hinner⟩ := h
  obtain ⟨rest, rfl⟩ : ∃ rest, p = '/' :: rest := List.head?_eq_some_iff.1 hhead
  have hne : rest ≠ [] := by
    rintro rfl
    exact hlast rfl
  obtain ⟨init, d, rfl⟩ := (List.eq_nil_or_concat' rest).resolve_left hne
  have hd : d ≠ '/' := by
    rintro rfl
    exact hlast (by rw [← List.cons_append, List.getLast?_concat])
  -- the last piece has the last character, and those before it are inner ones
  obtain ⟨front, last, -, hpieces⟩ := pieces_concat_of_ne hd init
  have hfront : ∀ q ∈ front, q ≠ [] := by
    intro q hq
    refine hinner q ?_
    rw [innerPieces, pieces, if_pos rfl, List.tail_cons, hpieces, List.dropLast_concat]
    exact hq
  have hall : ∀ q ∈ pieces '/' (init ++ [d]), decide (q ≠ []) = true := by
    intro q hq
    rw [hpieces] at hq
    rcases List.mem_append.1 hq with hq | hq
    · exact decide_eq_true (hfront q hq)
    · rw [List.mem_singleton.1 hq]
      simp
  have hpathPieces : pathPieces ('/' :: (init ++ [d])) = pieces '/' (init ++ [d]) := by
    rw [pathPieces, pieces, if_pos rfl, List.filter_cons_of_neg (by simp),
      List.filter_eq_self.2 hall]
  rw [normalizedPath, hpathPieces, if_neg (pieces_ne_nil _ _), flatMap_pieces]

/-- A slash at the end makes no difference. -/
theorem normalizedPath_append_slash (p : List Char) :
    normalizedPath (p ++ ['/']) = normalizedPath p := by
  have hpieces : pathPieces (p ++ ['/']) = pathPieces p := by
    rw [pathPieces, pieces_concat, List.filter_append]
    simp [pathPieces]
  rw [normalizedPath, hpieces, ← normalizedPath]

/-- **A path is the root, or normal without a slash at its end, or has one
slash behind what is normal.** -/
theorem IsPath.normal_cases (h : IsPath p) :
    p = ['/'] ∨ (p.getLast? ≠ some '/' ∧ normalizedPath p = p) ∨
      ∃ q, p = q ++ ['/'] ∧ q ≠ [] ∧ q.getLast? ≠ some '/' ∧ normalizedPath p = q := by
  by_cases hlast : p.getLast? = some '/'
  · obtain ⟨q, rfl⟩ := List.getLast?_eq_some_iff.1 hlast
    by_cases hq : q = []
    · exact Or.inl (by rw [hq, List.nil_append])
    · obtain ⟨hhead, hchain⟩ := isPath_iff_isChain.1 h
      rw [List.head?_append_of_ne_nil q hq] at hhead
      obtain ⟨hfront, -, hjoint⟩ := List.isChain_append.1 hchain
      have hend : q.getLast? ≠ some '/' := fun he => hjoint '/' he '/' rfl ⟨rfl, rfl⟩
      have hpath : IsPath q := isPath_iff_isChain.2 ⟨hhead, hfront⟩
      have hnormal : normalizedPath (q ++ ['/']) = q := by
        rw [normalizedPath_append_slash, hpath.normalizedPath_eq_self hend]
      exact Or.inr (Or.inr ⟨q, rfl, hq, hend, hnormal⟩)
  · exact Or.inr (Or.inl ⟨hlast, h.normalizedPath_eq_self hlast⟩)

/-- **Only the root ends with a slash after normalizing.** -/
theorem IsPath.getLast?_normalizedPath (h : IsPath p) :
    (normalizedPath p).getLast? = some '/' ↔ p = ['/'] := by
  rcases h.normal_cases with rfl | ⟨hlast, hnormal⟩ | ⟨q, rfl, hq, hend, hnormal⟩
  · exact ⟨fun _ => rfl, fun _ => rfl⟩
  · rw [hnormal]
    exact ⟨fun h => absurd h hlast, fun h => h ▸ rfl⟩
  · rw [hnormal]
    exact ⟨fun h => absurd h hend,
      fun h => absurd (List.append_eq_singleton_iff.1 h) (by simp [hq])⟩

/-! ## The normal form -/

/-- **A normal path** begins with a slash, has no two slashes in a row, and
ends with a slash only if it is the root. -/
structure IsNormal (p : List Char) : Prop where
  head?_eq : p.head? = some '/'
  not_isInfix : ¬ ['/', '/'] <:+: p
  root_of_getLast? : p.getLast? = some '/' → p = ['/']

/-- No two slashes stand side by side exactly if there are no two in a
row. -/
theorem isChain_notBothSlash_iff : s.IsChain NotBothSlash ↔ ¬ ['/', '/'] <:+: s := by
  rw [List.isChain_iff_forall_rel_of_append_cons_cons]
  constructor
  · rintro h ⟨before, after, rfl⟩
    exact h (List.append_assoc before ['/', '/'] after) ⟨rfl, rfl⟩
  · rintro h a b before after rfl ⟨rfl, rfl⟩
    exact h ⟨before, after, by simp⟩

theorem isNormal_iff : IsNormal p ↔ IsPath p ∧ (p.getLast? = some '/' → p = ['/']) := by
  rw [isPath_iff_isChain, isChain_notBothSlash_iff]
  exact ⟨fun h => ⟨⟨h.head?_eq, h.not_isInfix⟩, h.root_of_getLast?⟩,
    fun h => ⟨h.1.1, h.1.2, h.2⟩⟩

/-- **Normal paths are left alone.** -/
theorem IsNormal.normalizedPath_eq_self (h : IsNormal p) : normalizedPath p = p := by
  obtain ⟨hpath, hroot⟩ := isNormal_iff.1 h
  by_cases hlast : p.getLast? = some '/'
  · rw [hroot hlast]
    rfl
  · exact hpath.normalizedPath_eq_self hlast

theorem pathPieces_eq_splitOn (p : List Char) :
    pathPieces p = (p.splitOn '/').filter fun q => q ≠ [] := by
  rw [pathPieces, pieces_eq_splitOn]

/-- A piece of a path is not empty and has no slash. -/
theorem mem_pathPieces {q : List Char} (h : q ∈ pathPieces p) : q ≠ [] ∧ '/' ∉ q := by
  obtain ⟨hmem, hne⟩ := List.mem_filter.1 h
  exact ⟨of_decide_eq_true hne, not_mem_of_mem_pieces hmem⟩

/-- **What normalizing gives**: a slash, and the pieces with slashes between
them. -/
theorem normalizedPath_eq_join (p : List Char) :
    normalizedPath p = '/' :: join ['/'] (pathPieces p) := by
  rw [normalizedPath]
  split
  next hnil => rw [hnil, join]
  next hne =>
    rw [← flatMap_pieces, pieces_join hne fun q hq => (mem_pathPieces hq).2]

/-- The pieces of what normalizing gives, with an empty one in front. -/
theorem pieces_normalizedPath (hne : pathPieces p ≠ []) :
    pieces '/' (normalizedPath p) = [] :: pathPieces p := by
  rw [normalizedPath_eq_join, pieces, if_pos rfl,
    pieces_join hne fun q hq => (mem_pathPieces hq).2]

/-- **Normalizing keeps the pieces.** -/
theorem pathPieces_normalizedPath (p : List Char) :
    pathPieces (normalizedPath p) = pathPieces p := by
  by_cases hnil : pathPieces p = []
  · rw [normalizedPath, if_pos hnil, hnil]
    rfl
  · have hall : ∀ q ∈ pathPieces p, decide (q ≠ []) = true :=
      fun q hq => decide_eq_true (mem_pathPieces hq).1
    rw [pathPieces, pieces_normalizedPath hnil, List.filter_cons_of_neg (by simp),
      List.filter_eq_self.2 hall]

/-- **What comes out is normal.** -/
theorem isNormal_normalizedPath (p : List Char) : IsNormal (normalizedPath p) := by
  by_cases hnil : pathPieces p = []
  · have hroot : normalizedPath p = ['/'] := by rw [normalizedPath, if_pos hnil]
    rw [hroot]
    exact ⟨rfl, by decide, fun _ => rfl⟩
  · have hpieces := pieces_normalizedPath hnil
    refine isNormal_iff.2 ⟨⟨?_, fun q hq => ?_⟩, fun hlast => ?_⟩
    · rw [normalizedPath_eq_join, List.head?_cons]
    · rw [innerPieces, hpieces, List.tail_cons] at hq
      exact (mem_pathPieces (List.dropLast_subset _ hq)).1
    · -- a slash at the end would leave an empty piece behind it
      obtain ⟨init, hinit⟩ := List.getLast?_eq_some_iff.1 hlast
      have hend : (pieces '/' (normalizedPath p)).getLast? = some [] := by
        rw [hinit, pieces_concat, List.getLast?_concat]
      rw [hpieces, List.getLast?_cons_of_ne_nil hnil] at hend
      exact absurd rfl (mem_pathPieces (List.mem_of_getLast? hend)).1

/-- **The normal path of a text** is the one that has its pieces. -/
theorem normalizedPath_eq_iff :
    normalizedPath p = s ↔ IsNormal s ∧ pathPieces s = pathPieces p := by
  constructor
  · rintro rfl
    exact ⟨isNormal_normalizedPath p, pathPieces_normalizedPath p⟩
  · rintro ⟨hnormal, hpieces⟩
    rw [← hnormal.normalizedPath_eq_self, normalizedPath, normalizedPath, hpieces]

/-- Two texts have one normal path exactly if they have the same pieces. -/
theorem normalizedPath_eq_normalizedPath_iff :
    normalizedPath p = normalizedPath s ↔ pathPieces p = pathPieces s := by
  rw [normalizedPath_eq_iff, pathPieces_normalizedPath, eq_comm,
    and_iff_right (isNormal_normalizedPath s)]

/-- Requests have one path exactly if their targets have the same pieces. -/
theorem Call.path_ofRequest_eq_iff {r r' : Http.Request} :
    (ofRequest r).path = (ofRequest r').path ↔
      pathPieces r.target.path.toList = pathPieces r'.target.path.toList := by
  rw [ofRequest, ofRequest, String.ofList_inj, normalizedPath_eq_normalizedPath_iff]

/-- **Normalizing is canonical.** What comes out begins with a slash, has no
two in a row and ends with one only if it is the root; it has the pieces of
the text in their order, the empty ones left out; it stays as it is when it
is normalized again; and two texts give the same exactly if they have the
same pieces. -/
theorem normalizedPath_canonical (p : List Char) :
    (normalizedPath p).head? = some '/' ∧
      ¬ ['/', '/'] <:+: normalizedPath p ∧
      ((normalizedPath p).getLast? = some '/' ↔ normalizedPath p = ['/']) ∧
      ((normalizedPath p).splitOn '/').filter (fun q => q ≠ []) =
        (p.splitOn '/').filter (fun q => q ≠ []) ∧
      normalizedPath (normalizedPath p) = normalizedPath p ∧
      ∀ s, normalizedPath p = normalizedPath s ↔
        (p.splitOn '/').filter (fun q => q ≠ []) = (s.splitOn '/').filter (fun q => q ≠ []) := by
  have hnormal := isNormal_normalizedPath p
  simp only [← pathPieces_eq_splitOn]
  refine ⟨hnormal.head?_eq, hnormal.not_isInfix, ⟨hnormal.root_of_getLast?, ?_⟩,
    pathPieces_normalizedPath p, hnormal.normalizedPath_eq_self,
    fun s => normalizedPath_eq_normalizedPath_iff⟩
  exact fun hroot => hroot ▸ rfl

example : normalizedPath "//v1///ascents/".toList = "/v1/ascents".toList := by decide

end ApiGateway
