import ApiGateway.Proofs.Template.Scanning
import Mathlib.Data.List.Chain
/-!
# Templates — the one way to cut a template into segments

From where no brace is open, the scanner does one of five things, and which
of them is seen from the braces (`Scans`): the template ends; the next
character is no opening brace; a run of opening braces is followed by a name
and the end, or by a name and another opening brace, and is text; or it is
followed by a name and closing braces. The scanner does what the relation
says (`scans_scanFrom`), so what it finds can be shown by induction on it.

The segments of a template are canonical (`Canonical`): no literal has a
placeholder in it, and no literal takes anything from what is beside it. A
text has one canonical cut only, which is the one that is scanned
(`scan_eq_iff`).
-/

namespace ApiGateway

namespace Template

variable {p t m n rest : List Char} {o c k : Nat} {segments : List Segment}

/-! ## From one brace to the next -/

/-- A run of opening braces is counted. -/
theorem scanFrom_opened_opens (k : Nat) :
    scanFrom (.opened p o []) (List.replicate k '\x7b' ++ t) =
      scanFrom (.opened p (o + k) []) t := by
  induction k generalizing o with
  | zero => rfl
  | succ k ih =>
    rw [List.replicate_succ, List.cons_append, scanFrom, Scanner.step, if_pos rfl, if_pos rfl]
    dsimp only
    rw [ih, List.nil_append, Nat.add_assoc, Nat.add_comm 1]

/-- Text behind it goes to the name. -/
theorem scanFrom_opened_name (hopen : '\x7b' ∉ m) (hclose : '\x7d' ∉ m) :
    scanFrom (.opened p o n) (m ++ t) = scanFrom (.opened p o (n ++ m)) t := by
  induction m generalizing n with
  | nil => rw [List.nil_append, List.append_nil]
  | cons d m ih =>
    obtain ⟨hd, hopen⟩ := not_or.1 fun h => hopen (List.mem_cons.2 h)
    obtain ⟨hd', hclose⟩ := not_or.1 fun h => hclose (List.mem_cons.2 h)
    rw [List.cons_append, scanFrom, Scanner.step, if_neg (Ne.symm hd), if_neg (Ne.symm hd')]
    dsimp only
    rw [ih hopen hclose, List.nil_append, List.append_assoc, List.singleton_append]

/-- A run of closing braces is counted. -/
theorem scanFrom_closed_closes (k : Nat) :
    scanFrom (.closed p o n c) (List.replicate k '\x7d' ++ t) =
      scanFrom (.closed p o n (c + k)) t := by
  induction k generalizing c with
  | zero => rfl
  | succ k ih =>
    rw [List.replicate_succ, List.cons_append, scanFrom, Scanner.step, if_pos rfl]
    dsimp only
    rw [ih, List.nil_append, Nat.add_assoc, Nat.add_comm 1]

/-- Where no further closing brace comes, text and placeholder go out. -/
theorem scanFrom_closed (h : t.head? ≠ some '\x7d') :
    scanFrom (.closed p o n c) t = Scanner.flush p ++ .placeholder o n c :: scan t := by
  cases t with
  | nil => rfl
  | cons d t =>
    have hd : d ≠ '\x7d' := fun hd => h (by rw [List.head?_cons, hd])
    by_cases hopen : d = '\x7b'
    · simp [scan, scanFrom, Scanner.step, hopen]
    · simp [scan, scanFrom, Scanner.step, hd, hopen]

/-- Opening braces and a name are held as that. -/
theorem scanFrom_text_open (ho : 0 < o) (hopen : '\x7b' ∉ n) (hclose : '\x7d' ∉ n) :
    scanFrom (.text p) (List.replicate o '\x7b' ++ n ++ t) = scanFrom (.opened p o n) t := by
  obtain ⟨k, rfl⟩ : ∃ k, o = 1 + k := ⟨o - 1, by omega⟩
  rw [List.replicate_add, List.replicate_one, List.append_assoc, List.append_assoc,
    List.singleton_append, scanFrom, Scanner.step, if_pos rfl]
  dsimp only
  rw [List.nil_append, scanFrom_opened_opens, scanFrom_opened_name hopen hclose, List.nil_append]

/-- **Opening braces that nothing closes** are text. -/
theorem scanFrom_text_unclosed (ho : 0 < o) (hopen : '\x7b' ∉ n) (hclose : '\x7d' ∉ n) :
    scanFrom (.text p) (List.replicate o '\x7b' ++ n) =
      Scanner.flush (p ++ List.replicate o '\x7b' ++ n) := by
  have hend := scanFrom_text_open (p := p) (t := []) ho hopen hclose
  rwa [List.append_nil] at hend

/-- **A placeholder goes out** with the text before it. -/
theorem scanFrom_text_placeholder (hproper : (Segment.placeholder o n c).Proper)
    (h : t.head? ≠ some '\x7d') :
    scanFrom (.text p) ((Segment.placeholder o n c).written ++ t) =
      Scanner.flush p ++ .placeholder o n c :: scan t := by
  obtain ⟨ho, hopen, hclose, hc⟩ := hproper
  obtain ⟨k, rfl⟩ : ∃ k, c = 1 + k := ⟨c - 1, by omega⟩
  rw [Segment.written, List.append_assoc, scanFrom_text_open ho hopen hclose, List.replicate_add,
    List.replicate_one, List.append_assoc, List.singleton_append, scanFrom, Scanner.step,
    if_neg (by decide), if_pos rfl]
  dsimp only
  rw [List.nil_append, scanFrom_closed_closes, scanFrom_closed h]

/-- **An opening brace behind a name** makes text of what is open. -/
theorem scanFrom_text_again (ho : 0 < o) (hne : n ≠ []) (hopen : '\x7b' ∉ n)
    (hclose : '\x7d' ∉ n) :
    scanFrom (.text p) (List.replicate o '\x7b' ++ n ++ '\x7b' :: t) =
      scanFrom (.text (p ++ List.replicate o '\x7b' ++ n)) ('\x7b' :: t) := by
  rw [scanFrom_text_open ho hopen hclose]
  simp [scanFrom, Scanner.step, hne]

/-! ## How a template begins -/

/-- A list is a run of one element and what goes on with another. -/
theorem exists_eq_replicate_append {α : Type} [DecidableEq α] (a : α) (s : List α) :
    ∃ k rest, s = List.replicate k a ++ rest ∧ rest.head? ≠ some a := by
  induction s with
  | nil => exact ⟨0, [], rfl, by simp⟩
  | cons b s ih =>
    by_cases hb : b = a
    · obtain ⟨k, rest, rfl, hrest⟩ := ih
      exact ⟨k + 1, rest, by rw [List.replicate_succ, hb, List.cons_append], hrest⟩
    · exact ⟨0, b :: s, rfl, by simpa using hb⟩

theorem head?_replicate_append {α : Type} {a : α} (hk : 0 < k) (s : List α) :
    (List.replicate k a ++ s).head? = some a := by
  rw [List.head?_append, List.head?_replicate, if_neg (Nat.ne_of_gt hk), Option.some_or]

/-- A placeholder begins with an opening brace. -/
theorem head?_written_append (h : (Segment.placeholder o n c).Proper) (t : List Char) :
    ((Segment.placeholder o n c).written ++ t).head? = some '\x7b' := by
  rw [Segment.written, List.append_assoc, List.append_assoc, head?_replicate_append h.1]

/-- A text is a name without braces, and ends or goes on with a brace. -/
theorem exists_eq_name_append (s : List Char) :
    ∃ n rest, s = n ++ rest ∧ '\x7b' ∉ n ∧ '\x7d' ∉ n ∧
      (rest = [] ∨ rest.head? = some '\x7b' ∨ rest.head? = some '\x7d') := by
  induction s with
  | nil => exact ⟨[], [], rfl, List.not_mem_nil, List.not_mem_nil, .inl rfl⟩
  | cons d s ih =>
    by_cases hopen : d = '\x7b'
    · exact ⟨[], d :: s, rfl, List.not_mem_nil, List.not_mem_nil, .inr (.inl (by rw [hopen]; rfl))⟩
    by_cases hclose : d = '\x7d'
    · exact ⟨[], d :: s, rfl, List.not_mem_nil, List.not_mem_nil, .inr (.inr (by rw [hclose]; rfl))⟩
    obtain ⟨n, rest, rfl, hn, hn', hrest⟩ := ih
    refine ⟨d :: n, rest, rfl, ?_, ?_, hrest⟩
    · simp [hn, Ne.symm hopen]
    · simp [hn', Ne.symm hclose]

/-- **How a template begins.** -/
inductive Begins : List Char → Prop where
  /-- It is empty. -/
  | ends : Begins []
  /-- With a character that opens no placeholder. -/
  | plain {rest : List Char} {d : Char} : d ≠ '\x7b' → Begins (d :: rest)
  /-- With opening braces, and no other brace comes. -/
  | unclosed {n : List Char} {o : Nat} :
      0 < o → '\x7b' ∉ n → '\x7d' ∉ n → Begins (List.replicate o '\x7b' ++ n)
  /-- With opening braces, and another one opens behind a name. -/
  | again {n rest : List Char} {o : Nat} :
      0 < o → n ≠ [] → '\x7b' ∉ n → '\x7d' ∉ n →
      Begins (List.replicate o '\x7b' ++ n ++ '\x7b' :: rest)
  /-- With a placeholder. -/
  | closed {n rest : List Char} {o c : Nat} :
      (Segment.placeholder o n c).Proper → rest.head? ≠ some '\x7d' →
      Begins ((Segment.placeholder o n c).written ++ rest)

theorem begins (t : List Char) : Begins t := by
  obtain ⟨o, r, rfl, hr⟩ := exists_eq_replicate_append '\x7b' t
  rcases Nat.eq_zero_or_pos o with rfl | ho
  · cases r with
    | nil => exact .ends
    | cons d r => exact .plain fun hd => hr (by rw [List.head?_cons, hd])
  obtain ⟨n, rest, rfl, hopen, hclose, hrest⟩ := exists_eq_name_append r
  rw [← List.append_assoc]
  rcases hrest with rfl | hrest | hrest
  · rw [List.append_nil]
    exact .unclosed ho hopen hclose
  · obtain ⟨rest, rfl⟩ := List.head?_eq_some_iff.1 hrest
    have hne : n ≠ [] := by
      rintro rfl
      exact hr rfl
    exact .again ho hne hopen hclose
  · obtain ⟨c, rest, rfl, hrest'⟩ := exists_eq_replicate_append '\x7d' rest
    have hc : 0 < c := by
      rcases Nat.eq_zero_or_pos c with rfl | hc
      · exact absurd hrest hrest'
      · exact hc
    rw [← List.append_assoc, ← Segment.written]
    exact .closed ⟨ho, hopen, hclose, hc⟩ hrest'

/-! ## What the scanner does, told by the braces -/

/-- **With text held and nothing open, the rest of a template is scanned into
segments.** -/
inductive Scans : List Char → List Char → List Segment → Prop where
  /-- The template ends. -/
  | ends (p : List Char) : Scans p [] (Scanner.flush p)
  /-- A character that opens no placeholder is text. -/
  | plain {p rest : List Char} {d : Char} {segments : List Segment} :
      d ≠ '\x7b' → Scans (p ++ [d]) rest segments → Scans p (d :: rest) segments
  /-- A brace that is open at the end is text. -/
  | unclosed {p n : List Char} {o : Nat} :
      0 < o → '\x7b' ∉ n → '\x7d' ∉ n →
      Scans p (List.replicate o '\x7b' ++ n)
        (Scanner.flush (p ++ List.replicate o '\x7b' ++ n))
  /-- So is one that is open where another one opens. -/
  | again {p n rest : List Char} {o : Nat} {segments : List Segment} :
      0 < o → n ≠ [] → '\x7b' ∉ n → '\x7d' ∉ n →
      Scans (p ++ List.replicate o '\x7b' ++ n) ('\x7b' :: rest) segments →
      Scans p (List.replicate o '\x7b' ++ n ++ '\x7b' :: rest) segments
  /-- A run of closing braces makes a placeholder of it. -/
  | closed {p n rest : List Char} {o c : Nat} {segments : List Segment} :
      (Segment.placeholder o n c).Proper → rest.head? ≠ some '\x7d' → Scans [] rest segments →
      Scans p ((Segment.placeholder o n c).written ++ rest)
        (Scanner.flush p ++ .placeholder o n c :: segments)

/-- **The scanner does what is told by the braces.** -/
theorem scans_scanFrom (p t : List Char) : Scans p t (scanFrom (.text p) t) := by
  induction hlength : t.length using Nat.strong_induction_on generalizing p t with
  | _ l ih =>
  subst hlength
  cases begins t with
  | ends => exact .ends p
  | @plain rest d hd =>
    have hmem : '\x7b' ∉ [d] := by simpa using Ne.symm hd
    have hnext := ih rest.length (by simp) (p ++ [d]) rest rfl
    rw [← scanFrom_text_append p hmem] at hnext
    exact .plain hd hnext
  | @unclosed n o ho hopen hclose =>
    rw [scanFrom_text_unclosed ho hopen hclose]
    exact .unclosed ho hopen hclose
  | again ho hne hopen hclose =>
    rw [scanFrom_text_again ho hne hopen hclose]
    exact .again ho hne hopen hclose (ih _ (by simp; omega) _ _ rfl)
  | closed hproper hhead =>
    rw [scanFrom_text_placeholder hproper hhead]
    have := hproper.1
    exact .closed hproper hhead (ih _ (by simp [Segment.written]; omega) _ _ rfl)

/-- What is held and what is scanned make up the segments. -/
theorem Scans.writtenAll_eq (h : Scans p t segments) : writtenAll segments = p ++ t := by
  induction h with
  | ends p => rw [Scanner.writtenAll_flush, List.append_nil]
  | plain _ _ ih => rw [ih, List.append_assoc, List.singleton_append]
  | unclosed => rw [Scanner.writtenAll_flush, List.append_assoc]
  | again _ _ _ _ _ ih => rw [ih, List.append_assoc, List.append_assoc, List.append_assoc]
  | closed _ _ _ ih =>
    rw [Scanner.writtenAll_append, Scanner.writtenAll_flush, writtenAll_cons, ih, List.nil_append]

/-! ## Text without placeholders -/

theorem hasPlaceholder_of_sublist (hsub : m.Sublist t) (h : hasPlaceholder t = false) :
    hasPlaceholder m = false := by
  rw [← Bool.not_eq_true, hasPlaceholder_iff] at h ⊢
  exact fun hm => h (hm.trans hsub)

theorem hasPlaceholder_written (h : (Segment.placeholder o n c).Proper) :
    hasPlaceholder ((Segment.placeholder o n c).written ++ t) = true :=
  hasPlaceholder_iff.2 ((braces_sublist_written h).trans (List.sublist_append_left _ _))

/-- Text without closing braces adds no placeholder. -/
theorem hasPlaceholder_append (hp : hasPlaceholder p = false) (hclose : '\x7d' ∉ m) :
    hasPlaceholder (p ++ m) = false := by
  rw [← Bool.not_eq_true, hasPlaceholder_iff] at hp ⊢
  intro h
  obtain ⟨front, back, hcut, hfront, hback⟩ := List.sublist_append_iff.1 h
  rcases List.eq_nil_or_concat back with rfl | ⟨back, d, rfl⟩
  · rw [List.append_nil] at hcut
    exact hp (hcut ▸ hfront)
  · -- the last of the two braces is in what was added
    rw [List.concat_eq_append, ← List.append_assoc] at hcut
    obtain rfl : '\x7d' = d := by
      have h := congrArg List.getLast? hcut
      simpa using h
    exact hclose (hback.subset (by simp))

/-- Text without placeholders is one literal at most. -/
theorem Scans.eq_flush (h : Scans p t segments) (hplain : hasPlaceholder t = false) :
    segments = Scanner.flush (p ++ t) := by
  induction h with
  | ends p => rw [List.append_nil]
  | plain _ _ ih =>
    rw [ih (hasPlaceholder_of_sublist (List.sublist_cons_self _ _) hplain), List.append_assoc,
      List.singleton_append]
  | unclosed => rw [List.append_assoc]
  | again _ _ _ _ _ ih =>
    rw [ih (hasPlaceholder_of_sublist (List.sublist_append_right _ _) hplain), List.append_assoc,
      List.append_assoc, List.append_assoc]
  | closed hproper =>
    rw [hasPlaceholder_written hproper] at hplain
    cases hplain

/-- Text without placeholders is held, up to an opening brace that is not its
own. -/
theorem Scans.scanFrom_append (h : Scans p t segments) (hplain : hasPlaceholder t = false)
    (hlast : t.getLast? ≠ some '\x7b') (rest : List Char) :
    scanFrom (.text p) (t ++ '\x7b' :: rest) = scanFrom (.text (p ++ t)) ('\x7b' :: rest) := by
  induction h with
  | ends p => rw [List.append_nil, List.nil_append]
  | @plain p t d segments hd _ ih =>
    have hlast' : t.getLast? ≠ some '\x7b' := fun ht =>
      hlast (by rw [List.getLast?_cons, ht, Option.getD_some])
    have hmem : '\x7b' ∉ [d] := by simpa using Ne.symm hd
    rw [List.cons_append, ← List.singleton_append, scanFrom_text_append p hmem,
      ih (hasPlaceholder_of_sublist (List.sublist_cons_self _ _) hplain) hlast', List.append_assoc,
      List.singleton_append]
  | @unclosed p n o ho hopen hclose =>
    have hne : n ≠ [] := by
      rintro rfl
      rw [List.append_nil, List.getLast?_replicate, if_neg (Nat.ne_of_gt ho)] at hlast
      exact hlast rfl
    rw [scanFrom_text_again ho hne hopen hclose, List.append_assoc p]
  | @again p n t o segments ho hne hopen hclose _ ih =>
    have hlast' : ('\x7b' :: t).getLast? ≠ some '\x7b' := by
      rwa [List.getLast?_append_of_ne_nil _ (List.cons_ne_nil _ _)] at hlast
    rw [List.append_assoc _ ('\x7b' :: t), List.cons_append,
      scanFrom_text_again ho hne hopen hclose, ← List.cons_append,
      ih (hasPlaceholder_of_sublist (List.sublist_append_right _ _) hplain) hlast']
    simp only [List.append_assoc]
  | closed hproper =>
    rw [hasPlaceholder_written hproper] at hplain
    cases hplain

/-! ## Canonical segments -/

namespace Segment

/-- A literal has text and no placeholder in it, and a placeholder a name
without braces between braces. -/
def Whole : Segment → Prop
  | literal t => t ≠ [] ∧ hasPlaceholder t = false
  | placeholder o n c => (placeholder o n c).Proper

/-- Two segments may stand side by side if neither takes anything from the
other. -/
def MayPrecede : Segment → Segment → Prop
  | literal _, literal _ => False
  | literal t, placeholder .. => t.getLast? ≠ some '\x7b'
  | placeholder .., literal t => t.head? ≠ some '\x7d'
  | placeholder .., placeholder .. => True

end Segment

/-- **Segments are canonical** if each is whole and each may stand before the
next one. -/
structure Canonical (segments : List Segment) : Prop where
  whole : ∀ s ∈ segments, s.Whole
  chain : segments.IsChain Segment.MayPrecede

theorem canonical_cons_iff {s : Segment} :
    Canonical (s :: segments) ↔
      s.Whole ∧ (∀ x ∈ segments.head?, s.MayPrecede x) ∧ Canonical segments := by
  constructor
  · rintro ⟨hwhole, hchain⟩
    obtain ⟨hs, hrest⟩ := List.forall_mem_cons.1 hwhole
    obtain ⟨hlink, hchain⟩ := List.isChain_cons.1 hchain
    exact ⟨hs, hlink, hrest, hchain⟩
  · rintro ⟨hs, hlink, hrest, hchain⟩
    exact ⟨List.forall_mem_cons.2 ⟨hs, hrest⟩, List.isChain_cons.2 ⟨hlink, hchain⟩⟩

theorem canonical_flush_append (hp : hasPlaceholder p = false)
    (hlink : ∀ x ∈ segments.head?, (Segment.literal p).MayPrecede x) (h : Canonical segments) :
    Canonical (Scanner.flush p ++ segments) := by
  unfold Scanner.flush
  split
  next => exact h
  next hne => exact canonical_cons_iff.2 ⟨⟨hne, hp⟩, hlink, h⟩

theorem canonical_flush (hp : hasPlaceholder p = false) : Canonical (Scanner.flush p) := by
  have h := canonical_flush_append hp (by simp) ⟨by simp, .nil⟩
  rwa [List.append_nil] at h

/-- What stands behind a placeholder begins with no closing brace exactly if
the placeholder may stand before it. -/
theorem head?_writtenAll_ne_iff (h : Canonical segments) :
    (writtenAll segments).head? ≠ some '\x7d' ↔
      ∀ x ∈ segments.head?, (Segment.placeholder o n c).MayPrecede x := by
  cases segments with
  | nil => simp [writtenAll]
  | cons s segments =>
    obtain ⟨hs, -, -⟩ := canonical_cons_iff.1 h
    cases s with
    | literal t =>
      have hhead : (writtenAll (.literal t :: segments)).head? = t.head? :=
        List.head?_append_of_ne_nil t hs.1
      simp [hhead, Segment.MayPrecede]
    | placeholder o' n' c' =>
      rw [writtenAll_cons, head?_written_append hs]
      simp [Segment.MayPrecede]

/-- **What is scanned is canonical**, if what is held is text and nothing of
it is open. -/
theorem Scans.canonical (h : Scans p t segments) (hp : hasPlaceholder p = false)
    (hlast : p.getLast? ≠ some '\x7b') (hopen : '\x7b' ∈ p → t.head? = some '\x7b') :
    Canonical segments := by
  have hunclosed : ∀ {p n : List Char} {o : Nat}, hasPlaceholder p = false → '\x7d' ∉ n →
      hasPlaceholder (p ++ List.replicate o '\x7b' ++ n) = false := by
    intro p n o hp hclose
    refine hasPlaceholder_append (hasPlaceholder_append hp fun h => ?_) hclose
    exact absurd (List.mem_replicate.1 h).2 (by decide)
  induction h with
  | ends p => exact canonical_flush hp
  | @plain p rest d segments hd _ ih =>
    have hfree : '\x7b' ∉ p ++ [d] := by
      have hp : '\x7b' ∉ p := fun h => hd (Option.some.inj (hopen h))
      simpa [hp] using Ne.symm hd
    refine ih ?_ ?_ fun h => absurd h hfree
    · rw [← Bool.not_eq_true, hasPlaceholder_iff]
      exact fun h => hfree (h.subset (by simp))
    · simpa using hd
  | unclosed _ _ hclose => exact canonical_flush (hunclosed hp hclose)
  | @again p n rest o segments _ hne hname hclose _ ih =>
    refine ih (hunclosed hp hclose) (fun h => ?_) fun _ => rfl
    rw [List.getLast?_append_of_ne_nil _ hne] at h
    exact hname (List.mem_of_getLast? h)
  | @closed p n rest o c segments hproper hhead hrest ih =>
    have hcanonical := ih (by decide) (by simp) (by simp)
    have hbehind : ∀ x ∈ segments.head?, (Segment.placeholder o n c).MayPrecede x := by
      rw [← head?_writtenAll_ne_iff hcanonical, hrest.writtenAll_eq]
      exact hhead
    refine canonical_flush_append hp ?_ (canonical_cons_iff.2 ⟨hproper, hbehind, hcanonical⟩)
    simpa [Segment.MayPrecede] using hlast

/-- **A template is cut into canonical segments.** -/
theorem canonical_scan (t : List Char) : Canonical (scan t) :=
  (scans_scanFrom [] t).canonical (by decide) (by simp) (by simp)

/-- **Canonical segments are scanned as they are.** -/
theorem scan_writtenAll (h : Canonical segments) : scan (writtenAll segments) = segments := by
  induction segments with
  | nil => rfl
  | cons s segments ih =>
    obtain ⟨hs, hlink, hrest⟩ := canonical_cons_iff.1 h
    cases s with
    | placeholder o n c =>
      have hhead := (head?_writtenAll_ne_iff hrest).2 hlink
      calc scan ((Segment.placeholder o n c).written ++ writtenAll segments)
          = Scanner.flush [] ++ .placeholder o n c :: scan (writtenAll segments) :=
            scanFrom_text_placeholder hs hhead
        _ = .placeholder o n c :: segments := by rw [ih hrest]; rfl
    | literal t =>
      obtain ⟨hne, hplain⟩ := hs
      have hflush : Scanner.flush t = [.literal t] := if_neg hne
      cases segments with
      | nil =>
        calc scan (t ++ [])
            = Scanner.flush ([] ++ t) := by
              rw [List.append_nil]
              exact (scans_scanFrom [] t).eq_flush hplain
          _ = [.literal t] := hflush
      | cons s' rest =>
        obtain ⟨hs', hlink', hrest'⟩ := canonical_cons_iff.1 hrest
        cases s' with
        | literal t' => exact (hlink (.literal t') rfl).elim
        | placeholder o n c =>
          have hlast : t.getLast? ≠ some '\x7b' := hlink (.placeholder o n c) rfl
          have hhead := (head?_writtenAll_ne_iff hrest').2 hlink'
          have hout : ∀ p, scanFrom (.text p) (writtenAll (.placeholder o n c :: rest)) =
              Scanner.flush p ++ .placeholder o n c :: scan (writtenAll rest) :=
            fun p => scanFrom_text_placeholder hs' hhead
          obtain ⟨after, hopen⟩ : ∃ after, writtenAll (.placeholder o n c :: rest) =
              '\x7b' :: after :=
            List.head?_eq_some_iff.1 (head?_written_append hs' (writtenAll rest))
          calc scan (t ++ writtenAll (.placeholder o n c :: rest))
              = scanFrom (.text t) (writtenAll (.placeholder o n c :: rest)) := by
                rw [hopen]
                exact (scans_scanFrom [] t).scanFrom_append hplain hlast after
            _ = Scanner.flush t ++ scan (writtenAll (.placeholder o n c :: rest)) := by
                rw [scan, hout, hout]
                rfl
            _ = .literal t :: .placeholder o n c :: rest := by rw [hflush, ih hrest]; rfl

/-- **The one way to cut a template.** -/
theorem scan_eq_iff : scan t = segments ↔ Canonical segments ∧ writtenAll segments = t := by
  constructor
  · rintro rfl
    exact ⟨canonical_scan t, writtenAll_scan t⟩
  · rintro ⟨h, rfl⟩
    exact scan_writtenAll h

/-- One brace on either side is as good as many. -/
theorem Canonical.simplified (h : Canonical segments) :
    Canonical (segments.map Segment.simplified) := by
  have hwhole : ∀ s : Segment, s.Whole → s.simplified.Whole := by
    rintro (t | ⟨o, n, c⟩) hs
    · exact hs
    · exact ⟨Nat.one_pos, hs.2.1, hs.2.2.1, Nat.one_pos⟩
  have hlink : ∀ s s' : Segment, s.MayPrecede s' ↔ s.simplified.MayPrecede s'.simplified := by
    rintro (_ | _) (_ | _) <;> exact Iff.rfl
  refine ⟨fun s' hs' => ?_, ?_⟩
  · obtain ⟨s, hs, rfl⟩ := List.mem_map.1 hs'
    exact hwhole s (h.whole s hs)
  · rw [List.isChain_map]
    exact h.chain.imp fun s s' => (hlink s s').1

/-- **A template with one brace on either side of each placeholder** has the
same names and the same text between them. -/
theorem scan_writtenAll_simplified (t : List Char) :
    scan (writtenAll ((scan t).map Segment.simplified)) = (scan t).map Segment.simplified :=
  scan_writtenAll (canonical_scan t).simplified

end Template

end ApiGateway
