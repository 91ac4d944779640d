import ApiGateway.Proofs.Template.Canonical
import ApiGateway.Proofs.Template.Scores
import ApiGateway.Template.Pattern
import Mathlib.Algebra.BigOperators.Group.Finset.Basic
import Mathlib.Data.Finset.Range
/-!
# Templates — the score, from the placeholders of the whole

The score of a template scans each piece between slashes by itself, where
nothing is known of the braces in the pieces before. It makes no difference:
wherever the scanner stands, an opening brace, a name and a closing brace make
a placeholder of that name (`exists_placeholder_of_braces`), in the piece and
in the whole alike. The other way round, a placeholder without a slash in its
name lies in one piece with all its braces (`liesIn_iff`). So the pieces that
have a placeholder are those in which one of the whole template lies
(`hasPlaceholder_iff_mem_positions`), and the score is the sum of their
positions (`matchingScore_eq_sum_positions`).
-/

namespace ApiGateway

namespace Template

variable {t s inside before after p : List Char} {segments : List Segment} {segment : Segment}
  {k : Nat}

/-! ## Braces make a placeholder wherever they stand -/

/-- A text that is scanned leaves segments and something held. -/
theorem exists_scanFrom_append (st : Scanner) (s : List Char) :
    ∃ out next, writtenAll out ++ next.held = st.held ++ s ∧
      ∀ r, scanFrom st (s ++ r) = out ++ scanFrom next r := by
  induction s generalizing st with
  | nil => exact ⟨[], st, by rw [List.append_nil]; rfl, fun _ => rfl⟩
  | cons c s ih =>
    obtain ⟨out, next, hheld, hscan⟩ := ih (st.step c).2
    refine ⟨(st.step c).1 ++ out, next, ?_, fun r => ?_⟩
    · rw [Scanner.writtenAll_append, List.append_assoc, hheld, ← List.append_assoc,
        Scanner.writtenAll_step, List.append_assoc, List.singleton_append]
    · rw [List.cons_append, scanFrom, List.append_assoc, ← hscan]

/-- An opening brace leaves a placeholder open that has no name yet. -/
theorem exists_step_open (st : Scanner) :
    ∃ out p o, st.step '\x7b' = (out, .opened p (o + 1) []) := by
  cases st with
  | text p => exact ⟨[], p, 0, rfl⟩
  | opened p o n =>
    by_cases hn : n = []
    · exact ⟨[], p, o, by rw [Scanner.step, if_pos rfl, if_pos hn]⟩
    · exact ⟨[], p ++ List.replicate o '\x7b' ++ n, 0, by rw [Scanner.step, if_pos rfl, if_neg hn]⟩
  | closed p o n c => exact ⟨Scanner.flush p ++ [.placeholder o n c], [], 0, rfl⟩

/-- **Between braces stands a name**, whatever stands before them. -/
theorem exists_placeholder_of_braces (before after : List Char) (hopen : '\x7b' ∉ inside)
    (hclose : '\x7d' ∉ inside) :
    ∃ front o c back,
      scan (before ++ '\x7b' :: (inside ++ '\x7d' :: after)) =
        front ++ .placeholder (o + 1) inside c :: back ∧
      before = writtenAll front ++ List.replicate o '\x7b' := by
  obtain ⟨out, st, hheld, hscan⟩ := exists_scanFrom_append (.text []) before
  obtain ⟨out', p, o, hstep⟩ := exists_step_open st
  obtain ⟨c, rest, rfl, hrest⟩ := exists_eq_replicate_append '\x7d' after
  have hclosed : scanFrom (.opened p (o + 1) [])
      (inside ++ '\x7d' :: (List.replicate c '\x7d' ++ rest)) =
        Scanner.flush p ++ .placeholder (o + 1) inside (1 + c) :: scan rest := by
    rw [scanFrom_opened_name hopen hclose, List.nil_append, scanFrom, Scanner.step,
      if_neg (by decide), if_pos rfl]
    dsimp only
    rw [List.nil_append, scanFrom_closed_closes, scanFrom_closed hrest]
  refine ⟨out ++ out' ++ Scanner.flush p, o, 1 + c, scan rest, ?_, ?_⟩
  · rw [scan, hscan, scanFrom, hstep]
    dsimp only
    rw [hclosed]
    simp only [List.append_assoc]
  · have hwritten : (writtenAll out' ++ p ++ List.replicate o '\x7b') ++ ['\x7b'] =
        st.held ++ ['\x7b'] := by
      rw [← st.writtenAll_step, hstep, Scanner.held, List.replicate_succ']
      simp only [List.append_assoc, List.append_nil]
    rw [Scanner.writtenAll_append, Scanner.writtenAll_append, Scanner.writtenAll_flush]
    calc before
        = writtenAll out ++ st.held := hheld.symm
      _ = writtenAll out ++ (writtenAll out' ++ p ++ List.replicate o '\x7b') := by
          rw [List.append_cancel_right hwritten]
      _ = _ := by simp only [List.append_assoc]

/-- Text with a placeholder has a name between braces. -/
theorem exists_braces_of_hasPlaceholder (h : hasPlaceholder p = true) :
    ∃ before inside after, p = before ++ '\x7b' :: (inside ++ '\x7d' :: after) ∧
      '\x7b' ∉ inside ∧ '\x7d' ∉ inside := by
  obtain ⟨segment, hmem, hsome⟩ := List.any_eq_true.1 h
  obtain ⟨front, rest, hscan⟩ := List.append_of_mem hmem
  cases segment with
  | literal t => cases hsome
  | placeholder o n c =>
    obtain ⟨ho, hopen, hclose, hc⟩ := proper_of_mem_scan _ hmem
    obtain ⟨j, rfl⟩ : ∃ j, o = j + 1 := ⟨o - 1, by omega⟩
    obtain ⟨k, rfl⟩ : ∃ k, c = k + 1 := ⟨c - 1, by omega⟩
    refine ⟨writtenAll front ++ List.replicate j '\x7b', n,
      List.replicate k '\x7d' ++ writtenAll rest, ?_, hopen, hclose⟩
    rw [← writtenAll_scan p, hscan, Scanner.writtenAll_append, writtenAll_cons, Segment.written,
      List.replicate_succ', List.replicate_succ]
    simp only [List.append_assoc, List.cons_append, List.nil_append]

/-! ## Where a segment lies -/

/-- **A segment lies in a piece** of a text, behind so much of the text: the
pieces in front and a part of this one are before it. -/
def LiesIn (t before : List Char) (segment : Segment) (k : Nat) : Prop :=
  ∃ front left right back,
    Text.pieces '/' t = front ++ (left ++ segment.written ++ right) :: back ∧
      front.length = k ∧ Text.join ['/'] (front ++ [left]) = before

/-- Without a slash it lies in the piece that is reached there. -/
theorem liesIn_iff (hslash : '/' ∉ segment.written) (ht : t = before ++ segment.written ++ after) :
    LiesIn t before segment k ↔ before.count '/' = k := by
  constructor
  · rintro ⟨front, left, right, back, hpieces, rfl, hbefore⟩
    have hfree : ∀ q ∈ front ++ [left], '/' ∉ q := by
      intro q hq hmem
      rcases List.mem_append.1 hq with hq | hq
      · exact Text.not_mem_of_mem_pieces (hpieces ▸ List.mem_append_left _ hq) hmem
      · obtain rfl := List.mem_singleton.1 hq
        have hpiece : q ++ segment.written ++ right ∈ Text.pieces '/' t := by
          rw [hpieces]
          simp
        exact Text.not_mem_of_mem_pieces hpiece (by simp [hmem])
    have hlength := Text.length_pieces '/' before
    rw [Text.pieces_eq_iff.2 ⟨by simp, hbefore, hfree⟩, List.length_append,
      List.length_singleton] at hlength
    omega
  · rintro rfl
    obtain ⟨front, left, hbefore⟩ : ∃ front left, Text.pieces '/' before = front ++ [left] :=
      (List.eq_nil_or_concat' _).resolve_left (Text.pieces_ne_nil '/' before)
    obtain ⟨right, back, hafter⟩ := List.exists_cons_of_ne_nil (Text.pieces_ne_nil '/' after)
    refine ⟨front, left, right, back, ?_, ?_, ?_⟩
    · rw [ht]
      exact Text.pieces_append (Text.pieces_append hbefore (Text.pieces_of_not_mem hslash)) hafter
    · have hlength := Text.length_pieces '/' before
      rw [hbefore, List.length_append, List.length_singleton] at hlength
      exact Nat.add_right_cancel hlength
    · rw [← hbefore, Text.join_pieces]

/-- The positions of placeholders, with so many slashes before the first
segment. -/
def positionsFrom (k : Nat) : List Segment → List Nat
  | [] => []
  | segment :: rest =>
    (if segment.isPlaceholder then [k] else []) ++
      positionsFrom (k + segment.written.count '/') rest

/-- **The positions of the placeholders** of a template: for each of them, the
number of slashes before it. -/
def positions (t : List Char) : List Nat := positionsFrom 0 (scan t)

theorem mem_positionsFrom_iff {j : Nat} :
    j ∈ positionsFrom k segments ↔ ∃ front segment rest,
      segments = front ++ segment :: rest ∧ segment.isPlaceholder = true ∧
        k + (writtenAll front).count '/' = j := by
  induction segments generalizing k with
  | nil => simp [positionsFrom]
  | cons segment rest ih =>
    rw [positionsFrom, List.mem_append, ih]
    constructor
    · rintro (hfirst | ⟨front, s, after, rfl, hs, rfl⟩)
      · split at hfirst
        next hs =>
          obtain rfl := List.mem_singleton.1 hfirst
          exact ⟨[], segment, rest, rfl, hs, rfl⟩
        next => cases hfirst
      · refine ⟨segment :: front, s, after, rfl, hs, ?_⟩
        rw [writtenAll_cons, List.count_append, Nat.add_assoc]
    · rintro ⟨front, s, after, heq, hs, rfl⟩
      cases front with
      | nil =>
        obtain ⟨rfl, rfl⟩ := List.cons_eq_cons.1 heq
        exact .inl (by rw [if_pos hs]; exact List.mem_singleton.2 rfl)
      | cons _ front =>
        obtain ⟨rfl, rfl⟩ := List.cons_eq_cons.1 heq
        refine .inr ⟨front, s, after, rfl, hs, ?_⟩
        rw [writtenAll_cons, List.count_append, Nat.add_assoc]

theorem mem_positions_iff :
    k ∈ positions t ↔ ∃ front segment rest, scan t = front ++ segment :: rest ∧
      segment.isPlaceholder = true ∧ (writtenAll front).count '/' = k := by
  rw [positions, mem_positionsFrom_iff]
  simp only [Nat.zero_add]

theorem lt_length_of_mem_positions (h : k ∈ positions t) : k < (Text.pieces '/' t).length := by
  obtain ⟨front, segment, rest, hscan, -, rfl⟩ := mem_positions_iff.1 h
  rw [Text.length_pieces, ← writtenAll_scan t, hscan, Scanner.writtenAll_append, List.count_append]
  omega

/-- Behind a slash at the front, positions begin at one. -/
theorem pos_of_mem_positions (hslash : t.head? = some '/') (h : k ∈ positions t) : 0 < k := by
  obtain ⟨front, segment, rest, hscan, hs, rfl⟩ := mem_positions_iff.1 h
  have hproper : segment.Proper := by
    refine proper_of_mem_scan (t := t) segment ?_
    rw [hscan]
    exact List.mem_append_right _ List.mem_cons_self
  rw [← writtenAll_scan t, hscan, Scanner.writtenAll_append, writtenAll_cons] at hslash
  rw [List.count_pos_iff]
  cases hfront : writtenAll front with
  | nil =>
    cases segment with
    | literal => cases hs
    | placeholder o n c =>
      rw [hfront, List.nil_append, head?_written_append hproper] at hslash
      cases hslash
  | cons d before =>
    rw [hfront] at hslash
    exact Option.some.inj hslash ▸ List.mem_cons_self

/-! ## The pieces that have a placeholder -/

section Names

variable (hnames : ∀ name ∈ placeholderNames (scan t), '/' ∉ name)
include hnames

/-- If no name has a slash, no placeholder has one. -/
theorem slash_not_mem_of_isPlaceholder (hmem : segment ∈ scan t)
    (hs : segment.isPlaceholder = true) : '/' ∉ segment.written := by
  cases segment with
  | literal => cases hs
  | placeholder o n c =>
    exact slash_not_mem_written (hnames n (List.mem_filterMap.2 ⟨_, hmem, rfl⟩))

/-- Then each of them lies in one piece. -/
theorem liesIn_iff_of_scan {front rest : List Segment} (hscan : scan t = front ++ segment :: rest)
    (hs : segment.isPlaceholder = true) :
    LiesIn t (writtenAll front) segment k ↔ (writtenAll front).count '/' = k := by
  have hcut : t = writtenAll front ++ segment.written ++ writtenAll rest := by
    rw [← writtenAll_scan t, hscan, Scanner.writtenAll_append, writtenAll_cons, List.append_assoc]
  exact liesIn_iff (slash_not_mem_of_isPlaceholder hnames (hscan ▸ by simp) hs) hcut

/-- **The scan of a piece and the scan of the whole agree** on whether there is
a placeholder in the piece. -/
theorem hasPlaceholder_iff_mem_positions (hp : (Text.pieces '/' t)[k]? = some p) :
    hasPlaceholder p = true ↔ k ∈ positions t := by
  constructor
  · intro h
    obtain ⟨hlt, hget⟩ := List.getElem?_eq_some_iff.1 hp
    have hpieces : Text.pieces '/' t =
        (Text.pieces '/' t).take k ++ p :: (Text.pieces '/' t).drop (k + 1) := by
      rw [← hget, ← List.drop_eq_getElem_cons hlt, List.take_append_drop]
    obtain ⟨x, y, ht, hcount⟩ := Text.exists_append_of_pieces hpieces
    rw [List.length_take_of_le (Nat.le_of_lt hlt)] at hcount
    obtain ⟨before, inside, after, rfl, hopen, hclose⟩ := exists_braces_of_hasPlaceholder h
    obtain ⟨front, o, c, rest, hscan, hbefore⟩ :=
      exists_placeholder_of_braces (x ++ before) (after ++ y) hopen hclose
    have hwhole : x ++ before ++ '\x7b' :: (inside ++ '\x7d' :: (after ++ y)) = t := by
      rw [ht]
      simp only [List.append_assoc, List.cons_append]
    rw [hwhole] at hscan
    refine mem_positions_iff.2 ⟨front, _, rest, hscan, rfl, ?_⟩
    -- neither the piece nor the braces have a slash
    have hfree := Text.not_mem_of_mem_pieces (List.mem_of_getElem? hp)
    have hcount' := congrArg (List.count '/') hbefore
    rw [List.count_append, List.count_append, hcount,
      List.count_eq_zero.2 fun hmem => hfree (List.mem_append_left _ hmem),
      List.count_eq_zero.2 fun hmem => absurd (List.mem_replicate.1 hmem).2 (by decide)] at hcount'
    exact hcount'.symm
  · intro h
    obtain ⟨out, segment, rest, hscan, hs, hcount⟩ := mem_positions_iff.1 h
    have hmem : segment ∈ scan t := by
      rw [hscan]
      exact List.mem_append_right _ List.mem_cons_self
    obtain ⟨front, left, right, back, hpieces, rfl, -⟩ :=
      (liesIn_iff_of_scan hnames hscan hs).2 hcount
    rw [hpieces, List.getElem?_append_right (Nat.le_refl _), Nat.sub_self, List.getElem?_cons_zero,
      Option.some_inj] at hp
    cases segment with
    | literal => cases hs
    | placeholder o n c =>
      have hbraces := braces_sublist_written (proper_of_mem_scan _ hmem)
      rw [← hp, hasPlaceholder_iff]
      exact hbraces.trans (List.IsInfix.sublist ⟨left, right, rfl⟩)

end Names

/-! ## The sum -/

theorem scoreFrom_eq_sum (k : Nat) (ps : List (List Char)) :
    scoreFrom k ps =
      ∑ i ∈ Finset.range ps.length, if ps[i]?.any hasPlaceholder then k + i else 0 := by
  induction ps generalizing k with
  | nil => rfl
  | cons p ps ih =>
    rw [scoreFrom, ih, List.length_cons, Finset.sum_range_succ', Nat.add_comm]
    simp [Nat.add_assoc, Nat.add_comm 1]

theorem weight_eq_sum_positions (hnames : ∀ name ∈ placeholderNames (scan t), '/' ∉ name) :
    weight t = ∑ k ∈ (positions t).toFinset, k := by
  have hset : (positions t).toFinset = (Finset.range (Text.pieces '/' t).length).filter
      fun i => (Text.pieces '/' t)[i]?.any hasPlaceholder = true := by
    ext i
    rw [List.mem_toFinset, Finset.mem_filter, Finset.mem_range, Option.any_eq_true]
    constructor
    · intro hi
      have hlt := lt_length_of_mem_positions hi
      have hp := List.getElem?_eq_getElem hlt
      exact ⟨hlt, _, hp, (hasPlaceholder_iff_mem_positions hnames hp).2 hi⟩
    · rintro ⟨-, p, hp, hsome⟩
      exact (hasPlaceholder_iff_mem_positions hnames hp).1 hsome
  rw [weight, scoreFrom_eq_sum, hset, Finset.sum_filter]
  simp only [Nat.zero_add]

/-- With up to 92681 slashes, the sum fits into 32 bits. -/
theorem sum_positions_lt (hnames : ∀ name ∈ placeholderNames (scan t), '/' ∉ name)
    (h : t.count '/' ≤ 92681) : ∑ k ∈ (positions t).toFinset, k < Nat.pow 2 32 :=
  weight_eq_sum_positions hnames ▸ weight_lt h

/-- **The score of a template is the sum of the positions at which its
placeholders lie**, each position counted once: of a template that begins with
a slash, if no name has a slash and the sum fits. The positions are those of
the pieces with a placeholder, from one on. -/
theorem matchingScore_eq_sum_positions (hslash : t.head? = some '/')
    (hnames : ∀ name ∈ placeholderNames (scan t), '/' ∉ name)
    (hfits : ∑ k ∈ (positions t).toFinset, k < Nat.pow 2 32) :
    (∀ front segment rest, scan t = front ++ segment :: rest → segment.isPlaceholder = true →
      ∃ k, 1 ≤ k ∧ LiesIn t (writtenAll front) segment k) ∧
    (∀ k, k ∈ positions t ↔ ∃ front segment rest, scan t = front ++ segment :: rest ∧
      segment.isPlaceholder = true ∧ LiesIn t (writtenAll front) segment k) ∧
    (∀ k p, (Text.pieces '/' t)[k]? = some p → (hasPlaceholder p = true ↔ k ∈ positions t)) ∧
    (matchingScore t).val = ∑ k ∈ (positions t).toFinset, k := by
  refine ⟨fun front segment rest hscan hs => ?_, fun k => ?_,
    fun k p hp => hasPlaceholder_iff_mem_positions hnames hp, ?_⟩
  · have hmem : (writtenAll front).count '/' ∈ positions t :=
      mem_positions_iff.2 ⟨front, segment, rest, hscan, hs, rfl⟩
    exact ⟨_, pos_of_mem_positions hslash hmem, (liesIn_iff_of_scan hnames hscan hs).2 rfl⟩
  · rw [mem_positions_iff]
    refine exists_congr fun front => exists_congr fun segment => exists_congr fun rest => ?_
    refine and_congr_right fun hscan => and_congr_right fun hs => ?_
    rw [liesIn_iff_of_scan hnames hscan hs]
  · rw [matchingScore, ← weight, weight_eq_sum_positions hnames]
    exact Nat.mod_eq_of_lt hfits

/-- Braces that are not closed and that close nothing, repeated braces, and two
placeholders in one piece. -/
def unevenBraces : List Char := "/\x7ba/\x7b\x7bb\x7d\x7d/\x7dc/\x7bd\x7dx\x7be\x7d".toList

theorem matchingScore_unevenBraces :
    positions unevenBraces = [2, 4, 4] ∧ ∑ k ∈ (positions unevenBraces).toFinset, k = 6 ∧
      (∀ k p, (Text.pieces '/' unevenBraces)[k]? = some p →
        (hasPlaceholder p = true ↔ k ∈ positions unevenBraces)) ∧
      (matchingScore unevenBraces).val = ∑ k ∈ (positions unevenBraces).toFinset, k := by
  have hpositions : positions unevenBraces = [2, 4, 4] := by decide +kernel
  have hsum : ∑ k ∈ (positions unevenBraces).toFinset, k = 6 := by
    rw [hpositions]
    rfl
  have hnames : ∀ name ∈ placeholderNames (scan unevenBraces), '/' ∉ name := by decide +kernel
  have hfits : ∑ k ∈ (positions unevenBraces).toFinset, k < Nat.pow 2 32 :=
    sum_positions_lt hnames (by decide +kernel)
  exact ⟨hpositions, hsum, (matchingScore_eq_sum_positions rfl hnames hfits).2.2⟩

end Template

end ApiGateway
