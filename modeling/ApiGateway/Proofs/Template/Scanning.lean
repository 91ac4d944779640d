import ApiGateway.Template.Scan
/-!
# Templates — what the scanner finds

The segments of a template make up the template (`writtenAll_scan`),
and each of them has something in it (`proper_of_mem_scan`): a literal has
text, and a placeholder has braces on either side and none in its name.
Both follow from what one character does to the text that the scanner
holds. So does how many placeholders a text has: as many as pairs of an
opening and a later closing brace come one after the other
(`lt_countP_scan_iff`). A text has one if an opening brace comes before a
closing one (`hasPlaceholder_iff`).
-/

namespace ApiGateway

namespace Template

/-- The text of segments, as a template has it. -/
def writtenAll (segments : List Segment) : List Char := segments.flatMap Segment.written

theorem writtenAll_cons (segment : Segment) (segments : List Segment) :
    writtenAll (segment :: segments) = segment.written ++ writtenAll segments := rfl

/-- A segment has text, or a name without braces between braces. -/
def Segment.Proper : Segment → Prop
  | literal t => t ≠ []
  | placeholder o n c => 0 < o ∧ '\x7b' ∉ n ∧ '\x7d' ∉ n ∧ 0 < c

namespace Scanner

/-- The text that the scanner holds. -/
def held : Scanner → List Char
  | text p => p
  | opened p o n => p ++ List.replicate o '\x7b' ++ n
  | closed p o n c => p ++ List.replicate o '\x7b' ++ n ++ List.replicate c '\x7d'

/-- What is held as a placeholder would be a proper one. -/
def Proper : Scanner → Prop
  | text _ => True
  | opened _ o n => 0 < o ∧ '\x7b' ∉ n ∧ '\x7d' ∉ n
  | closed _ o n c => 0 < o ∧ '\x7b' ∉ n ∧ '\x7d' ∉ n ∧ 0 < c

theorem writtenAll_flush (p : List Char) : writtenAll (flush p) = p := by
  unfold flush
  split
  next h => rw [h]; rfl
  next => simp [writtenAll, Segment.written]

theorem proper_of_mem_flush {p : List Char} {s : Segment} (h : s ∈ flush p) : s.Proper := by
  unfold flush at h
  split at h
  next => cases h
  next hp =>
    obtain rfl := List.mem_singleton.1 h
    exact hp

theorem writtenAll_append (xs ys : List Segment) :
    writtenAll (xs ++ ys) = writtenAll xs ++ writtenAll ys := List.flatMap_append

/-- **One character** goes to what is complete or to what is held. -/
theorem writtenAll_step (st : Scanner) (c : Char) :
    writtenAll (st.step c).1 ++ (st.step c).2.held = st.held ++ [c] := by
  cases st with
  | text p =>
    simp only [step]
    split
    next h => simp [writtenAll, held, h]
    next => simp [writtenAll, held]
  | opened p o n =>
    simp only [step]
    split
    next hc =>
      split
      next hn => simp [writtenAll, held, hc, hn, List.replicate_succ']
      next => simp [writtenAll, held, hc]
    next =>
      split
      next hc => simp [writtenAll, held, hc]
      next => simp [writtenAll, held]
  | closed p o n k =>
    simp only [step]
    split
    next hc => simp [writtenAll, held, hc, List.replicate_succ']
    next =>
      have hclosed : writtenAll (flush p ++ [.placeholder o n k]) = (closed p o n k).held := by
        rw [writtenAll_append, writtenAll_flush]
        simp [writtenAll, Segment.written, held]
      rw [hclosed]
      split
      next hc => simp [held, hc]
      next => simp [held]

theorem proper_step {st : Scanner} (h : st.Proper) (c : Char) :
    (∀ s ∈ (st.step c).1, s.Proper) ∧ (st.step c).2.Proper := by
  cases st with
  | text p =>
    simp only [step]
    split
    · exact ⟨fun s hs => absurd hs List.not_mem_nil, Nat.one_pos, List.not_mem_nil,
        List.not_mem_nil⟩
    · exact ⟨fun s hs => absurd hs List.not_mem_nil, trivial⟩
  | opened p o n =>
    obtain ⟨ho, hopen, hclose⟩ := h
    simp only [step]
    split
    next =>
      split
      · exact ⟨fun s hs => absurd hs List.not_mem_nil, Nat.succ_pos o, List.not_mem_nil,
          List.not_mem_nil⟩
      · exact ⟨fun s hs => absurd hs List.not_mem_nil, Nat.one_pos, List.not_mem_nil,
          List.not_mem_nil⟩
    next hc =>
      split
      next => exact ⟨fun s hs => absurd hs List.not_mem_nil, ho, hopen, hclose, Nat.one_pos⟩
      next hc' =>
        refine ⟨fun s hs => absurd hs List.not_mem_nil, ho, ?_, ?_⟩
        · simp [hopen, Ne.symm hc]
        · simp [hclose, Ne.symm hc']
  | closed p o n k =>
    obtain ⟨ho, hopen, hclose, hk⟩ := h
    simp only [step]
    split
    next => exact ⟨fun s hs => absurd hs List.not_mem_nil, ho, hopen, hclose, Nat.succ_pos k⟩
    next =>
      refine ⟨fun s hs => ?_, ?_⟩
      · rcases List.mem_append.1 hs with hs | hs
        · exact proper_of_mem_flush hs
        · rw [List.mem_singleton.1 hs]
          exact ⟨ho, hopen, hclose, hk⟩
      · split
        · exact ⟨Nat.one_pos, List.not_mem_nil, List.not_mem_nil⟩
        · trivial

theorem writtenAll_finish (st : Scanner) : writtenAll st.finish = st.held := by
  cases st with
  | text p => exact writtenAll_flush p
  | opened p o n => exact writtenAll_flush _
  | closed p o n k =>
    rw [finish, writtenAll_append, writtenAll_flush]
    simp [writtenAll, Segment.written, held]

theorem proper_finish {st : Scanner} (h : st.Proper) : ∀ s ∈ st.finish, s.Proper := by
  cases st with
  | text p => exact fun s hs => proper_of_mem_flush hs
  | opened p o n => exact fun s hs => proper_of_mem_flush hs
  | closed p o n k =>
    intro s hs
    rcases List.mem_append.1 hs with hs | hs
    · exact proper_of_mem_flush hs
    · rw [List.mem_singleton.1 hs]
      exact h

end Scanner

theorem writtenAll_scanFrom (st : Scanner) (t : List Char) :
    writtenAll (scanFrom st t) = st.held ++ t := by
  induction t generalizing st with
  | nil => rw [scanFrom, Scanner.writtenAll_finish, List.append_nil]
  | cons c t ih =>
    rw [scanFrom, Scanner.writtenAll_append, ih, ← List.append_assoc, Scanner.writtenAll_step,
      List.append_assoc, List.singleton_append]

/-- **The segments of a template make it up.** -/
theorem writtenAll_scan (t : List Char) : writtenAll (scan t) = t := writtenAll_scanFrom _ t

theorem proper_of_mem_scanFrom {st : Scanner} (h : st.Proper) {t : List Char} :
    ∀ s ∈ scanFrom st t, s.Proper := by
  induction t generalizing st with
  | nil => exact Scanner.proper_finish h
  | cons c t ih =>
    obtain ⟨hdone, hnext⟩ := Scanner.proper_step h c
    intro s hs
    rcases List.mem_append.1 hs with hs | hs
    · exact hdone s hs
    · exact ih hnext s hs

/-- **Every segment of a template has something in it.** -/
theorem proper_of_mem_scan {t : List Char} : ∀ s ∈ scan t, s.Proper :=
  proper_of_mem_scanFrom (show (Scanner.text []).Proper from trivial)

/-- Text that opens no brace is held as it is. -/
theorem scanFrom_text_append (p : List Char) {m t : List Char} (hm : '\x7b' ∉ m) :
    scanFrom (.text p) (m ++ t) = scanFrom (.text (p ++ m)) t := by
  induction m generalizing p with
  | nil => rw [List.nil_append, List.append_nil]
  | cons c m ih =>
    obtain ⟨hc, hm⟩ := not_or.1 fun h => hm (List.mem_cons.2 h)
    rw [List.cons_append, scanFrom, Scanner.step, if_neg (Ne.symm hc)]
    dsimp only
    rw [ih (p ++ [c]) hm, List.nil_append, List.append_assoc, List.singleton_append]

/-! ## How many placeholders a text has -/

/-- The braces of so many placeholders. -/
def braces : Nat → List Char
  | 0 => []
  | n + 1 => '\x7b' :: '\x7d' :: braces n

namespace Scanner

/-- The braces that make a placeholder of what the scanner holds, once they
have come in this order. -/
def awaited : Scanner → List Char
  | text _ => ['\x7b', '\x7d']
  | opened .. => ['\x7d']
  | closed .. => []

theorem countP_isPlaceholder_flush (p : List Char) :
    (flush p).countP Segment.isPlaceholder = 0 := by
  unfold flush
  split <;> rfl

theorem countP_isPlaceholder_finish (st : Scanner) :
    st.finish.countP Segment.isPlaceholder = if st.awaited = [] then 1 else 0 := by
  cases st with
  | text p => exact countP_isPlaceholder_flush p
  | opened p o n => exact countP_isPlaceholder_flush _
  | closed p o n k =>
    rw [finish, List.countP_append, countP_isPlaceholder_flush]
    rfl

/-- One character brings out a placeholder, and may open the next; or the
first brace that is awaited, or nothing. -/
theorem countP_isPlaceholder_step (st : Scanner) (c : Char) :
    (st.step c).1.countP Segment.isPlaceholder = 1 ∧ st.awaited = [] ∧
        (st.step c).2.awaited = (if c = '\x7b' then ['\x7d'] else ['\x7b', '\x7d']) ∨
      (st.step c).1.countP Segment.isPlaceholder = 0 ∧ (st.awaited = [] → c = '\x7d') ∧
        (st.step c).2.awaited =
          if st.awaited.head? = some c then st.awaited.tail else st.awaited := by
  cases st with
  | text p =>
    by_cases hc : c = '\x7b'
    · simp [step, awaited, hc]
    · simp [step, awaited, hc, Ne.symm hc]
  | opened p o n =>
    by_cases hc : c = '\x7b'
    · by_cases hn : n = [] <;> simp [step, awaited, hc, hn]
    · by_cases hc' : c = '\x7d'
      · simp [step, awaited, hc']
      · simp [step, awaited, hc, hc', Ne.symm hc']
  | closed p o n k =>
    by_cases hc : c = '\x7d'
    · simp [step, awaited, hc]
    · by_cases hc' : c = '\x7b' <;>
        simp [step, awaited, hc, hc', Segment.isPlaceholder, countP_isPlaceholder_flush]

end Scanner

/-- A word is spread over a text if what its first character leaves of it is
spread over the rest. -/
theorem sublist_cons_iff_head {w t : List Char} {c : Char} :
    w.Sublist (c :: t) ↔ (if w.head? = some c then w.tail else w).Sublist t := by
  cases w with
  | nil => simp
  | cons b bs =>
    by_cases hb : b = c
    · simp [hb]
    · simp [hb, List.sublist_cons_iff]

/-- **More than so many placeholders come out** exactly if the braces come
that are awaited, and those of so many more. -/
theorem lt_countP_scanFrom_iff (st : Scanner) (n : Nat) (t : List Char) :
    n < (scanFrom st t).countP Segment.isPlaceholder ↔ (st.awaited ++ braces n).Sublist t := by
  induction t generalizing st n with
  | nil =>
    rw [scanFrom, Scanner.countP_isPlaceholder_finish, List.sublist_nil, List.append_eq_nil_iff]
    cases n <;> split <;> simp_all [braces]
  | cons c t ih =>
    rw [scanFrom, List.countP_append, sublist_cons_iff_head]
    rcases st.countP_isPlaceholder_step c with ⟨hout, hnone, hnext⟩ | ⟨hout, hnone, hnext⟩
    · -- one is out, and the braces of the others are still to come
      rw [hout, hnone]
      cases n with
      | zero => simp [braces, Nat.add_comm 1]
      | succ n =>
        rw [Nat.add_comm 1, Nat.add_lt_add_iff_right, ih, hnext]
        by_cases hc : c = '\x7b'
        · simp [braces, hc]
        · simp [braces, hc, Ne.symm hc]
    · rw [hout, Nat.zero_add, ih, hnext]
      cases hw : st.awaited with
      | nil =>
        obtain rfl := hnone hw
        cases n <;> simp [braces]
      | cons b bs => by_cases hb : b = c <;> simp [hb]

/-- **A text has more than so many placeholders** exactly if the braces of
one more come in it in their order. -/
theorem lt_countP_scan_iff {n : Nat} {t : List Char} :
    n < (scan t).countP Segment.isPlaceholder ↔ (braces (n + 1)).Sublist t :=
  lt_countP_scanFrom_iff (.text []) n t

/-- The braces of a placeholder come in it in their order. -/
theorem braces_sublist_written {o c : Nat} {name : List Char}
    (h : (Segment.placeholder o name c).Proper) :
    List.Sublist ['\x7b', '\x7d'] (Segment.placeholder o name c).written := by
  obtain ⟨ho, -, -, hc⟩ := h
  have hopen : '\x7b' ∈ List.replicate o '\x7b' ++ name :=
    List.mem_append_left _ (List.mem_replicate.2 ⟨Nat.ne_of_gt ho, rfl⟩)
  have hclose : '\x7d' ∈ List.replicate c '\x7d' :=
    List.mem_replicate.2 ⟨Nat.ne_of_gt hc, rfl⟩
  exact (List.singleton_sublist.2 hopen).append (List.singleton_sublist.2 hclose)

theorem slash_not_mem_written {o c : Nat} {name : List Char} (h : '/' ∉ name) :
    '/' ∉ (Segment.placeholder o name c).written := by
  simp [Segment.written, h]

/-- **A text has a placeholder** exactly if an opening brace comes before a
closing one. -/
theorem hasPlaceholder_iff {t : List Char} :
    hasPlaceholder t = true ↔ List.Sublist ['\x7b', '\x7d'] t := by
  rw [hasPlaceholder, List.any_eq_true, ← List.countP_pos_iff]
  exact lt_countP_scan_iff

end Template

end ApiGateway
