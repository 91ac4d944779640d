import ApiGateway.Proofs.Pattern.Captures
import ApiGateway.Proofs.Template.Instances
import ApiGateway.Proofs.Text.Cutting
/-!
# Templates — the values in a path

A template is filled with a value for each name (`filledAll`), and the
capture pattern takes the values out again (`capture_filled`). A placeholder
takes as much as it can, so this rests on where it has to stop: behind it
comes the end of the path or text that never changes, or a slash before the
next placeholder (`Apart`), and no value but a last one holds a slash. So a
filled template can be cut in one way only (`eq_part_of_fits`).

Placeholders with a slash between them are those of a template that has no
two in one piece, if no name holds a slash (`apart_scan`).
-/

namespace ApiGateway

namespace Template

variable {base template : List Char} {value : List Char → List Char} {segments : List Segment}
  {s tail tail' part part' : List Char}

/-- What stands for a segment: the literal text, or the value of the
name. -/
def Segment.filled (value : List Char → List Char) : Segment → List Char
  | literal t => t
  | placeholder _ name _ => value name

/-- **The template filled with values.** -/
def filledAll (value : List Char → List Char) (segments : List Segment) : List Char :=
  segments.flatMap (Segment.filled value)

/-- **What may be filled in**: text that is not empty, and holds no slash; or,
if the placeholder ends the template and takes the rest of the path, no line
feed. -/
def Fillable (value : List Char → List Char) : List Segment → Prop
  | [] => True
  | .literal _ :: rest => Fillable value rest
  | .placeholder _ name _ :: rest =>
    value name ≠ [] ∧
      (if rest = [] ∧ takesRest name then '\n' ∉ value name else '/' ∉ value name) ∧
      Fillable value rest

instance decidableFillable (value : List Char → List Char) :
    (segments : List Segment) → Decidable (Fillable value segments)
  | [] => isTrue trivial
  | .literal _ :: rest => decidableFillable value rest
  | .placeholder _ name _ :: rest =>
    have := decidableFillable value rest
    inferInstanceAs (Decidable (value name ≠ [] ∧
      (if rest = [] ∧ takesRest name then '\n' ∉ value name else '/' ∉ value name) ∧
      Fillable value rest))

/-! ## The text between placeholders -/

/-- The literal text before the first placeholder. -/
def leading : List Segment → List Char
  | [] => []
  | .literal t :: rest => t ++ leading rest
  | .placeholder .. :: _ => []

/-- **Every two placeholders have a slash between them.** -/
def Apart : List Segment → Prop
  | [] => True
  | .literal _ :: rest => Apart rest
  | .placeholder .. :: rest =>
    (placeholderNames rest = [] ∨ '/' ∈ leading rest) ∧ Apart rest

/-- A text that fits begins with the literal text before the first
placeholder, and is no more than that if there is none. -/
theorem exists_leading_of_fits (h : Pattern.Fits (captureItems segments) s) :
    ∃ tail, s = leading segments ++ tail ∧ (placeholderNames segments = [] → tail = []) := by
  induction segments generalizing s with
  | nil => exact ⟨[], by rw [Pattern.fits_nil_iff.1 h]; rfl, fun _ => rfl⟩
  | cons segment rest ih =>
    cases segment with
    | literal t =>
      obtain ⟨tail, rfl, htail⟩ := fits_literalItems_append.1 h
      obtain ⟨tail', rfl, hnone⟩ := ih htail
      exact ⟨tail', (List.append_assoc ..).symm, hnone⟩
    | placeholder o name c => exact ⟨s, rfl, fun hnone => absurd hnone (List.cons_ne_nil _ _)⟩

/-- **A part is cut off in one way only** before text that never changes, or
before a slash if it holds none. -/
theorem eq_part_of_fits (hcut : part ++ tail = part' ++ tail')
    (htail : Pattern.Fits (captureItems segments) tail)
    (htail' : Pattern.Fits (captureItems segments) tail')
    (hstop : placeholderNames segments = [] ∨
      '/' ∈ leading segments ∧ '/' ∉ part ∧ '/' ∉ part') : part' = part := by
  obtain ⟨after, rfl, hnone⟩ := exists_leading_of_fits htail
  obtain ⟨after', rfl, hnone'⟩ := exists_leading_of_fits htail'
  rcases hstop with hlast | ⟨hslash, hpart, hpart'⟩
  · rw [hnone hlast, hnone' hlast] at hcut
    exact (List.append_cancel_right hcut).symm
  · -- the first slash of both is the first one in the text between
    obtain ⟨front, back, hsplit, hfront⟩ := List.eq_append_cons_of_mem hslash
    have hfirst : (part ++ front) ++ '/' :: (back ++ after) =
        (part' ++ front) ++ '/' :: (back ++ after') := by
      simpa [hsplit] using hcut
    have hnot : ∀ {p : List Char}, '/' ∉ p → '/' ∉ p ++ front := fun hp hmem =>
      (List.mem_append.1 hmem).elim hp hfront
    obtain ⟨hsame, -⟩ := Text.append_sep_inj (hnot hpart) (hnot hpart') hfirst
    exact (List.append_cancel_right hsame).symm

/-! ## What is captured of a filled template -/

theorem captures?_literalItems_append (t : List Char) (rest : Pattern) (s : List Char) :
    Pattern.captures? (literalItems t ++ rest) (t ++ s) = Pattern.captures? rest s := by
  induction t with
  | nil => rfl
  | cons c t ih => exact (Pattern.captures?_char_cons c _ _).trans ih

/-- The characters that a placeholder before some segments captures. -/
def capturedSet (name : List Char) (rest : List Segment) : Pattern.CharSet :=
  if rest = [] ∧ takesRest name then .notLineFeed else .notSlash

theorem captureItems_placeholder_cons (o c : Nat) (name : List Char) (rest : List Segment) :
    captureItems (.placeholder o name c :: rest) =
      ⟨capturedSet name rest, .atLeastOnce, true⟩ :: captureItems rest := by
  rw [captureItems, capturedSet]
  split
  · rfl
  · rfl

/-- A value that may be filled in has no others. -/
theorem has_of_fillable {o c : Nat} {name : List Char} {rest : List Segment}
    (h : Fillable value (.placeholder o name c :: rest)) :
    ∀ d ∈ value name, (capturedSet name rest).has d = true := by
  obtain ⟨-, hset, -⟩ := h
  intro d hd
  unfold capturedSet
  split
  next hlast =>
    rw [if_pos hlast] at hset
    exact decide_eq_true (ne_of_mem_of_not_mem hd hset)
  next hlast =>
    rw [if_neg hlast] at hset
    exact decide_eq_true (ne_of_mem_of_not_mem hd hset)

/-- Before a slash it captures none. -/
theorem capturedSet_of_leading {name : List Char} {rest : List Segment}
    (h : '/' ∈ leading rest) : capturedSet name rest = .notSlash := by
  refine if_neg fun hlast => ?_
  rw [hlast.1] at h
  cases h

/-- A filled template fits. -/
theorem fits_filledAll (h : Fillable value segments) :
    Pattern.Fits (captureItems segments) (filledAll value segments) := by
  induction segments with
  | nil => exact .nil
  | cons segment rest ih =>
    cases segment with
    | literal t => exact fits_literalItems_append.2 ⟨_, rfl, ih h⟩
    | placeholder o name c =>
      have hset := has_of_fillable h
      obtain ⟨hne, -, hrest⟩ := h
      rw [captureItems_placeholder_cons]
      exact .cons hset (decide_eq_true (List.length_pos_iff.2 hne)) (ih hrest)

/-- **A filled template gives the values back**, in the order of the
placeholders. -/
theorem captures?_filledAll (hapart : Apart segments) (h : Fillable value segments) :
    Pattern.captures? (captureItems segments) (filledAll value segments) =
      some ((placeholderNames segments).map value) := by
  induction segments with
  | nil => rfl
  | cons segment rest ih =>
    cases segment with
    | literal t => exact (captures?_literalItems_append t _ _).trans (ih hapart h)
    | placeholder o name c =>
      have hset := has_of_fillable h
      obtain ⟨hne, -, hrest⟩ := h
      obtain ⟨hstop, hapart⟩ := hapart
      have hnoSlash : ∀ {p : List Char}, '/' ∈ leading rest →
          (∀ d ∈ p, (capturedSet name rest).has d = true) → '/' ∉ p := by
        intro p hslash hp hmem
        rw [capturedSet_of_leading hslash] at hp
        exact absurd (hp '/' hmem) (by decide)
      have hunique : ∀ part' tail', value name ++ filledAll value rest = part' ++ tail' →
          (∀ d ∈ part', (capturedSet name rest).has d = true) →
          Pattern.Fits (captureItems rest) tail' → part' = value name := by
        intro part' tail' hcut hset' hfits'
        refine eq_part_of_fits hcut (fits_filledAll hrest) hfits' (hstop.imp_right fun hslash => ?_)
        exact ⟨hslash, hnoSlash hslash hset, hnoSlash hslash hset'⟩
      rw [captureItems_placeholder_cons]
      calc Pattern.captures? (⟨capturedSet name rest, .atLeastOnce, true⟩ :: captureItems rest)
            (value name ++ filledAll value rest)
          = (Pattern.captures? (captureItems rest) (filledAll value rest)).map (value name :: ·) :=
            Pattern.captures?_cons_of_unique rfl nofun hset
              (decide_eq_true (List.length_pos_iff.2 hne)) (fits_filledAll hrest) hunique
        _ = some (value name :: (placeholderNames rest).map value) := by rw [ih hapart hrest]; rfl

/-! ## Placeholders in different pieces -/

/-- The first placeholder stands behind the literal text before it. -/
theorem exists_first_placeholder (h : placeholderNames segments ≠ []) :
    ∃ o name c rest, .placeholder o name c ∈ segments ∧ name ∈ placeholderNames segments ∧
      writtenAll segments =
        leading segments ++ (Segment.placeholder o name c).written ++ writtenAll rest := by
  induction segments with
  | nil => exact absurd rfl h
  | cons segment rest ih =>
    cases segment with
    | literal t =>
      obtain ⟨o, name, c, after, hmem, hname, hwritten⟩ := ih h
      refine ⟨o, name, c, after, List.mem_cons_of_mem _ hmem, hname, ?_⟩
      rw [writtenAll_cons, hwritten, leading, Segment.written]
      simp only [List.append_assoc]
    | placeholder o name c =>
      exact ⟨o, name, c, rest, List.mem_cons_self, List.mem_cons_self, rfl⟩

/-- Placeholders that are not apart have the braces of two in a text without
a slash. -/
theorem exists_braces_of_not_apart (hproper : ∀ x ∈ segments, x.Proper)
    (hnames : ∀ name ∈ placeholderNames segments, '/' ∉ name) (h : ¬ Apart segments) :
    ∃ word, '/' ∉ word ∧ (braces 2).Sublist word ∧ word <:+: writtenAll segments := by
  induction segments with
  | nil => exact absurd trivial h
  | cons segment rest ih =>
    have hproper' : ∀ x ∈ rest, x.Proper := fun x hx => hproper x (List.mem_cons_of_mem _ hx)
    cases segment with
    | literal t =>
      obtain ⟨word, hword, hbraces, hinfix⟩ := ih hproper' hnames h
      exact ⟨word, hword, hbraces, hinfix.trans (List.suffix_append _ _).isInfix⟩
    | placeholder o name c =>
      have hnames' : ∀ n ∈ placeholderNames rest, '/' ∉ n := fun n hn =>
        hnames n (List.mem_cons_of_mem _ hn)
      by_cases hrest : Apart rest
      · -- this placeholder and the next one are in one piece
        have hstop : ¬ (placeholderNames rest = [] ∨ '/' ∈ leading rest) := fun hs => h ⟨hs, hrest⟩
        obtain ⟨hsome, hslash⟩ := not_or.1 hstop
        obtain ⟨o', name', c', after, hmem, hname', hwritten⟩ := exists_first_placeholder hsome
        refine ⟨(Segment.placeholder o name c).written ++ (leading rest ++
          (Segment.placeholder o' name' c').written), ?_, ?_, ?_⟩
        · rw [List.mem_append, List.mem_append, not_or, not_or]
          exact ⟨slash_not_mem_written (hnames name List.mem_cons_self), hslash,
            slash_not_mem_written (hnames' name' hname')⟩
        · have hfirst := braces_sublist_written (hproper _ List.mem_cons_self)
          have hnext := braces_sublist_written (hproper' _ hmem)
          exact hfirst.append (hnext.trans (List.sublist_append_right _ _))
        · rw [writtenAll_cons, hwritten, ← List.append_assoc _ (_ ++ _)]
          exact (List.prefix_append _ _).isInfix
      · obtain ⟨word, hword, hbraces, hinfix⟩ := ih hproper' hnames' hrest
        exact ⟨word, hword, hbraces, hinfix.trans (List.suffix_append _ _).isInfix⟩

theorem length_placeholderNames (segments : List Segment) :
    (placeholderNames segments).length = segments.countP Segment.isPlaceholder := by
  induction segments with
  | nil => rfl
  | cons segment rest ih =>
    cases segment with
    | literal t =>
      rw [List.countP_cons_of_neg Bool.false_ne_true]
      exact ih
    | placeholder o name c =>
      rw [List.countP_cons_of_pos rfl, ← ih]
      rfl

/-- **The placeholders of a template are apart** if no piece has two, and no
name holds a slash. -/
theorem apart_scan (hnames : ∀ name ∈ placeholderNames (scan template), '/' ∉ name)
    (hpieces : ∀ p ∈ Text.pieces '/' template, (placeholderNames (scan p)).length ≤ 1) :
    Apart (scan template) := by
  by_contra h
  obtain ⟨word, hword, hbraces, hinfix⟩ := exists_braces_of_not_apart proper_of_mem_scan hnames h
  rw [writtenAll_scan] at hinfix
  obtain ⟨p, hp, hinside⟩ := Text.exists_isInfix_piece_iff.2 ⟨hword, hinfix⟩
  have htwo := lt_countP_scan_iff.2 (hbraces.trans hinside.sublist)
  rw [← length_placeholderNames] at htwo
  exact Nat.not_le_of_lt htwo (hpieces p hp)

/-! ## The values of the names -/

theorem get?_zip_map {names : List (List Char)} {name : List Char} (h : name ∈ names) :
    OrderedMap.get? (names.zip (names.map value)) name = some (value name) := by
  induction names with
  | nil => cases h
  | cons n names ih =>
    rw [List.map_cons, List.zip_cons_cons, OrderedMap.get?_cons]
    by_cases hn : n = name
    · rw [if_pos hn, hn]
    · rw [if_neg hn, ih ((List.mem_cons.1 h).resolve_left (Ne.symm hn))]

/-- **The values that fill a template are captured again.** No name holds a
slash, no piece of the template has two placeholders, and the values may be
filled in; they go by name, so placeholders of one name share theirs. Then
the capture pattern gives for each name its value, of the path that is the
base path without its trailing slashes and the filled template. -/
theorem capture_filled (hnames : ∀ name ∈ placeholderNames (scan template), '/' ∉ name)
    (hpieces : ∀ p ∈ Text.pieces '/' template, (placeholderNames (scan p)).length ≤ 1)
    (hvalues : Fillable value (scan template)) :
    ∀ name ∈ placeholderNames (scan template),
      (CapturePattern.compile base template).capture?
        (trimmedBase base ++ filledAll value (scan template)) name = some (value name) := by
  intro name hname
  have hcaptures : Pattern.captures? (CapturePattern.compile base template).items
      (trimmedBase base ++ filledAll value (scan template)) =
      some ((placeholderNames (scan template)).map value) :=
    (captures?_literalItems_append (trimmedBase base) _ _).trans
      (captures?_filledAll (apart_scan hnames hpieces) hvalues)
  rw [CapturePattern.capture?, hcaptures]
  exact get?_zip_map hname

/-- A crag, and the rest of a path. -/
def cragOrRest (name : List Char) : List Char :=
  if name = "crag".toList then "7yy".toList else "a/b".toList

/-- A value that ends like the letter behind it, and a rest of several
pieces. -/
theorem capture_filled_crag :
    filledAll cragOrRest (scan "/crags/x{crag}y/{+rest}".toList) = "/crags/x7yyy/a/b".toList ∧
      placeholderNames (scan "/crags/x{crag}y/{+rest}".toList) =
        ["crag".toList, "+rest".toList] ∧
      ∀ name ∈ placeholderNames (scan "/crags/x{crag}y/{+rest}".toList),
        (CapturePattern.compile "/v1/".toList "/crags/x{crag}y/{+rest}".toList).capture?
          (trimmedBase "/v1/".toList ++
            filledAll cragOrRest (scan "/crags/x{crag}y/{+rest}".toList)) name =
          some (cragOrRest name) := by
  refine ⟨by decide +kernel, by decide +kernel, capture_filled ?_ ?_ ?_⟩
  · decide +kernel
  · decide +kernel
  · decide +kernel

end Template

end ApiGateway
