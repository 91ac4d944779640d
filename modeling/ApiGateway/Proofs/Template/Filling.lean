import ApiGateway.Proofs.DistinctKeys
import ApiGateway.Proofs.Template.RoutingLanguage
import ApiGateway.Proofs.Template.Values
import Mathlib.Data.List.Nodup
/-!
# Templates — what is captured fills the template

The capture pattern cuts a path into the base path without its trailing
slashes, the literals of the template and one part for every placeholder.
So the parts fill the template again, each is a text that may be filled in,
and the path that comes of it is the one they were taken from
(`captured_captureItems_iff`): this holds of every cut, not only of the
greedy one. A path has captures exactly if the template can be filled so
that it gives the path, and it is then among the paths that the routing
pattern matches, if it is on one line (`captured_exact`).
-/

namespace ApiGateway

namespace Template

variable {base template path : List Char} {value : List Char → List Char}
  {segments : List Segment} {s : List Char} {parts : List (List Char)}

/-! ## The parts of a template -/

/-- The text of a literal is cut off and not kept. -/
theorem captured_literalItems_append_iff {t : List Char} {rest : Pattern} :
    Pattern.Captured (literalItems t ++ rest) s parts ↔
      ∃ tail, s = t ++ tail ∧ Pattern.Captured rest tail parts := by
  induction t generalizing s with
  | nil => simp [literalItems]
  | cons c t ih =>
    change Pattern.Captured (Pattern.Item.char c :: (literalItems t ++ rest)) s parts ↔ _
    rw [Pattern.captured_char_cons_iff]
    simp only [ih]
    constructor
    · rintro ⟨_, rfl, tail, rfl, htail⟩
      exact ⟨tail, rfl, htail⟩
    · rintro ⟨tail, rfl, htail⟩
      exact ⟨t ++ tail, rfl, tail, rfl, htail⟩

/-- A placeholder takes a part of the characters that it captures, and not
an empty one. -/
theorem captured_placeholder_cons_iff {o c : Nat} {name : List Char} {rest : List Segment} :
    Pattern.Captured (captureItems (.placeholder o name c :: rest)) s parts ↔
      ∃ part tail parts', s = part ++ tail ∧ parts = part :: parts' ∧ part ≠ [] ∧
        (∀ d ∈ part, (capturedSet name rest).has d = true) ∧
        Pattern.Captured (captureItems rest) tail parts' := by
  have hallows : ∀ {part : List Char},
      Pattern.Repetition.atLeastOnce.allows part.length = true ↔ part ≠ [] := fun {part} =>
    decide_eq_true_iff.trans List.length_pos_iff
  rw [captureItems_placeholder_cons, Pattern.captured_cons_iff]
  constructor
  · rintro ⟨part, tail, parts', hs, hparts, hset, hlen, hrest⟩
    exact ⟨part, tail, parts', hs, hparts, hallows.1 hlen, hset, hrest⟩
  · rintro ⟨part, tail, parts', hs, hparts, hne, hset, hrest⟩
    exact ⟨part, tail, parts', hs, hparts, hset, hallows.2 hne, hrest⟩

/-- One part is kept for every placeholder. -/
theorem length_of_captured (h : Pattern.Captured (captureItems segments) s parts) :
    parts.length = (placeholderNames segments).length := by
  induction segments generalizing s parts with
  | nil =>
    cases h
    rfl
  | cons segment rest ih =>
    cases segment with
    | literal t =>
      obtain ⟨tail, -, htail⟩ := captured_literalItems_append_iff.1 h
      exact ih htail
    | placeholder o name c =>
      obtain ⟨part, tail, parts', -, rfl, -, -, hrest⟩ := captured_placeholder_cons_iff.1 h
      exact congrArg Nat.succ (ih hrest)

/-- A value may be filled in exactly if it is not empty and of the
characters that the placeholder captures. -/
theorem fillable_placeholder_cons_iff {o c : Nat} {name : List Char} {rest : List Segment} :
    Fillable value (.placeholder o name c :: rest) ↔ value name ≠ [] ∧
      (∀ d ∈ value name, (capturedSet name rest).has d = true) ∧ Fillable value rest := by
  refine ⟨fun h => ⟨h.1, has_of_fillable h, h.2.2⟩, fun ⟨hne, hset, hrest⟩ => ⟨hne, ?_, hrest⟩⟩
  unfold capturedSet at hset
  split
  next hlast =>
    rw [if_pos hlast] at hset
    exact fun hmem => of_decide_eq_true (hset _ hmem) rfl
  next hlast =>
    rw [if_neg hlast] at hset
    exact fun hmem => of_decide_eq_true (hset _ hmem) rfl

/-- **What may be captured of a text** are values that fill the segments so
that they give the text. -/
theorem captured_captureItems_iff :
    Pattern.Captured (captureItems segments) s ((placeholderNames segments).map value) ↔
      Fillable value segments ∧ s = filledAll value segments := by
  induction segments generalizing s with
  | nil =>
    constructor
    · intro h
      cases h
      exact ⟨trivial, rfl⟩
    · rintro ⟨-, rfl⟩
      exact .nil
  | cons segment rest ih =>
    cases segment with
    | literal t =>
      change Pattern.Captured (literalItems t ++ captureItems rest) s _ ↔
        Fillable value rest ∧ s = t ++ filledAll value rest
      rw [captured_literalItems_append_iff]
      constructor
      · rintro ⟨tail, rfl, htail⟩
        obtain ⟨hfill, rfl⟩ := ih.1 htail
        exact ⟨hfill, rfl⟩
      · rintro ⟨hfill, rfl⟩
        exact ⟨_, rfl, ih.2 ⟨hfill, rfl⟩⟩
    | placeholder o name c =>
      change Pattern.Captured _ s (value name :: (placeholderNames rest).map value) ↔
        _ ∧ s = value name ++ filledAll value rest
      rw [captured_placeholder_cons_iff, fillable_placeholder_cons_iff]
      constructor
      · rintro ⟨part, tail, parts', rfl, hparts, hne, hset, hrest⟩
        obtain ⟨rfl, rfl⟩ := List.cons_eq_cons.1 hparts
        obtain ⟨hfill, rfl⟩ := ih.1 hrest
        exact ⟨⟨hne, hset, hfill⟩, rfl⟩
      · rintro ⟨⟨hne, hset, hfill⟩, rfl⟩
        exact ⟨_, _, _, rfl, rfl, hne, hset, ih.2 ⟨hfill, rfl⟩⟩

/-! ## The captures of a path -/

/-- Texts for distinct names are the values of the names. -/
theorem exists_value_of_nodup {names : List (List Char)} (hnames : names.Nodup)
    (hlen : parts.length = names.length) : ∃ value : List Char → List Char,
      parts = names.map value := by
  induction names generalizing parts with
  | nil => exact ⟨id, List.length_eq_zero_iff.1 hlen⟩
  | cons name names ih =>
    obtain ⟨hfresh, hnames⟩ := List.nodup_cons.1 hnames
    obtain ⟨part, parts, rfl⟩ := List.exists_cons_of_length_eq_add_one hlen
    obtain ⟨value, rfl⟩ := ih hnames (Nat.succ.inj hlen)
    refine ⟨Function.update value name part, ?_⟩
    rw [List.map_cons, Function.update_self]
    refine congrArg (part :: ·) (List.map_congr_left fun n hn => ?_)
    rw [Function.update_of_ne (ne_of_mem_of_not_mem hn hfresh)]

/-- Of the names that are not there nothing is read. -/
theorem get?_zip_map_of_not_mem {names : List (List Char)} {name : List Char}
    (h : name ∉ names) : OrderedMap.get? (names.zip (names.map value)) name = none := by
  rw [← Option.not_isSome_iff_eq_none, OrderedMap.isSome_get?_iff, OrderedMap.keys,
    List.map_fst_zip (by simp)]
  exact h

/-- To leave out the later pairs of a name changes nothing that is read. -/
theorem get?_firstOnly (m : OrderedMap (List Char) (List Char)) (name : List Char) :
    OrderedMap.get? (CapturePattern.captures.firstOnly m) name = OrderedMap.get? m name := by
  induction m with
  | nil => rfl
  | cons e m ih =>
    rw [CapturePattern.captures.firstOnly, OrderedMap.get?_cons, OrderedMap.get?_cons]
    by_cases he : e.1 = name
    · rw [if_pos he, if_pos he]
    · rw [if_neg he, if_neg he, OrderedMap.get?_filter (fun n => decide (n ≠ e.1)),
        if_pos (decide_eq_true (Ne.symm he)), ih]

/-- **All captures together are the single ones.** -/
theorem get?_captures (p : CapturePattern) (path name : List Char) :
    OrderedMap.get? (p.captures path) name = p.capture? path name := by
  rw [CapturePattern.captures, CapturePattern.capture?]
  cases Pattern.captures? p.items path with
  | none => rfl
  | some texts => exact get?_firstOnly _ name

/-- What is captured of a path are the values of the names. -/
theorem exists_value_of_captures? (hnames : (placeholderNames (scan template)).Nodup)
    (h : Pattern.captures? (CapturePattern.compile base template).items path = some parts) :
    ∃ value, parts = (placeholderNames (scan template)).map value := by
  obtain ⟨tail, -, htail⟩ :=
    captured_literalItems_append_iff.1 (Pattern.captured_of_captures? h)
  exact exists_value_of_nodup hnames (length_of_captured htail)

/-- **Values that are captured of a path** fill the template so that it
gives the path. -/
theorem filled_of_captures?
    (h : Pattern.captures? (CapturePattern.compile base template).items path =
      some ((placeholderNames (scan template)).map value)) :
    Fillable value (scan template) ∧
      path = trimmedBase base ++ filledAll value (scan template) := by
  obtain ⟨tail, rfl, htail⟩ :=
    captured_literalItems_append_iff.1 (Pattern.captured_of_captures? h)
  obtain ⟨hfill, rfl⟩ := captured_captureItems_iff.1 htail
  exact ⟨hfill, rfl⟩

/-- Something is captured of a path that the filled template gives. -/
theorem isSome_captures?_filledAll (base : List Char) (h : Fillable value (scan template)) :
    (Pattern.captures? (CapturePattern.compile base template).items
      (trimmedBase base ++ filledAll value (scan template))).isSome = true :=
  Pattern.isSome_captures?_iff.2 (fits_literalItems_append.2 ⟨_, rfl, fits_filledAll h⟩)

/-- What a name reads as, if the values of the names are captured. -/
theorem capture?_of_captures?
    (h : Pattern.captures? (CapturePattern.compile base template).items path =
      some ((placeholderNames (scan template)).map value)) (name : List Char) :
    (CapturePattern.compile base template).capture? path name =
      if name ∈ placeholderNames (scan template) then some (value name) else none := by
  rw [CapturePattern.capture?, h]
  by_cases hname : name ∈ placeholderNames (scan template)
  · rw [if_pos hname]
    exact get?_zip_map hname
  · rw [if_neg hname]
    exact get?_zip_map_of_not_mem hname

/-- Of a path with a capture all values of the names are captured. -/
theorem captures?_of_capture? {name text : List Char}
    (hnames : (placeholderNames (scan template)).Nodup)
    (h : (CapturePattern.compile base template).capture? path name = some text) :
    Pattern.captures? (CapturePattern.compile base template).items path =
      some ((placeholderNames (scan template)).map fun n =>
        ((CapturePattern.compile base template).capture? path n).getD []) := by
  cases hparts : Pattern.captures? (CapturePattern.compile base template).items path with
  | none =>
    rw [CapturePattern.capture?, hparts] at h
    cases h
  | some parts =>
    obtain ⟨value, rfl⟩ := exists_value_of_captures? hnames hparts
    refine congrArg some (List.map_congr_left fun n hn => ?_)
    rw [capture?_of_captures? hparts, if_pos hn, Option.getD_some]

/-! ## The routing pattern -/

/-- A filled template on one line is an instance of the template. -/
theorem instance_filledAll (hline : '\n' ∉ filledAll value segments) :
    Instance OnOneLine segments (filledAll value segments) := by
  induction segments with
  | nil => exact .nil
  | cons segment rest ih =>
    obtain ⟨hfirst, hrest⟩ := not_or.1 (mt List.mem_append.2 hline)
    refine .cons ?_ (ih hrest)
    cases segment with
    | literal t => exact .literal t
    | placeholder o name c => exact .placeholder hfirst

/-- The routing pattern, read as a text, matches what the filled template
gives on one line. -/
theorem exists_test_of_filled
    (hline : '\n' ∉ trimmedBase base ++ filledAll value (scan template)) :
    ∃ test, Pattern.reader (String.ofList (Pattern.written (routingPattern base template))) =
        some test ∧
      test (String.ofList (trimmedBase base ++ filledAll value (scan template))) = true := by
  refine ⟨_, Pattern.reader_anchored (routingPattern base template), ?_⟩
  rw [String.toList_ofList, Pattern.isMatch_iff_fits, fits_routingPattern_iff]
  exact ⟨_, rfl, instance_filledAll fun hmem => hline (List.mem_append_right _ hmem)⟩

/-- **What is captured of a path, exactly.** Let the placeholders of a
template have different names, and let a path be on one line. The captures
taken together are the single ones. The path has one exactly if the template
has placeholders and can be filled so that the base path without its trailing
slashes, followed by the filled template, is the path. Then each placeholder
has its capture and no other name has one; the captures are such values: none
is empty, and none holds a slash but that of a last placeholder that takes the
rest of the path. And the routing pattern, read as the text that it is written
as, matches the path. -/
theorem captured_exact (base : List Char) {template path : List Char}
    (hnames : (placeholderNames (scan template)).Nodup) (hline : '\n' ∉ path) :
    let p := CapturePattern.compile base template
    let value := fun name => (p.capture? path name).getD []
    (∀ name, OrderedMap.get? (p.captures path) name = p.capture? path name) ∧
    ((∃ name text, p.capture? path name = some text) ↔ placeholderNames (scan template) ≠ [] ∧
      ∃ v, Fillable v (scan template) ∧ path = trimmedBase base ++ filledAll v (scan template)) ∧
    ((∃ name text, p.capture? path name = some text) →
      (∀ name, (p.capture? path name).isSome = true ↔ name ∈ placeholderNames (scan template)) ∧
      path = trimmedBase base ++ filledAll value (scan template) ∧
      Fillable value (scan template) ∧
      ∃ test, Pattern.reader (String.ofList (Pattern.written (routingPattern base template))) =
          some test ∧
        test (String.ofList path) = true) := by
  intro p value
  have hall : ∀ {name text}, p.capture? path name = some text →
      Pattern.captures? p.items path = some ((placeholderNames (scan template)).map value) :=
    captures?_of_capture? hnames
  have hreads : ∀ {v : List Char → List Char},
      Pattern.captures? p.items path = some ((placeholderNames (scan template)).map v) →
      ∀ name, (p.capture? path name).isSome = true ↔ name ∈ placeholderNames (scan template) := by
    intro v hv name
    rw [capture?_of_captures? hv, Option.isSome_ite]
  refine ⟨get?_captures p path, ⟨?_, ?_⟩, ?_⟩
  · rintro ⟨name, text, h⟩
    have hmem : name ∈ placeholderNames (scan template) := (hreads (hall h) name).1 (h ▸ rfl)
    exact ⟨List.ne_nil_of_mem hmem, value, filled_of_captures? (hall h)⟩
  · rintro ⟨hsome, v, hfill, rfl⟩
    obtain ⟨name, hmem⟩ := List.exists_mem_of_ne_nil _ hsome
    -- The captures need not be the values of `v`: the greedy cut may be another one.
    obtain ⟨parts, hparts⟩ := Option.isSome_iff_exists.1 (isSome_captures?_filledAll base hfill)
    obtain ⟨v', rfl⟩ := exists_value_of_captures? hnames hparts
    exact ⟨name, Option.isSome_iff_exists.1 ((hreads hparts name).2 hmem)⟩
  · rintro ⟨name, text, h⟩
    obtain ⟨hfill, hpath⟩ := filled_of_captures? (hall h)
    refine ⟨hreads (hall h), hpath, hfill, ?_⟩
    rw [hpath] at hline ⊢
    exact exists_test_of_filled hline

/-- Of two placeholders side by side the first takes all but a character,
and the last one takes the rest of the path. -/
theorem captured_exact_adjacent :
    let base := "/v1/".toList
    let template := "/{a}{b}-{c}/{+rest}".toList
    let path := "/v1/xyz--q/r/s".toList
    let p := CapturePattern.compile base template
    (placeholderNames (scan template)).Nodup ∧ '\n' ∉ path ∧
    p.capture? path "a".toList = some "xyz".toList ∧
    p.capture? path "b".toList = some "-".toList ∧
    p.capture? path "+rest".toList = some "r/s".toList ∧
    path = trimmedBase base ++
      filledAll (fun name => (p.capture? path name).getD []) (scan template) := by
  intro base template path p
  have hnames : (placeholderNames (scan template)).Nodup := by decide +kernel
  have hline : '\n' ∉ path := by decide
  have hfirst : p.capture? path "a".toList = some "xyz".toList := by decide +kernel
  obtain ⟨-, -, hfilled⟩ := captured_exact base hnames hline
  exact ⟨hnames, hline, hfirst, by decide +kernel, by decide +kernel, (hfilled ⟨_, _, hfirst⟩).2.1⟩

end Template

end ApiGateway
