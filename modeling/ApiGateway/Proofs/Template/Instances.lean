import ApiGateway.Proofs.Paths
import ApiGateway.Proofs.Pattern.Language
import ApiGateway.Proofs.Template.Scanning
import ApiGateway.Template.Pattern
import Mathlib.Data.List.DropRight
/-!
# Templates — their instances

An instance of a template has a value in the place of every placeholder
(`Instance`). The routing pattern matches the base path without its
trailing slashes followed by an instance, where a value is any text
without a line feed, and nothing else (`fits_routingPattern_iff`).

Of values that are not empty and hold no slash an instance takes no slash
and hides none: it has two slashes side by side only if the template has
(`Instance.isChain`), and it begins or ends with a slash exactly if the
template does (`Instance.head?_eq_slash`, `Instance.getLast?_eq_slash_iff`).
-/

namespace ApiGateway

namespace Template

variable {allowed : List Char → Prop} {segments : List Segment} {s : List Char}

/-- What may stand for a segment: for a literal its own text, and for a
placeholder any value that is allowed. -/
inductive Fills (allowed : List Char → Prop) : Segment → List Char → Prop where
  | literal (t : List Char) : Fills allowed (.literal t) t
  | placeholder {o c : Nat} {name v : List Char} :
      allowed v → Fills allowed (.placeholder o name c) v

/-- **A text is an instance of segments** if it is made of one part for
each of them. -/
inductive Instance (allowed : List Char → Prop) : List Segment → List Char → Prop where
  | nil : Instance allowed [] []
  | cons {segment : Segment} {segments : List Segment} {part s : List Char} :
      Fills allowed segment part → Instance allowed segments s →
      Instance allowed (segment :: segments) (part ++ s)

/-- A value without a line feed. -/
def OnOneLine (v : List Char) : Prop := '\n' ∉ v

/-- A value that is one piece of a path: it is not empty, and has neither a
slash nor a line feed. -/
def OnePiece (v : List Char) : Prop := v ≠ [] ∧ '/' ∉ v ∧ OnOneLine v

instance (v : List Char) : Decidable (OnOneLine v) := inferInstanceAs (Decidable (_ ∉ _))

instance (v : List Char) : Decidable (OnePiece v) := inferInstanceAs (Decidable (_ ∧ _ ∧ _))

theorem Instance.mono {allowed' : List Char → Prop} (hsub : ∀ v, allowed v → allowed' v)
    (h : Instance allowed segments s) : Instance allowed' segments s := by
  induction h with
  | nil => exact .nil
  | cons hfill _ ih =>
    cases hfill with
    | literal => exact .cons (.literal _) ih
    | placeholder hv => exact .cons (.placeholder (hsub _ hv)) ih

/-! ## The routing pattern -/

/-- A literal and what follows match the literal's text and what follows
it. -/
theorem fits_literalItems_append {text : List Char} {rest : Pattern} :
    Pattern.Fits (literalItems text ++ rest) s ↔ ∃ tail, s = text ++ tail ∧ rest.Fits tail := by
  induction text generalizing s with
  | nil => simp [literalItems]
  | cons c text ih =>
    change Pattern.Fits (Pattern.Item.char c :: (literalItems text ++ rest)) s ↔ _
    rw [Pattern.fits_char_cons_iff]
    simp only [ih]
    constructor
    · rintro ⟨_, rfl, tail, rfl, htail⟩
      exact ⟨tail, rfl, htail⟩
    · rintro ⟨tail, rfl, htail⟩
      exact ⟨text ++ tail, rfl, tail, rfl, htail⟩

theorem fits_routingItems_iff :
    Pattern.Fits (segments.flatMap routingItems) s ↔ Instance OnOneLine segments s := by
  induction segments generalizing s with
  | nil =>
    rw [List.flatMap_nil, Pattern.fits_nil_iff]
    constructor
    · rintro rfl
      exact .nil
    · intro h
      cases h
      rfl
  | cons segment segments ih =>
    rw [List.flatMap_cons]
    cases segment with
    | literal t =>
      rw [routingItems, fits_literalItems_append]
      constructor
      · rintro ⟨tail, rfl, htail⟩
        exact .cons (.literal t) (ih.1 htail)
      · rintro (_ | ⟨hfill, htail⟩)
        cases hfill
        exact ⟨_, rfl, ih.2 htail⟩
    | placeholder o name c =>
      change Pattern.Fits (Pattern.Item.anything :: segments.flatMap routingItems) s ↔ _
      rw [Pattern.fits_anything_cons_iff]
      constructor
      · rintro ⟨v, tail, rfl, hv, htail⟩
        exact .cons (.placeholder hv) (ih.1 htail)
      · rintro (_ | ⟨hfill, htail⟩)
        cases hfill with
        | placeholder hv => exact ⟨_, _, rfl, hv, ih.2 htail⟩

/-- **What the routing pattern matches**: the base path without its
trailing slashes, followed by an instance of the template. -/
theorem fits_routingPattern_iff {base template : List Char} :
    Pattern.Fits (routingPattern base template) s ↔
      ∃ tail, s = trimmedBase base ++ tail ∧ Instance OnOneLine (scan template) tail := by
  rw [routingPattern, fits_literalItems_append]
  simp only [fits_routingItems_iff]

/-! ## The base path -/

theorem isPrefix_trimmedBase (base : List Char) : trimmedBase base <+: base :=
  List.rdropWhile_prefix _ base

/-- Without its trailing slashes the base path does not end with one. -/
theorem getLast?_trimmedBase_ne (base : List Char) :
    (trimmedBase base).getLast? ≠ some '/' := by
  intro h
  have hne : trimmedBase base ≠ [] := by
    intro he
    rw [he] at h
    cases h
  have hlast := List.rdropWhile_last_not (fun c => decide (c = '/')) base hne
  rw [List.getLast?_eq_some_getLast hne] at h
  exact hlast (decide_eq_true (Option.some.inj h))

/-! ## Slashes in an instance -/

theorem Segment.Proper.written_ne_nil {segment : Segment} (h : segment.Proper) :
    segment.written ≠ [] := by
  cases segment with
  | literal t => exact h
  | placeholder o n c =>
    have ho : o ≠ 0 := Nat.pos_iff_ne_zero.1 h.1
    simp [Segment.written, ho]

/-- A segment that begins with a slash is a literal. -/
theorem Segment.Proper.eq_literal_of_head? {segment : Segment} (h : segment.Proper)
    (hhead : segment.written.head? = some '/') : ∃ t, segment = .literal t := by
  cases segment with
  | literal t => exact ⟨t, rfl⟩
  | placeholder o n c =>
    obtain ⟨k, rfl⟩ : ∃ k, o = k + 1 := ⟨o - 1, by have := h.1; omega⟩
    simp [Segment.written, List.replicate_succ] at hhead

/-- So is one that ends with a slash. -/
theorem Segment.Proper.eq_literal_of_getLast? {segment : Segment} (h : segment.Proper)
    (hlast : segment.written.getLast? = some '/') : ∃ t, segment = .literal t := by
  cases segment with
  | literal t => exact ⟨t, rfl⟩
  | placeholder o n c =>
    obtain ⟨k, rfl⟩ : ∃ k, c = k + 1 := ⟨c - 1, by have := h.2.2.2; omega⟩
    simp [Segment.written, List.replicate_succ', ← List.append_assoc] at hlast

/-- **An instance begins with a slash if the template does**, whatever the
values. -/
theorem Instance.head?_eq_slash (h : Instance allowed segments s)
    (hproper : ∀ x ∈ segments, x.Proper) (hhead : (writtenAll segments).head? = some '/') :
    s.head? = some '/' := by
  cases h with
  | nil => cases hhead
  | @cons segment rest part tail hfill _ =>
    have hseg := hproper segment List.mem_cons_self
    rw [writtenAll_cons, List.head?_append_of_ne_nil _ hseg.written_ne_nil] at hhead
    obtain ⟨t, rfl⟩ := hseg.eq_literal_of_head? hhead
    cases hfill
    exact (List.head?_append_of_ne_nil part hseg.written_ne_nil).trans hhead

/-- **An instance ends with a slash if the template does**, whatever the
values. -/
theorem Instance.getLast?_eq_slash (h : Instance allowed segments s)
    (hproper : ∀ x ∈ segments, x.Proper) (hlast : (writtenAll segments).getLast? = some '/') :
    s.getLast? = some '/' := by
  induction h with
  | nil => cases hlast
  | @cons segment rest part tail hfill htail ih =>
    rw [writtenAll_cons, List.getLast?_append] at hlast
    rw [List.getLast?_append]
    cases hrest : (writtenAll rest).getLast? with
    | some d =>
      rw [hrest, Option.some_or] at hlast
      rw [ih (fun x hx => hproper x (List.mem_cons_of_mem _ hx)) (hrest.trans hlast),
        Option.some_or]
    | none =>
      -- nothing is left, so the segment is the last one
      rw [hrest, Option.none_or] at hlast
      obtain ⟨t, rfl⟩ := (hproper segment List.mem_cons_self).eq_literal_of_getLast? hlast
      have hnil : rest = [] := by
        cases rest with
        | nil => rfl
        | cons x rest =>
          have hx := (hproper x (by simp)).written_ne_nil
          rw [List.getLast?_eq_none_iff, writtenAll_cons] at hrest
          exact absurd (List.append_eq_nil_iff.1 hrest).1 hx
      subst hnil
      cases htail
      cases hfill
      exact hlast

/-- No value that is one piece is empty, so an empty instance is one of
empty literals. -/
theorem Instance.writtenAll_eq_nil (h : Instance OnePiece segments []) :
    writtenAll segments = [] := by
  generalize hs : ([] : List Char) = s at h
  induction h with
  | nil => rfl
  | @cons segment rest part tail hfill _ ih =>
    obtain ⟨rfl, rfl⟩ := List.append_eq_nil_iff.1 hs.symm
    cases hfill with
    | literal => rw [writtenAll_cons, ih rfl, Segment.written, List.append_nil]
    | placeholder hv => exact absurd rfl hv.1

/-- The instance that is a slash is one of a slash. -/
theorem Instance.writtenAll_eq_slash (h : Instance OnePiece segments ['/']) :
    writtenAll segments = ['/'] := by
  generalize hs : ['/'] = s at h
  induction h with
  | nil => cases hs
  | @cons segment rest part tail hfill htail ih =>
    rw [writtenAll_cons]
    rcases List.append_eq_singleton_iff.1 hs.symm with ⟨rfl, rfl⟩ | ⟨rfl, rfl⟩
    · cases hfill with
      | literal => rw [ih rfl, Segment.written, List.nil_append]
      | placeholder hv => exact absurd rfl hv.1
    · cases hfill with
      | literal => rw [htail.writtenAll_eq_nil, Segment.written, List.append_nil]
      | placeholder hv => exact absurd List.mem_cons_self hv.2.1

/-- Of values that are one piece each, an instance ends with a slash only
if the template does. -/
theorem Instance.getLast?_of_onePiece (h : Instance OnePiece segments s)
    (hlast : s.getLast? = some '/') : (writtenAll segments).getLast? = some '/' := by
  induction h with
  | nil => cases hlast
  | @cons segment rest part tail hfill htail ih =>
    rw [List.getLast?_append] at hlast
    rw [writtenAll_cons, List.getLast?_append]
    cases hd : tail.getLast? with
    | some d =>
      rw [hd, Option.some_or] at hlast
      rw [ih (hd.trans hlast), Option.some_or]
    | none =>
      rw [hd, Option.none_or] at hlast
      obtain rfl := List.getLast?_eq_none_iff.1 hd
      cases hfill with
      | placeholder hv => exact absurd (List.mem_of_getLast? hlast) hv.2.1
      | literal =>
        rw [htail.writtenAll_eq_nil]
        exact hlast

/-- **An instance of a template ends with a slash exactly if the template
does**, for values that are one piece each. -/
theorem Instance.getLast?_eq_slash_iff {template : List Char}
    (h : Instance OnePiece (scan template) s) :
    s.getLast? = some '/' ↔ template.getLast? = some '/' := by
  have hw := writtenAll_scan template
  constructor
  · intro hs
    rw [← hw]
    exact h.getLast?_of_onePiece hs
  · intro ht
    exact h.getLast?_eq_slash proper_of_mem_scan (by rw [hw]; exact ht)

/-- An instance that begins with a slash, of values that are one piece
each, is one of segments that do. -/
theorem Instance.head?_of_onePiece (h : Instance OnePiece segments s)
    (hhead : s.head? = some '/') : (writtenAll segments).head? = some '/' := by
  induction h with
  | nil => cases hhead
  | @cons segment rest part tail hfill _ ih =>
    cases hfill with
    | placeholder hv =>
      obtain ⟨hne, hslash, -⟩ := hv
      rw [List.head?_append_of_ne_nil _ hne] at hhead
      exact absurd (List.mem_of_head? hhead) hslash
    | literal =>
      rw [writtenAll_cons, Segment.written]
      cases part with
      | nil => exact ih hhead
      | cons c part => exact hhead

/-- **Values that are one piece each bring no two slashes together.** -/
theorem Instance.isChain (h : Instance OnePiece segments s)
    (hchain : (writtenAll segments).IsChain NotBothSlash) : s.IsChain NotBothSlash := by
  induction h with
  | nil => exact .nil
  | @cons segment rest part tail hfill htail ih =>
    rw [writtenAll_cons, List.isChain_append] at hchain
    obtain ⟨hseg, hrest, hjoint⟩ := hchain
    rw [List.isChain_append]
    cases hfill with
    | literal =>
      refine ⟨hseg, ih hrest, ?_⟩
      rintro a ha b hb ⟨rfl, rfl⟩
      exact hjoint '/' ha '/' (htail.head?_of_onePiece hb) ⟨rfl, rfl⟩
    | placeholder hv =>
      obtain ⟨-, hslash, -⟩ := hv
      refine ⟨?_, ih hrest, ?_⟩
      · -- a value without slashes has no two of them
        refine (List.pairwise_of_forall_mem_list fun a ha b _ hab => ?_).isChain
        exact hslash (hab.1 ▸ ha)
      · rintro a ha b - ⟨rfl, -⟩
        exact hslash (List.mem_of_getLast? ha)

end Template

end ApiGateway
