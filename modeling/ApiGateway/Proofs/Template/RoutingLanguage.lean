import ApiGateway.Proofs.Pattern.Written
import ApiGateway.Proofs.Template.Instances
import ApiGateway.Route.Build
import ApiGateway.Route.Candidate
/-!
# Templates — the language of a routing pattern

A template is matched by a text between `^` and `$`, and the text has two
kinds of signs: characters, escaped where they have a meaning of their
own, and `.*`. What such a text denotes is said by itself
(`Pattern.Denotes`), without the items that it was written from. That the
text of a routing pattern denotes what its items fit
(`denotes_written_iff`) is where escaping matters: a text that could be
read in two ways would denote more.

So the paths that a template matches are known whatever reads the text, as
long as it reads these two signs as they are meant
(`Route.routing_language`): the base path without its trailing slashes,
followed by the literals of the template, each as it stands, with any text
without a line feed in the place of each placeholder.
-/

namespace ApiGateway

namespace Pattern

variable {p q : Pattern} {body s : List Char}

/-! ## What a text denotes -/

/-- **What a text of escaped characters and `.*` denotes**: each character
stands for itself, and `.*` for any text without a line feed. -/
inductive Denotes : List Char → List Char → Prop where
  | nil : Denotes [] []
  | literal {body s : List Char} (c : Char) :
      Denotes body s → Denotes (escaped c ++ body) (c :: s)
  | anything {body s v : List Char} :
      '\n' ∉ v → Denotes body s → Denotes ('.' :: '*' :: body) (v ++ s)

/-- The text that has to match as a whole. -/
def anchored (body : List Char) : String := String.ofList ('^' :: body ++ ['$'])

/-- A pattern of single characters and of `.*`. -/
def Plain (p : Pattern) : Prop := ∀ item ∈ p, (∃ c, item = .char c) ∨ item = .anything

theorem Plain.append (hp : Plain p) (hq : Plain q) : Plain (p ++ q) := fun item hitem =>
  (List.mem_append.1 hitem).elim (hp item) (hq item)

theorem written_char (c : Char) : (Item.char c).written = escaped c :=
  List.append_nil (escaped c)

/-- What denotes something is the notation of a plain pattern, which fits
what is denoted. -/
theorem Denotes.exists_plain (h : Denotes body s) :
    ∃ p, Plain p ∧ body = p.flatMap Item.written ∧ Fits p s := by
  induction h with
  | nil => exact ⟨[], fun _ h => absurd h List.not_mem_nil, rfl, .nil⟩
  | literal c _ ih =>
    obtain ⟨p, hp, rfl, hfits⟩ := ih
    refine ⟨.char c :: p, ?_, ?_, fits_char_cons_iff.2 ⟨_, rfl, hfits⟩⟩
    · rintro item (_ | ⟨_, hitem⟩)
      · exact Or.inl ⟨c, rfl⟩
      · exact hp item hitem
    · rw [List.flatMap_cons, written_char]
  | anything hv _ ih =>
    obtain ⟨p, hp, rfl, hfits⟩ := ih
    refine ⟨.anything :: p, ?_, rfl, fits_anything_cons_iff.2 ⟨_, _, rfl, hv, hfits⟩⟩
    rintro item (_ | ⟨_, hitem⟩)
    · exact Or.inr rfl
    · exact hp item hitem

/-- Some text fits a plain pattern: nothing stands for `.*`. -/
theorem Plain.exists_fits (hp : Plain p) : ∃ s, Fits p s := by
  induction p with
  | nil => exact ⟨[], .nil⟩
  | cons item p ih =>
    obtain ⟨s, hs⟩ := ih fun item' h => hp item' (List.mem_cons_of_mem _ h)
    rcases hp item List.mem_cons_self with ⟨c, rfl⟩ | rfl
    · exact ⟨c :: s, fits_char_cons_iff.2 ⟨s, rfl, hs⟩⟩
    · exact ⟨s, fits_anything_cons_iff.2 ⟨[], s, rfl, List.not_mem_nil, hs⟩⟩

/-- The notation of a plain pattern denotes what fits the pattern. -/
theorem denotes_of_fits (hp : Plain p) (hfits : Fits p s) : Denotes (p.flatMap Item.written) s := by
  induction p generalizing s with
  | nil =>
    rw [fits_nil_iff] at hfits
    subst hfits
    exact .nil
  | cons item p ih =>
    have hrest : Plain p := fun item' h => hp item' (List.mem_cons_of_mem _ h)
    rw [List.flatMap_cons]
    rcases hp item List.mem_cons_self with ⟨c, rfl⟩ | rfl
    · obtain ⟨tail, rfl, htail⟩ := fits_char_cons_iff.1 hfits
      rw [written_char]
      exact .literal c (ih hrest htail)
    · obtain ⟨v, tail, rfl, hv, htail⟩ := fits_anything_cons_iff.1 hfits
      exact .anything hv (ih hrest htail)

/-- A text is the notation of one pattern only, since it reads as the
pattern. -/
theorem flatMap_written_injective (h : p.flatMap Item.written = q.flatMap Item.written) :
    p = q := by
  have hwritten : p.written = q.written := by rw [written, written, h]
  have hread := parse?_written p
  rw [hwritten, parse?_written] at hread
  exact (Option.some.inj hread).symm

/-- **The notation of a plain pattern denotes exactly what fits the
pattern.** -/
theorem denotes_written_iff (hp : Plain p) : Denotes (p.flatMap Item.written) s ↔ Fits p s := by
  refine ⟨fun h => ?_, denotes_of_fits hp⟩
  obtain ⟨q, -, hbody, hfits⟩ := h.exists_plain
  exact flatMap_written_injective hbody ▸ hfits

/-! ## Readers -/

/-- **A reader that reads these two signs as they are meant**: a text that
denotes something, between `^` and `$`, matches exactly what it denotes, if
it is read at all. -/
def Faithful (read : PatternReader) : Prop :=
  ∀ body, (∃ s, Denotes body s) → ∀ test, read (anchored body) = some test →
    ∀ path, test path = true ↔ Denotes body path.toList

theorem reader_anchored (p : Pattern) :
    reader (anchored (p.flatMap Item.written)) = some fun path => p.isMatch path.toList := by
  have hparse : parse? ('^' :: p.flatMap Item.written ++ ['$']) = some p := parse?_written p
  rw [reader, anchored, String.toList_ofList, hparse, Option.map_some]

/-- **The reader of patterns is such a one.** -/
theorem faithful_reader : Faithful reader := by
  rintro body ⟨s, hs⟩ test htest path
  obtain ⟨p, hp, rfl, -⟩ := hs.exists_plain
  rw [reader_anchored] at htest
  rw [← Option.some.inj htest, isMatch_iff_fits, denotes_written_iff hp]

end Pattern

namespace Template

theorem plain_literalItems (text : List Char) : Pattern.Plain (literalItems text) := by
  intro item hitem
  obtain ⟨c, -, rfl⟩ := List.mem_map.1 hitem
  exact Or.inl ⟨c, rfl⟩

/-- A routing pattern is of characters and of `.*`. -/
theorem plain_routingPattern (base template : List Char) :
    Pattern.Plain (routingPattern base template) := by
  refine (plain_literalItems _).append fun item hitem => ?_
  obtain ⟨segment, -, hsegment⟩ := List.mem_flatMap.1 hitem
  cases segment with
  | literal t => exact plain_literalItems t item hsegment
  | placeholder o name c => exact Or.inr (List.mem_singleton.1 hsegment)

/-- Trailing slashes are all that a base path loses. -/
theorem exists_eq_trimmedBase_append (base : List Char) :
    ∃ n, base = trimmedBase base ++ List.replicate n '/' := by
  have hslashes : base.reverse.takeWhile (· = '/') =
      List.replicate (base.reverse.takeWhile (· = '/')).length '/' :=
    List.eq_replicate_of_mem fun c hc => by
      have htaken := List.mem_takeWhile_imp hc
      exact of_decide_eq_true htaken
  refine ⟨(base.reverse.takeWhile (· = '/')).length, ?_⟩
  rw [trimmedBase, ← List.reverse_replicate, ← hslashes, ← List.reverse_append,
    List.takeWhile_append_dropWhile, List.reverse_reverse]

end Template

namespace Route

open Template Pattern

/-- **The paths that a template matches, exactly.** The pattern of a
template is a text between `^` and `$`. It denotes the base path without
its trailing slashes, followed by the segments of the template in order:
each literal as it stands, whatever characters it has, and for each
placeholder some text without a line feed, which may be empty. The reader
of patterns matches these paths and no others. So does any other reader
that reads the text, as long as characters, `.*` and the two ends mean to
it what they are meant to. -/
theorem routing_language (d : ApiDocument) (template : String) (methods : List MethodEntry)
    (read : PatternReader) (hread : Faithful read) :
    let p := routePath d template methods
    let base := trimmedBase d.basePath.toList
    (∃ n, d.basePath.toList = base ++ List.replicate n '/') ∧ base.getLast? ≠ some '/' ∧
    ∃ body, p.pathRegex = anchored body ∧
      (∀ path, Denotes body path ↔
        ∃ tail, path = base ++ tail ∧ Instance OnOneLine (scan template.toList) tail) ∧
      ∀ path, (p.isMatch reader path = true ↔ Denotes body path.toList) ∧
        (p.isMatch read path = true ↔
          (read p.pathRegex).isSome = true ∧ Denotes body path.toList) := by
  intro p base
  let pattern := routingPattern d.basePath.toList template.toList
  have hplain : Plain pattern := plain_routingPattern _ _
  have hdenotes : ∀ path, Denotes (pattern.flatMap Item.written) path ↔
      ∃ tail, path = base ++ tail ∧ Instance OnOneLine (scan template.toList) tail := fun path =>
    (denotes_written_iff hplain).trans fits_routingPattern_iff
  have hmatches : ∀ {read : PatternReader}, Faithful read → ∀ path,
      (p.isMatch read path = true ↔
        (read p.pathRegex).isSome = true ∧ Denotes (pattern.flatMap Item.written) path.toList) := by
    intro read hread path
    obtain ⟨s, hs⟩ := hplain.exists_fits
    rw [RoutePath.isMatch]
    cases htest : read p.pathRegex with
    | none => exact iff_of_false nofun fun h => nomatch h.1
    | some test =>
      exact (hread _ ⟨s, denotes_of_fits hplain hs⟩ test htest path).trans (and_iff_right rfl).symm
  have hreads : (reader p.pathRegex).isSome = true :=
    Option.isSome_iff_exists.2 ⟨_, reader_anchored pattern⟩
  refine ⟨exists_eq_trimmedBase_append _, getLast?_trimmedBase_ne _, _, rfl, hdenotes, fun path =>
    ⟨?_, hmatches hread path⟩⟩
  rw [hmatches faithful_reader path, and_iff_right hreads]

/-- The dot and the plus of a template stand for themselves, and a
placeholder for nothing if need be. -/
theorem routing_language_escaped :
    let p := routePath { ApiDocument.blank with basePath := "/maps//" } "/v1.0/{name}+" []
    Faithful reader ∧ p.isMatch reader "/maps/v1.0/+" = true ∧
      p.isMatch reader "/maps/v1x0/+" = false ∧
      ∃ tail, "/maps/v1.0/+".toList = trimmedBase "/maps//".toList ++ tail ∧
        Instance OnOneLine (scan "/v1.0/{name}+".toList) tail := by
  intro p
  obtain ⟨-, -, body, -, hdenotes, hmatches⟩ := routing_language
    { ApiDocument.blank with basePath := "/maps//" } "/v1.0/{name}+" [] reader faithful_reader
  have hmatch : p.isMatch reader "/maps/v1.0/+" = true := by decide +kernel
  have hother : p.isMatch reader "/maps/v1x0/+" = false := by decide +kernel
  exact ⟨faithful_reader, hmatch, hother, (hdenotes _).1 ((hmatches "/maps/v1.0/+").2.1 hmatch).2⟩

end Route

end ApiGateway
