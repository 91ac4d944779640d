import ApiGateway.Proofs.DistinctKeys
import ApiGateway.Proofs.Template.RoutingLanguage
/-!
# Templates — patterns that were compiled before

The cache keeps the pattern of a template under the base path joined with
the template. The two are not compiled alike: a base path loses its
trailing slashes, and its braces are text. So two pairs that are one text
when they are joined may have two patterns, and then the pair that is
asked for first decides which of them both get (`getOrCompile_after`).

Which base paths this concerns is said exactly (`transparent_exact`). Two
base paths are compatible (`Compatible`) if one of them goes on where the
other ends only with text that opens no brace, and then neither ends with
a slash. Where all base paths that are asked for are compatible with each
other, every answer is the pattern that would be compiled; of two that are
not, some templates are mixed up. In `base_mixed_up_with_placeholder` the
name of a placeholder in one API is part of the base path of another.
-/

namespace ApiGateway

namespace Template

variable {base base' template template' m t : List Char}

/-! ## Text before a template -/

/-- The scanner with more text before all that it holds. -/
def Scanner.behind (q : List Char) : Scanner → Scanner
  | text p => text (q ++ p)
  | opened p o n => opened (q ++ p) o n
  | closed p o n c => closed (q ++ p) o n c

theorem captureItems_flush_append (p : List Char) (rest : List Segment) :
    captureItems (Scanner.flush p ++ rest) = literalItems p ++ captureItems rest := by
  unfold Scanner.flush
  split
  next h => rw [h, List.nil_append, literalItems, List.map_nil, List.nil_append]
  next => rfl

theorem placeholderNames_flush_append (p : List Char) (rest : List Segment) :
    placeholderNames (Scanner.flush p ++ rest) = placeholderNames rest := by
  unfold Scanner.flush
  split <;> rfl

theorem literalItems_append (p q : List Char) :
    literalItems (p ++ q) = literalItems p ++ literalItems q := List.map_append

/-- **Text before what the scanner holds** is text before the pattern, and
names no placeholder. -/
theorem captures_scanFrom_behind (q : List Char) (st : Scanner) (t : List Char) :
    captureItems (scanFrom (st.behind q) t) = literalItems q ++ captureItems (scanFrom st t) ∧
      placeholderNames (scanFrom (st.behind q) t) = placeholderNames (scanFrom st t) := by
  have hflush : ∀ (p : List Char) (rest : List Segment),
      captureItems (Scanner.flush (q ++ p) ++ rest) =
          literalItems q ++ captureItems (Scanner.flush p ++ rest) ∧
        placeholderNames (Scanner.flush (q ++ p) ++ rest) =
          placeholderNames (Scanner.flush p ++ rest) := by
    intro p rest
    rw [captureItems_flush_append, captureItems_flush_append, literalItems_append,
      List.append_assoc, placeholderNames_flush_append, placeholderNames_flush_append]
    exact ⟨rfl, rfl⟩
  induction t generalizing st with
  | nil =>
    cases st with
    | text p => simpa [scanFrom, Scanner.behind, Scanner.finish] using hflush p []
    | opened p o n =>
      simpa [scanFrom, Scanner.behind, Scanner.finish] using
        hflush (p ++ (List.replicate o '\x7b' ++ n)) []
    | closed p o n c =>
      simpa [scanFrom, Scanner.behind, Scanner.finish] using hflush p [.placeholder o n c]
  | cons c t ih =>
    cases st with
    | text p =>
      by_cases hc : c = '\x7b'
      · simpa [scanFrom, Scanner.behind, Scanner.step, hc] using ih (.opened p 1 [])
      · simpa [scanFrom, Scanner.behind, Scanner.step, hc] using ih (.text (p ++ [c]))
    | opened p o n =>
      by_cases hc : c = '\x7b'
      · by_cases hn : n = []
        · simpa [scanFrom, Scanner.behind, Scanner.step, hc, hn] using ih (.opened p (o + 1) [])
        · simpa [scanFrom, Scanner.behind, Scanner.step, hc, hn] using
            ih (.opened (p ++ (List.replicate o '\x7b' ++ n)) 1 [])
      · by_cases hc' : c = '\x7d'
        · simpa [scanFrom, Scanner.behind, Scanner.step, hc'] using ih (.closed p o n 1)
        · simpa [scanFrom, Scanner.behind, Scanner.step, hc, hc'] using ih (.opened p o (n ++ [c]))
    | closed p o n k =>
      by_cases hc : c = '\x7d'
      · simpa [scanFrom, Scanner.behind, Scanner.step, hc] using ih (.closed p o n (k + 1))
      · -- the text goes out with the placeholder, and nothing is held before what follows
        simpa [scanFrom, Scanner.behind, Scanner.step, hc] using hflush p _

/-- **The pattern of a template that begins with text which opens no
brace.** -/
theorem compile_text_append (base : List Char) (hm : '\x7b' ∉ m) (t : List Char) :
    CapturePattern.compile base (m ++ t) =
      ⟨literalItems (trimmedBase base ++ m) ++ captureItems (scan t),
        placeholderNames (scan t)⟩ := by
  have hscan : scan (m ++ t) = scanFrom (Scanner.behind m (.text [])) t := by
    rw [scan, scanFrom_text_append [] hm, Scanner.behind, List.append_nil, List.nil_append]
  obtain ⟨hitems, hnames⟩ := captures_scanFrom_behind m (.text []) t
  rw [CapturePattern.compile, hscan, hitems, hnames, literalItems_append, List.append_assoc]
  rfl

/-! ## Patterns that are alike -/

namespace CapturePattern

/-- The notation of the pattern. -/
def text (p : CapturePattern) : String := String.ofList p.items.written

/-- The number of the captured item that a name stands for, from one on;
of placeholders of one name it is that of the first. -/
def number? (p : CapturePattern) (name : List Char) : Option Nat :=
  (p.names.findIdx? (· = name)).map (· + 1)

/-- **Two patterns are alike** if they are written alike and number the
names of their placeholders alike. -/
def Alike (p q : CapturePattern) : Prop := p.text = q.text ∧ ∀ name, p.number? name = q.number? name

theorem Alike.refl (p : CapturePattern) : p.Alike p := ⟨rfl, fun _ => rfl⟩

theorem Alike.symm {p q : CapturePattern} (h : p.Alike q) : q.Alike p :=
  ⟨h.1.symm, fun name => (h.2 name).symm⟩

/-- Patterns that are alike have the same items. -/
theorem Alike.items_eq {p q : CapturePattern} (h : p.Alike q) : p.items = q.items := by
  have hwritten : p.items.written = q.items.written := String.ofList_injective h.1
  exact Pattern.flatMap_written_injective (List.cons.inj (List.append_cancel_right hwritten)).2

/-- Where one of two patterns that are alike names a placeholder, so does
the other. -/
theorem Alike.names_ne_nil {p q : CapturePattern} (h : p.Alike q) (hp : p.names ≠ []) :
    q.names ≠ [] := by
  obtain ⟨name, hname⟩ := List.exists_mem_of_ne_nil _ hp
  intro hq
  have hnone : p.number? name = none := by
    rw [h.2 name, number?, hq]
    rfl
  rw [number?, Option.map_eq_none_iff, List.findIdx?_eq_none_iff] at hnone
  exact of_decide_eq_false (hnone name hname) rfl

end CapturePattern

open CapturePattern

/-! ## Base paths that are compatible -/

/-- **Two base paths are compatible** if neither ends with a slash and the
longer one opens no brace behind the shorter one. This is asked only if
one of them begins with the other; if not, no templates make the two the
same text. -/
def Compatible (base base' : List Char) : Prop :=
  ∀ m, m ≠ [] → base' = base ++ m ∨ base = base' ++ m →
    base.getLast? ≠ some '/' ∧ base'.getLast? ≠ some '/' ∧ '\x7b' ∉ m

theorem Compatible.symm (h : Compatible base base') : Compatible base' base := fun m hm hsplit =>
  let ⟨hb, hb', hbrace⟩ := h m hm hsplit.symm
  ⟨hb', hb, hbrace⟩

/-- A base path loses nothing exactly if it does not end with a slash. -/
theorem trimmedBase_eq_self_iff : trimmedBase base = base ↔ base.getLast? ≠ some '/' := by
  constructor
  · intro h
    rw [← h]
    exact getLast?_trimmedBase_ne base
  · intro h
    obtain ⟨n, hn⟩ := exists_eq_trimmedBase_append base
    cases n with
    | zero => rw [List.replicate_zero, List.append_nil] at hn; exact hn.symm
    | succ n =>
      refine absurd ?_ h
      rw [hn, List.replicate_succ', ← List.append_assoc, List.getLast?_concat]

/-- Text between a base path and the rest of a template is the same in
either of them exactly if nothing is lost in front of it or behind it. -/
theorem trimmedBase_append_eq_iff (hm : m ≠ []) :
    trimmedBase base ++ m = trimmedBase (base ++ m) ↔
      base.getLast? ≠ some '/' ∧ (base ++ m).getLast? ≠ some '/' := by
  have hlast : ∀ b : List Char, (b ++ m).getLast? = m.getLast? := fun b => by
    rw [List.getLast?_append, List.getLast?_eq_some_getLast hm, Option.some_or]
  constructor
  · intro h
    have hend : (base ++ m).getLast? ≠ some '/' := by
      rw [hlast base, ← hlast (trimmedBase base), h]
      exact getLast?_trimmedBase_ne _
    rw [trimmedBase_eq_self_iff.2 hend] at h
    exact ⟨trimmedBase_eq_self_iff.1 (List.append_cancel_right h), hend⟩
  · rintro ⟨hbase, hend⟩
    rw [trimmedBase_eq_self_iff.2 hbase, trimmedBase_eq_self_iff.2 hend]

/-- Two splits of a text that opens no brace between them. -/
theorem alike_split_iff (hm : m ≠ []) (hbrace : '\x7b' ∉ m) :
    Alike (compile base (m ++ t)) (compile (base ++ m) t) ↔
      base.getLast? ≠ some '/' ∧ (base ++ m).getLast? ≠ some '/' := by
  rw [← trimmedBase_append_eq_iff hm, compile_text_append base hbrace]
  constructor
  · intro h
    have hitems := List.append_cancel_right h.items_eq
    refine List.map_injective_iff.2 (fun c d hcd => ?_) hitems
    cases hcd
    rfl
  · intro h
    rw [h]
    exact Alike.refl _

theorem placeholderNames_ne_nil_iff {segments : List Segment} :
    placeholderNames segments ≠ [] ↔ segments.any Segment.isPlaceholder = true := by
  induction segments with
  | nil => simp [placeholderNames]
  | cons s segments ih =>
    cases s with
    | literal t => simpa [placeholderNames, Segment.isPlaceholder] using ih
    | placeholder o n c => simp [placeholderNames, Segment.isPlaceholder]

/-- **Compatible base paths are those that no templates mix up.** -/
theorem compatible_iff : Compatible base base' ↔
    ∀ template template', base ++ template = base' ++ template' →
      Alike (compile base template) (compile base' template') := by
  constructor
  · have hsplit : ∀ {base m t : List Char}, Compatible base (base ++ m) →
        Alike (compile base (m ++ t)) (compile (base ++ m) t) := by
      intro base m t h
      by_cases hm : m = []
      · subst hm
        rw [List.nil_append, List.append_nil]
        exact Alike.refl _
      · obtain ⟨hbase, hend, hbrace⟩ := h m hm (Or.inl rfl)
        exact (alike_split_iff hm hbrace).2 ⟨hbase, hend⟩
    intro h template template' htext
    rcases List.append_eq_append_iff.1 htext with ⟨m, rfl, rfl⟩ | ⟨m, rfl, rfl⟩
    · exact hsplit h
    · exact (hsplit h.symm).symm
  · have hsplit : ∀ {base m : List Char}, m ≠ [] →
        (∀ t, Alike (compile base (m ++ t)) (compile (base ++ m) t)) →
        base.getLast? ≠ some '/' ∧ (base ++ m).getLast? ≠ some '/' ∧ '\x7b' ∉ m := by
      intro base m hm h
      have hbrace : '\x7b' ∉ m := fun hmem => by
        -- a brace that the template closes is text if the base path has opened it
        have hsome : hasPlaceholder (m ++ ['\x7d']) = true :=
          hasPlaceholder_iff.2 ((List.singleton_sublist.2 hmem).append (List.Sublist.refl _))
        exact (h ['\x7d']).names_ne_nil (placeholderNames_ne_nil_iff.2 hsome) rfl
      obtain ⟨hbase, hend⟩ := (alike_split_iff hm hbrace).1 (h [])
      exact ⟨hbase, hend, hbrace⟩
    rintro h m hm (rfl | rfl)
    · exact hsplit hm fun t => h _ _ (List.append_assoc ..).symm
    · obtain ⟨hbase, hend, hbrace⟩ := hsplit hm fun t => (h _ _ (List.append_assoc ..)).symm
      exact ⟨hend, hbase, hbrace⟩

namespace PatternCache

/-! ## Runs -/

/-- What happens to a cache. -/
inductive Act where
  /-- The pattern of a template under a base path is asked for. -/
  | ask (base template : List Char)
  /-- All patterns are dropped. -/
  | reset

/-- The cache after an act. -/
def perform (cache : PatternCache) : Act → PatternCache
  | .ask base template => (cache.getOrCompile base template).2
  | .reset => []

/-- The cache after acts, which at first is empty. -/
def after (acts : List Act) : PatternCache := acts.foldl perform []

/-- The pairs that are asked for after others, with those that were asked
for since the last reset. -/
def asking (asked : List (List Char × List Char)) : Act → List (List Char × List Char)
  | .ask base template => asked ++ [(base, template)]
  | .reset => []

/-- The base paths and templates that were asked for since the last
reset, the first one first. -/
def asked (acts : List Act) : List (List Char × List Char) := acts.foldl asking []

/-- The first of some pairs that is a given text when it is joined. -/
def first? (pairs : List (List Char × List Char)) (text : List Char) :
    Option (List Char × List Char) :=
  pairs.find? fun p => p.1 ++ p.2 = text

/-- **A cache keeps under each text the pattern of the first pair of these
that is the text.** -/
def Keeps (pairs : List (List Char × List Char)) (cache : PatternCache) : Prop :=
  ∀ text, OrderedMap.get? cache text = (first? pairs text).map fun p => compile p.1 p.2

variable {pairs : List (List Char × List Char)} {cache : PatternCache}

theorem first?_concat (pairs : List (List Char × List Char)) (base template text : List Char) :
    first? (pairs ++ [(base, template)]) text =
      (first? pairs text).or (if base ++ template = text then some (base, template) else none) := by
  rw [first?, List.find?_append, List.find?_singleton]
  simp only [decide_eq_true_eq]
  rfl

/-- **One act** keeps it so, with one pair more or with none. -/
theorem Keeps.perform (h : Keeps pairs cache) (act : Act) :
    Keeps (asking pairs act) (cache.perform act) := by
  cases act with
  | reset => exact fun text => rfl
  | ask base template =>
    intro text
    have hkept := h (base ++ template)
    rw [asking, first?_concat, PatternCache.perform, getOrCompile]
    cases hf : first? pairs (base ++ template) with
    | some p =>
      rw [hf, Option.map_some] at hkept
      rw [hkept]
      -- the pair is not the first that is its text
      by_cases ht : base ++ template = text
      · rw [← ht, hf, hkept, Option.some_or, Option.map_some]
      · rw [if_neg ht, Option.or_none, h text]
    | none =>
      rw [hf, Option.map_none] at hkept
      rw [hkept]
      simp only [OrderedMap.get?_insert]
      by_cases ht : base ++ template = text
      · rw [if_pos ht.symm, ← ht, hf, Option.none_or, if_pos rfl, Option.map_some]
      · rw [if_neg (Ne.symm ht), if_neg ht, Option.or_none, h text]

/-- **So do any number of acts.** -/
theorem keeps_after (acts : List Act) : Keeps (asked acts) (after acts) := by
  have hrun : ∀ (acts : List Act) (pairs : List (List Char × List Char)) (cache : PatternCache),
      Keeps pairs cache → Keeps (acts.foldl asking pairs) (acts.foldl PatternCache.perform cache) := by
    intro acts
    induction acts with
    | nil => exact fun _ _ h => h
    | cons act acts ih => exact fun _ _ h => ih _ _ (h.perform act)
  exact hrun acts [] [] fun _ => rfl

/-- **What is answered** is the pattern of the first pair that was asked
for since the last reset, this one included, and is the same text. -/
theorem getOrCompile_after (acts : List Act) (base template : List Char) :
    ∃ p, first? (asked acts ++ [(base, template)]) (base ++ template) = some p ∧
      ((after acts).getOrCompile base template).1 = compile p.1 p.2 := by
  have hkept := keeps_after acts (base ++ template)
  rw [first?_concat, if_pos rfl, getOrCompile, hkept]
  cases first? (asked acts) (base ++ template) with
  | none => exact ⟨_, rfl, rfl⟩
  | some p => exact ⟨p, rfl, rfl⟩

/-- Every answer in a run is alike to the pattern that would be compiled
for what was asked. -/
def Transparent (acts : List Act) : Prop :=
  ∀ before base template rest, acts = before ++ .ask base template :: rest →
    Alike ((after before).getOrCompile base template).1 (compile base template)

/-- A run asks for no base paths but these. -/
def AsksOnly (bases : List Char → Prop) (acts : List Act) : Prop :=
  ∀ base template, .ask base template ∈ acts → bases base

theorem mem_of_mem_asked {acts : List Act} {p : List Char × List Char} (h : p ∈ asked acts) :
    .ask p.1 p.2 ∈ acts := by
  have hrun : ∀ (acts : List Act) (pairs : List (List Char × List Char)),
      p ∈ acts.foldl asking pairs → p ∈ pairs ∨ .ask p.1 p.2 ∈ acts := by
    intro acts
    induction acts with
    | nil => exact fun _ h => Or.inl h
    | cons act acts ih =>
      intro pairs h
      rcases ih _ h with h | h
      · cases act with
        | reset => exact absurd h List.not_mem_nil
        | ask base template =>
          refine (List.mem_append.1 h).imp_right fun h => ?_
          rw [List.mem_singleton.1 h]
          exact List.mem_cons_self
      · exact Or.inr (List.mem_cons_of_mem _ h)
  exact (hrun acts [] h).resolve_left List.not_mem_nil

/-- **When the cache does not show.** In every run, what is answered is the
pattern of the first pair since the last reset that is the same text as the
pair that is asked for. And for any base paths, every answer of every run
that asks for no others is alike to the pattern that would be compiled,
exactly if each two of the base paths are compatible. -/
theorem transparent_exact (bases : List Char → Prop) :
    (∀ acts base template, ∃ p,
      first? (asked acts ++ [(base, template)]) (base ++ template) = some p ∧
        ((after acts).getOrCompile base template).1 = compile p.1 p.2) ∧
    ((∀ acts, AsksOnly bases acts → Transparent acts) ↔
      ∀ base base', bases base → bases base' → Compatible base base') := by
  refine ⟨getOrCompile_after, fun h base base' hbase hbase' => ?_, ?_⟩
  · refine compatible_iff.2 fun template template' htext => ?_
    have hasks : AsksOnly bases [.ask base template, .ask base' template'] := by
      intro b t hb
      simp only [List.mem_cons, Act.ask.injEq, List.not_mem_nil, or_false] at hb
      rcases hb with ⟨rfl, -⟩ | ⟨rfl, -⟩
      · exact hbase
      · exact hbase'
    -- the second of two pairs that are one text gets the pattern of the first
    have hsecond := h _ hasks [.ask base template] base' template' [] rfl
    obtain ⟨p, hp, hanswer⟩ := getOrCompile_after [.ask base template] base' template'
    have hfirst : p = (base, template) := by
      rw [first?, asked, List.foldl_cons, List.foldl_nil, asking, List.nil_append,
        List.singleton_append, List.find?_cons, decide_eq_true htext] at hp
      exact (Option.some.inj hp).symm
    rwa [hanswer, hfirst] at hsecond
  · intro h acts hasks before base template rest hacts
    obtain ⟨p, hp, hanswer⟩ := getOrCompile_after before base template
    have htext : p.1 ++ p.2 = base ++ template := by simpa using List.find?_some hp
    have hask : .ask base template ∈ acts := by simp [hacts]
    have hpbase : bases p.1 := by
      rcases List.mem_append.1 (List.mem_of_find?_eq_some hp) with hmem | hmem
      · refine hasks p.1 p.2 ?_
        rw [hacts]
        exact List.mem_append_left _ (mem_of_mem_asked hmem)
      · rw [List.mem_singleton.1 hmem]
        exact hasks base template hask
    rw [hanswer]
    exact compatible_iff.1 (h p.1 base hpbase (hasks base template hask)) p.2 template htext

/-- **A placeholder is mixed up with a part of a base path.** One API has
the base path `/{tenant}` and the path `/peaks`, and another has no base
path and the path `/{tenant}/peaks`. Once the first is asked for, the
second gets its pattern, which takes no tenant out of any path. -/
theorem base_mixed_up_with_placeholder :
    let cache := after [.ask "/{tenant}".toList "/peaks".toList]
    let answer := (cache.getOrCompile [] "/{tenant}/peaks".toList).1
    let compiled := compile [] "/{tenant}/peaks".toList
    ¬ Alike answer compiled ∧
      answer.capture? "/acme/peaks".toList "tenant".toList = none ∧
      compiled.capture? "/acme/peaks".toList "tenant".toList = some "acme".toList := by
  intro cache answer compiled
  have hnames : answer.names = [] ∧ compiled.names ≠ [] := by decide +kernel
  exact ⟨fun h => h.symm.names_ne_nil hnames.2 hnames.1, by decide +kernel, by decide +kernel⟩

end PatternCache

end Template

end ApiGateway
