import ApiGateway.Proofs.Pattern.Language
import ApiGateway.Route.Candidate
/-!
# Routes — what the search finds

A slot is a template of an entry at its position. Which slots are
eligible for a method and a path is said without the search: the pattern
matches the path, and the template declares the method or the entry
answers the preflight. What a pattern is and what it matches is left to
the reader of patterns; that of the gateway matches what fits
(`Slot.matches_reader_iff`).

The search keeps a threshold and discards earlier finds, so what it holds
is told from the slots tried so far (`Search.Holds`): the threshold bounds
the eligible scores from below and is one of them, unless it is still the
greatest score there is. `find_exact` reads the outcome off at the end:
the eligible slots of the least score, each once and in order, in whatever
order the scores come.
-/

namespace ApiGateway

/-- No score exceeds the greatest. -/
theorem Template.Score.le_greatest (a : Template.Score) : a ≤ .greatest :=
  Nat.le_sub_one_of_lt a.isLt

/-! ## Slots -/

/-- A template of an entry, with its position in it. -/
structure Slot where
  entry : RouteEntry
  index : Nat
  path : RoutePath

namespace Slot

variable {read : PatternReader} {method target : String} {entries entries' : List RouteEntry}
  {t : Slot}

/-- The slots of an entry in their order. -/
def ofEntry (entry : RouteEntry) : List Slot :=
  entry.apiPaths.zipIdx.map fun p => ⟨entry, p.2, p.1⟩

/-- The slots of a list of entries, entry by entry. -/
def all (entries : List RouteEntry) : List Slot := entries.flatMap ofEntry

/-- The pattern of the template is one, and matches the path. -/
def Matches (read : PatternReader) (target : String) (t : Slot) : Prop :=
  ∃ test, read t.path.pathRegex = some test ∧ test target = true

/-- The template declares the method. -/
def Declares (method : String) (t : Slot) : Prop := ∃ m ∈ t.path.pathMethods, m.method = method

/-- **A slot is eligible** if its pattern matches the path and it declares
the method, or the method is that of preflights and the entry answers
them. -/
def Eligible (read : PatternReader) (method target : String) (t : Slot) : Prop :=
  t.Matches read target ∧ (t.Declares method ∨ method = optionsMethod ∧ t.entry.corsEnabled = true)

/-- A slot is best among those of some entries if it is eligible and no
eligible one has a lower score. -/
def Best (read : PatternReader) (method target : String) (entries : List RouteEntry) (t : Slot) :
    Prop :=
  t.Eligible read method target ∧ ∀ u ∈ all entries, u.Eligible read method target →
    t.path.matchingScore ≤ u.path.matchingScore

theorem isMatch_iff : t.path.isMatch read target = true ↔ t.Matches read target := by
  unfold RoutePath.isMatch Matches
  cases read t.path.pathRegex with
  | none => simp
  | some test => simp

/-- In the notation of templates, matching is fitting. -/
theorem matches_reader_iff : t.Matches Pattern.reader target ↔
    ∃ pattern, Pattern.parse? t.path.pathRegex.toList = some pattern ∧
      pattern.Fits target.toList := by
  unfold Matches Pattern.reader
  cases Pattern.parse? t.path.pathRegex.toList with
  | none => simp
  | some pattern => simp [Pattern.isMatch_iff_fits]

theorem isSome_method?_iff : (t.path.method? method).isSome = true ↔ t.Declares method := by
  simp [RoutePath.method?, Declares]

/-- Eligibility as the search finds it out. -/
theorem eligible_iff : t.Eligible read method target ↔
    t.path.isMatch read target = true ∧ ((t.path.method? method).isNone &&
      (method != optionsMethod || !t.entry.corsEnabled)) = false := by
  rw [Eligible, ← isMatch_iff, ← isSome_method?_iff]
  -- without an operation for the method only a preflight is left
  cases t.path.method? method <;> simp

instance (read : PatternReader) (method target : String) (t : Slot) :
    Decidable (t.Eligible read method target) :=
  decidable_of_iff _ eligible_iff.symm

instance (read : PatternReader) (method target : String) (entries : List RouteEntry) (t : Slot) :
    Decidable (t.Best read method target entries) :=
  inferInstanceAs (Decidable (_ ∧ _))

/-- The methods a cross-origin answer names: the declared ones, and that
of preflights at the end if it is not among them. -/
def allowedMethods (t : Slot) : String :=
  let declared := t.path.pathMethods.map (·.method)
  ",".intercalate (declared ++ if optionsMethod ∈ declared then [] else [optionsMethod])

/-- **The candidate of a slot**: the first operation of the method, the
score of the template, and the methods for cross-origin answers if the
entry gives them. -/
def candidate (method : String) (t : Slot) : Candidate :=
  { score := t.path.matchingScore
    entry := t.entry
    pathIndex := t.index
    path := t.path
    method := t.path.pathMethods.find? fun m => m.method = method
    allowMethods := if t.entry.corsEnabled then t.allowedMethods else "" }

theorem allowMethods_eq : t.path.allowMethods = t.allowedMethods := by
  unfold RoutePath.allowMethods allowedMethods
  rw [String.joined_eq_intercalate]
  by_cases h : optionsMethod ∈ t.path.pathMethods.map (·.method)
  · simp [h]
  · simp [h]

theorem ofPath_eq : Candidate.ofPath t.entry t.index t.path method = t.candidate method := by
  rw [candidate, ← allowMethods_eq]
  rfl

/-- The order of the entries does not matter for which slots are best. -/
theorem best_congr (h : entries.Perm entries') :
    t.Best read method target entries ↔ t.Best read method target entries' := by
  have hmem : ∀ u, u ∈ all entries ↔ u ∈ all entries' := fun u => (h.flatMap_right ofEntry).mem_iff
  simp only [Best, hmem]

/-- A slot is a template of one of the entries, where the entry has it. -/
theorem mem_all : t ∈ all entries ↔
    t.entry ∈ entries ∧ t.entry.apiPaths[t.index]? = some t.path := by
  rw [all, List.mem_flatMap]
  constructor
  · rintro ⟨entry, he, ht⟩
    obtain ⟨p, hp, rfl⟩ := List.mem_map.1 ht
    exact ⟨he, List.mem_zipIdx_iff_getElem?.1 hp⟩
  · rintro ⟨he, hp⟩
    exact ⟨t.entry, he, List.mem_map.2 ⟨(t.path, t.index), List.mem_zipIdx_iff_getElem?.2 hp, rfl⟩⟩

end Slot

/-! ## The search, slot by slot -/

namespace Candidate

variable {read : PatternReader} {method target : String} {entries : List RouteEntry}
  {seen : List Slot} {b : Search}

namespace Search

/-- A slot tried: it is taken in if it is eligible. -/
def tryOut (read : PatternReader) (method target : String) (b : Search) (t : Slot) : Search :=
  if t.Eligible read method target then b.accept (t.candidate method) else b

theorem visit_eq_tryOut (read : PatternReader) (method target : String) (entry : RouteEntry)
    (b : Search) (p : RoutePath × Nat) :
    visit read method target entry b p = tryOut read method target b ⟨entry, p.2, p.1⟩ := by
  unfold visit tryOut
  rw [← Slot.ofPath_eq]
  by_cases h : (⟨entry, p.2, p.1⟩ : Slot).Eligible read method target
  · obtain ⟨hm, hd⟩ := Slot.eligible_iff.1 h
    rw [if_pos h, if_pos hm, if_neg (by simp [hd])]
  · rw [if_neg h]
    split
    next hm =>
      refine if_pos (Bool.not_eq_false _ ▸ fun hd => ?_)
      exact h (Slot.eligible_iff.2 ⟨hm, hd⟩)
    next => rfl

theorem visitEntry_eq_foldl (read : PatternReader) (method target : String) (b : Search)
    (entry : RouteEntry) : visitEntry read method target b entry =
      (Slot.ofEntry entry).foldl (tryOut read method target) b := by
  rw [visitEntry, Slot.ofEntry, List.foldl_map]
  congr 1
  funext b p
  exact visit_eq_tryOut read method target entry b p

theorem foldl_visitEntry (read : PatternReader) (method target : String)
    (entries : List RouteEntry) (b : Search) :
    entries.foldl (visitEntry read method target) b =
      (Slot.all entries).foldl (tryOut read method target) b := by
  rw [Slot.all, List.foldl_flatMap]
  congr 1
  funext b entry
  exact visitEntry_eq_foldl read method target b entry

/-! ## What the search holds -/

/-- **What a search holds after some slots.** -/
structure Holds (read : PatternReader) (method target : String) (seen : List Slot) (b : Search) :
    Prop where
  /-- The finds are the eligible slots whose score is the threshold. -/
  tied_eq : b.tied = (seen.filter fun t =>
    t.Eligible read method target ∧ t.path.matchingScore = b.threshold).map (Slot.candidate method)
  /-- The threshold is no greater than an eligible score. -/
  le : ∀ t ∈ seen, t.Eligible read method target → b.threshold ≤ t.path.matchingScore
  /-- It is one, unless it has never moved. -/
  attained : b.threshold = .greatest ∨
    ∃ t ∈ seen, t.Eligible read method target ∧ t.path.matchingScore = b.threshold

theorem holds_start : Holds read method target [] start := ⟨rfl, by simp, Or.inl rfl⟩

/-- An eligible slot taken in. The threshold moves down to its score, or
stays where it is. -/
theorem Holds.accept (h : Holds read method target seen b) {t : Slot}
    (he : t.Eligible read method target) :
    Holds read method target (seen ++ [t]) (b.accept (t.candidate method)) := by
  have hscore : (t.candidate method).score = t.path.matchingScore := rfl
  unfold Search.accept
  rw [hscore]
  split
  next hlt =>
    -- worse than what was found
    refine ⟨?_, fun u hu hue => ?_, h.attained.imp_right fun ⟨u, hu, hs⟩ => ?_⟩
    · rw [List.filter_append, List.filter_cons, List.filter_nil, h.tied_eq]
      simp [he, (Fin.ne_of_lt hlt).symm]
    · rcases List.mem_append.1 hu with hu | hu
      · exact h.le u hu hue
      · exact List.mem_singleton.1 hu ▸ Fin.le_of_lt hlt
    · exact ⟨u, List.mem_append_left _ hu, hs⟩
  next hge =>
    split
    next hlt =>
      -- better than what was found
      refine ⟨?_, fun u hu hue => ?_, Or.inr ⟨t, by simp, he, rfl⟩⟩
      · have hnone : seen.filter (fun u => u.Eligible read method target ∧
            u.path.matchingScore = t.path.matchingScore) = [] := by
          refine List.filter_eq_nil_iff.2 fun u hu hs => ?_
          obtain ⟨hue, hus⟩ := of_decide_eq_true hs
          exact absurd (hus ▸ h.le u hu hue) (Fin.not_le.2 hlt)
        rw [List.filter_append, hnone, List.filter_cons, List.filter_nil]
        simp [he]
      · rcases List.mem_append.1 hu with hu | hu
        · exact Fin.le_trans (Fin.le_of_lt hlt) (h.le u hu hue)
        · exact List.mem_singleton.1 hu ▸ Fin.le_refl _
    next hle =>
      -- as good, which the first find at the greatest score is as well
      have hs : t.path.matchingScore = b.threshold :=
        Fin.le_antisymm (Fin.not_lt.1 hge) (Fin.not_lt.1 hle)
      refine ⟨?_, fun u hu hue => ?_, Or.inr ⟨t, by simp, he, hs⟩⟩
      · rw [List.filter_append, List.filter_cons, List.filter_nil, List.map_append, ← h.tied_eq]
        simp [he, hs]
      · rcases List.mem_append.1 hu with hu | hu
        · exact h.le u hu hue
        · rw [List.mem_singleton.1 hu]
          exact Fin.le_of_eq hs.symm

/-- **One more slot tried** keeps what a search holds. -/
theorem Holds.tryOut (h : Holds read method target seen b) (t : Slot) :
    Holds read method target (seen ++ [t]) (b.tryOut read method target t) := by
  unfold Search.tryOut
  by_cases he : t.Eligible read method target
  · rw [if_pos he]
    exact h.accept he
  · rw [if_neg he]
    refine ⟨?_, fun u hu => ?_, h.attained.imp_right fun ⟨u, hu, hs⟩ => ?_⟩
    · rw [List.filter_append, List.filter_cons, List.filter_nil, h.tied_eq]
      simp [he]
    · rcases List.mem_append.1 hu with hu | hu
      · exact h.le u hu
      · exact fun hue => absurd (List.mem_singleton.1 hu ▸ hue) he
    · exact ⟨u, List.mem_append_left _ hu, hs⟩

/-- **What a search holds after all slots**, from one slot to the next. -/
theorem holds_foldl (read : PatternReader) (method target : String) (slots : List Slot) :
    Holds read method target slots (slots.foldl (Search.tryOut read method target) start) := by
  suffices ∀ seen b, Holds read method target seen b →
      Holds read method target (seen ++ slots) (slots.foldl (Search.tryOut read method target) b) by
    simpa using this [] start holds_start
  -- the slots that were tried grow, those still to try are what the induction is on
  induction slots with
  | nil => simp
  | cons t slots ih =>
    intro seen b h
    have := ih (seen ++ [t]) (b.tryOut read method target t) (h.tryOut t)
    rwa [List.append_assoc, List.singleton_append] at this

/-- Among all slots, the eligible ones at the threshold are the best. -/
theorem Holds.best_iff (h : Holds read method target (Slot.all entries) b) {t : Slot}
    (ht : t ∈ Slot.all entries) :
    t.Eligible read method target ∧ t.path.matchingScore = b.threshold ↔
      t.Best read method target entries := by
  constructor
  · rintro ⟨he, hs⟩
    exact ⟨he, fun u hu hue => hs ▸ h.le u hu hue⟩
  · rintro ⟨he, hle⟩
    refine ⟨he, Fin.le_antisymm ?_ (h.le t ht he)⟩
    -- a threshold that never moved is the greatest score, and so are all eligible ones
    rcases h.attained with hlast | ⟨u, hu, hue, hs⟩
    · exact hlast ▸ Template.Score.le_greatest _
    · exact hs ▸ hle u hu hue

end Search

/-- The candidates are the best slots, in their order. -/
theorem find_eq_best (read : PatternReader) (method target : String) (entries : List RouteEntry) :
    find method target entries read =
      ((Slot.all entries).filter fun t => t.Best read method.asciiUpper target entries).map
        (Slot.candidate method.asciiUpper) := by
  have h := Search.holds_foldl read method.asciiUpper target (Slot.all entries)
  rw [find, Search.foldl_visitEntry, h.tied_eq]
  congr 1
  exact List.filter_congr fun t ht => decide_eq_decide.2 (h.best_iff ht)

/-- Where a slot is eligible, one is best. -/
theorem exists_best (read : PatternReader) (method target : String) (entries : List RouteEntry)
    (h : ∃ t ∈ Slot.all entries, t.Eligible read method target) :
    ∃ t ∈ Slot.all entries, t.Best read method target entries := by
  obtain ⟨t, ht, he⟩ := h
  have hb := Search.holds_foldl read method target (Slot.all entries)
  rcases hb.attained with hlast | ⟨u, hu, hs⟩
  · have hle := hb.le t ht he
    have hgreatest : t.path.matchingScore ≤ Template.Score.greatest :=
      Template.Score.le_greatest _
    exact ⟨t, ht, (hb.best_iff ht).1 ⟨he, Fin.le_antisymm (hlast ▸ hgreatest) hle⟩⟩
  · exact ⟨u, hu, (hb.best_iff hu).1 hs⟩

/-- No candidate is found exactly if no slot is eligible. -/
theorem find_eq_nil_iff (read : PatternReader) (method target : String)
    (entries : List RouteEntry) :
    find method target entries read = [] ↔
      ∀ t ∈ Slot.all entries, ¬ t.Eligible read method.asciiUpper target := by
  rw [find_eq_best, List.map_eq_nil_iff, List.filter_eq_nil_iff]
  constructor
  · intro h t ht he
    obtain ⟨u, hu, hb⟩ := exists_best _ _ _ _ ⟨t, ht, he⟩
    exact h u hu (decide_eq_true hb)
  · intro h t ht hb
    exact h t ht (of_decide_eq_true hb).1

/-- A candidate is a template of one of the entries, and its operation is
one that the template declares for the method. -/
theorem mem_find {c : Candidate} (hc : c ∈ find method target entries read) :
    c.entry ∈ entries ∧ c.path ∈ c.entry.apiPaths ∧
      ∀ m, c.method = some m → m ∈ c.path.pathMethods ∧ m.method = method.asciiUpper := by
  rw [find_eq_best] at hc
  obtain ⟨t, ht, rfl⟩ := List.mem_map.1 hc
  obtain ⟨he, hp⟩ := Slot.mem_all.1 (List.mem_filter.1 ht).1
  refine ⟨he, List.mem_of_getElem? hp, fun m hm => ⟨List.mem_of_find?_eq_some hm, ?_⟩⟩
  simpa using List.find?_some hm

/-- Entries in another order give the same candidates in another order. -/
theorem find_perm (read : PatternReader) (method target : String)
    {entries entries' : List RouteEntry} (h : entries.Perm entries') :
    (find method target entries read).Perm (find method target entries' read) := by
  rw [find_eq_best, find_eq_best]
  refine List.Perm.map _ ?_
  simp only [Slot.best_congr h]
  exact (h.flatMap_right Slot.ofEntry).filter _

/-- **The search is exact**, however texts are read as patterns. It finds
nothing if no slot is eligible, and otherwise the eligible slots of the
least score, each once, in the order of the entries and of the templates
in them. Another order of the entries changes nothing but the order of
the finds. In the notation of templates, a slot matches the paths that
its pattern fits. -/
theorem find_exact (method target : String) (entries : List RouteEntry) :
    (∀ read,
      (find method target entries read = [] ↔
        ∀ t ∈ Slot.all entries, ¬ t.Eligible read method.asciiUpper target) ∧
      find method target entries read =
        ((Slot.all entries).filter fun t => t.Best read method.asciiUpper target entries).map
          (Slot.candidate method.asciiUpper) ∧
      ∀ entries', entries.Perm entries' →
        (find method target entries read).Perm (find method target entries' read)) ∧
    ∀ t : Slot, t.Matches Pattern.reader target ↔
      ∃ pattern, Pattern.parse? t.path.pathRegex.toList = some pattern ∧
        pattern.Fits target.toList :=
  ⟨fun read => ⟨find_eq_nil_iff read method target entries, find_eq_best read method target entries,
    fun _ h => find_perm read method target h⟩, fun _ => Slot.matches_reader_iff⟩

end Candidate

end ApiGateway
