import ApiGateway.Proofs.Route.References
import ApiGateway.Proofs.Route.Selection
import ApiGateway.Proofs.Template.Scores
/-!
# Routes — literal templates among the candidates

A literal template, one without placeholders, is more specific than any
other, and scores nothing. So where one is eligible for a call, the
candidates are the eligible templates that score nothing: the literal ones
are all among them (`LiteralsPreferred.literals`), and no template is that makes
a score. But a template may have a placeholder and score nothing, if the
score does not count it; such a template is a candidate beside the literal
ones. `literals_exact` says when this happens. In `candidate_beside_literal`
it does, and the template comes first.
-/

namespace ApiGateway

/-- A template without placeholders. -/
def RoutePath.IsLiteral (p : RoutePath) : Prop := Template.hasPlaceholder p.path.toList = false

instance (p : RoutePath) : Decidable p.IsLiteral := inferInstanceAs (Decidable (_ = _))

namespace Route

open Template

variable {read : PatternReader} {method target : String} {entries : List RouteEntry}
  {t : Slot} {c : Candidate}

/-- Entries that were built, each from some records for some event. -/
def AllBuilt (entries : List RouteEntry) : Prop :=
  ∀ e ∈ entries, ∃ r event, e ∈ (build r event).entries

/-- The templates of built entries have the score of their text. -/
theorem AllBuilt.score (h : AllBuilt entries) (ht : t ∈ Slot.all entries) :
    t.path.matchingScore = matchingScore t.path.path.toList := by
  obtain ⟨he, hp⟩ := Slot.mem_all.1 ht
  obtain ⟨r, event, hbuilt⟩ := h t.entry he
  exact (compiled_of_build hbuilt (List.mem_of_getElem? hp)).score

theorem AllBuilt.score_of_literal (h : AllBuilt entries) (ht : t ∈ Slot.all entries)
    (hliteral : t.path.IsLiteral) : t.path.matchingScore = 0 :=
  (h.score ht).trans (matchingScore_of_literal hliteral)

/-- Where a literal template is eligible, the best are the eligible ones that
score nothing. -/
theorem AllBuilt.best_iff (h : AllBuilt entries) {u : Slot} (hu : u ∈ Slot.all entries)
    (heligible : u.Eligible read method target) (hliteral : u.path.IsLiteral) :
    t.Best read method target entries ↔
      t.Eligible read method target ∧ t.path.matchingScore = 0 := by
  have hzero := h.score_of_literal hu hliteral
  constructor
  · rintro ⟨he, hleast⟩
    have hle := hleast u hu heligible
    rw [hzero] at hle
    exact ⟨he, Fin.le_zero_iff.1 hle⟩
  · rintro ⟨he, hs⟩
    refine ⟨he, fun v _ _ => ?_⟩
    rw [hs]
    exact Fin.zero_le _

/-- **What becomes of a call that a literal template is eligible for.** -/
structure LiteralsPreferred (read : PatternReader) (method target : String)
    (entries : List RouteEntry) : Prop where
  /-- The candidates are the eligible templates that score nothing, in their
  order. -/
  found : Candidate.find method target entries read = ((Slot.all entries).filter fun t =>
    t.Eligible read method.asciiUpper target ∧ t.path.matchingScore = 0).map
      (Slot.candidate method.asciiUpper)
  /-- All eligible literal templates are among them. -/
  literals : ∀ t ∈ Slot.all entries, t.Eligible read method.asciiUpper target →
    t.path.IsLiteral → t.candidate method.asciiUpper ∈ Candidate.find method target entries read
  /-- Another template is among them only if none of its placeholders is
  counted, or if it has so many slashes that the sum may start over. -/
  others : ∀ c ∈ Candidate.find method target entries read, ¬ c.path.IsLiteral →
    ¬ Counted c.path.path.toList ∨ 92681 < c.path.path.toList.count '/'
  /-- So they are all literal exactly if every other eligible template adds up
  to something, also in 32 bits. -/
  only_literals : (∀ c ∈ Candidate.find method target entries read, c.path.IsLiteral) ↔
    ∀ t ∈ Slot.all entries, t.Eligible read method.asciiUpper target → ¬ t.path.IsLiteral →
      ¬ Nat.pow 2 32 ∣ weight t.path.path.toList

/-- **Literal templates are always candidates, and which others are beside
them**, for entries that were built in whatever way. -/
theorem literals_exact (h : AllBuilt entries) (read : PatternReader) (method target : String)
    (hliteral : ∃ t ∈ Slot.all entries,
      t.Eligible read method.asciiUpper target ∧ t.path.IsLiteral) :
    LiteralsPreferred read method target entries := by
  obtain ⟨u, hu, heligible, hu'⟩ := hliteral
  have hfound : Candidate.find method target entries read = ((Slot.all entries).filter fun t =>
      t.Eligible read method.asciiUpper target ∧ t.path.matchingScore = 0).map
        (Slot.candidate method.asciiUpper) := by
    rw [Candidate.find_eq_best]
    congr 1
    exact List.filter_congr fun t _ => decide_eq_decide.2 (h.best_iff hu heligible hu')
  have hmem : ∀ c, c ∈ Candidate.find method target entries read ↔ ∃ t ∈ Slot.all entries,
      (t.Eligible read method.asciiUpper target ∧ Nat.pow 2 32 ∣ weight t.path.path.toList) ∧
        t.candidate method.asciiUpper = c := by
    intro c
    rw [hfound, List.mem_map]
    refine exists_congr fun t => ?_
    rw [List.mem_filter, decide_eq_true_eq, and_assoc]
    refine and_congr_right fun ht => ?_
    rw [h.score ht, matchingScore_eq_zero_iff]
  refine ⟨hfound, fun t ht he hlit => ?_, fun c hc hother => ?_, fun hall t ht he hother hdvd => ?_,
    fun hnone c hc => ?_⟩
  · have hzero := (h.score ht).symm.trans (h.score_of_literal ht hlit)
    exact (hmem _).2 ⟨t, ht, ⟨he, matchingScore_eq_zero_iff.1 hzero⟩, rfl⟩
  · obtain ⟨t, -, ⟨-, hdvd⟩, rfl⟩ := (hmem c).1 hc
    by_contra hcounted
    obtain ⟨hsome, hslashes⟩ := not_or.1 hcounted
    exact matchingScore_ne_zero (Classical.not_not.1 hsome) (Nat.not_lt.1 hslashes)
      (matchingScore_eq_zero_iff.2 hdvd)
  · exact hother (hall _ ((hmem _).2 ⟨t, ht, ⟨he, hdvd⟩, rfl⟩))
  · obtain ⟨t, ht, ⟨he, hdvd⟩, rfl⟩ := (hmem c).1 hc
    by_contra hother
    exact hnone t ht he hother hdvd

/-! ## A template that is not counted -/

/-- An API with a template that does not begin with a slash. -/
def unslashedApi : Api :=
  ⟨"a", { ApiDocument.blank with
    info := ⟨none, "1.0.0", "climbs"⟩
    paths := [("\x7brange\x7d/peaks", .object [("get", .object [])]),
      ("/x/peaks", .object [("get", .object [])]),
      ("/routes/\x7bid\x7d", .object [("get", .object [])]),
      ("/routes/best", .object [("get", .object [])])] }⟩

/-- A subscription to it. -/
def unslashedSubscription : Subscription :=
  ⟨"u", ⟨"app", none, [⟨"k", none⟩]⟩,
    ⟨"r", ⟨"g", "gold", none⟩, ⟨"p"⟩, [⟨none, ⟨⟨none, "1.0.0", "climbs"⟩⟩⟩]⟩⟩

/-- What is built when both are in a snapshot. -/
def unslashedCase (s : SnapshotId) : List RouteEntry :=
  (build (.after [.catalog s ⟨"c", "sandbox", none, ⟨"o", "acme"⟩⟩, .api s unslashedApi,
    .product s ⟨"p", ⟨"c", ""⟩, .blank⟩, .subscription s unslashedSubscription])
    (.subscription s "u")).entries

theorem allBuilt_unslashedCase (s : SnapshotId) : AllBuilt (unslashedCase s) :=
  fun _ he => ⟨_, _, he⟩

/-- **A placeholder that is counted gives way** to a literal template. -/
theorem literal_alone :
    (∃ t ∈ Slot.all (unslashedCase ⟨1, by decide⟩),
      t.Eligible Pattern.reader "GET" "/routes/best" ∧ t.path.IsLiteral) ∧
    ∀ c ∈ Candidate.find "get" "/routes/best" (unslashedCase ⟨1, by decide⟩), c.path.IsLiteral := by
  have hsome : ∃ t ∈ Slot.all (unslashedCase ⟨1, by decide⟩),
      t.Eligible Pattern.reader "get".asciiUpper "/routes/best" ∧ t.path.IsLiteral := by
    decide +kernel
  refine ⟨hsome, (literals_exact (allBuilt_unslashedCase _) Pattern.reader "get" "/routes/best"
    hsome).only_literals.2 ?_⟩
  decide +kernel

/-- **A placeholder before the first slash is not counted**: the template is
a candidate beside the literal one, and the first of all. -/
theorem candidate_beside_literal :
    AllBuilt (unslashedCase ⟨1, by decide⟩) ∧
    (∃ t ∈ Slot.all (unslashedCase ⟨1, by decide⟩),
      t.Eligible Pattern.reader "GET" "/x/peaks" ∧ t.path.IsLiteral) ∧
    ((Candidate.find "GET" "/x/peaks" (unslashedCase ⟨1, by decide⟩)).map fun c =>
      (c.path.path, Template.hasPlaceholder c.path.path.toList)) =
        [("\x7brange\x7d/peaks", true), ("/x/peaks", false)] :=
  ⟨allBuilt_unslashedCase _, by decide +kernel, by decide +kernel⟩

end Route

end ApiGateway
