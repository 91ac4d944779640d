import ApiGateway.Proofs.Records.Listing
import ApiGateway.Proofs.Route.Selection
import ApiGateway.Proofs.Route.Stored
/-!
# Routes — which candidate is chosen for a call

What a caller may use in a snapshot, what serves a call and what is the
best of it is said of the stored entries alone (`Suits`), without a
search. The slots of a listing stand in the order of their entries' keys
and, within an entry, of their positions (`Slot.Before`), so the choice
among the candidates is the first slot that suits
(`select?_eq_some_iff`), and nothing is chosen exactly if no slot suits
(`select?_eq_none_iff`).
-/

namespace ApiGateway

/-! ## The order of slots -/

namespace Slot

/-- **The order of slots**: that of the keys of their entries, and within
an entry that of the positions. -/
def Before (t u : Slot) : Prop :=
  t.entry.key < u.entry.key ∨ t.entry.key = u.entry.key ∧ t.index < u.index

theorem pairwise_ofEntry (e : RouteEntry) : (ofEntry e).Pairwise Before := by
  have hindices : (e.apiPaths.zipIdx.map Prod.snd).Pairwise (· < ·) := by
    rw [List.zipIdx_map_snd]
    exact List.pairwise_lt_range' 1
  refine List.pairwise_map.2 ((List.pairwise_map.1 hindices).imp ?_)
  exact fun hlt => Or.inr ⟨rfl, hlt⟩

/-- Entries in the order of their keys have their slots in order. -/
theorem pairwise_all {entries : List RouteEntry}
    (h : entries.Pairwise fun e e' => e.key < e'.key) : (all entries).Pairwise Before := by
  refine List.pairwise_flatMap.2 ⟨fun e _ => pairwise_ofEntry e, h.imp ?_⟩
  intro e e' hlt t ht u hu
  obtain ⟨p, -, rfl⟩ := List.mem_map.1 ht
  obtain ⟨q, -, rfl⟩ := List.mem_map.1 hu
  exact Or.inl hlt

/-- The entry of a slot has the secret that is asked for, if one is. -/
def HasSecret (secret : Option String) (t : Slot) : Prop :=
  ∀ x, secret = some x → t.entry.clientSecret = some x

theorem hasSecret_some_iff {t : Slot} {x : String} :
    t.HasSecret (some x) ↔ t.entry.clientSecret = some x :=
  ⟨fun h => h x rfl, fun h _ hx => Option.some.inj hx ▸ h⟩

instance (secret : Option String) (t : Slot) : Decidable (t.HasSecret secret) :=
  match secret with
  | none => isTrue fun _ => nofun
  | some _ => decidable_of_iff _ hasSecret_some_iff.symm

/-- Slots before others are different ones. -/
theorem Before.asymm {t u : Slot} (h : t.Before u) : ¬ u.Before t := by
  rintro (hlt | ⟨heq, hlt⟩)
  · rcases h with hlt' | ⟨heq', -⟩
    · exact lt_asymm hlt hlt'
    · exact absurd (heq' ▸ hlt) (lt_irrefl _)
  · rcases h with hlt' | ⟨-, hlt'⟩
    · exact absurd (heq ▸ hlt') (lt_irrefl _)
    · omega

end Slot

section

variable {α : Type} {R : α → α → Prop} {l : List α} {test : α → Bool} {a : α}

/-- In an ordered list, what is found comes before all else that passes
the test. -/
theorem before_of_find? (hl : l.Pairwise R) (h : l.find? test = some a) {b : α} (hb : b ∈ l)
    (hb' : test b = true) : b = a ∨ R a b := by
  obtain ⟨-, before, after, rfl, hbefore⟩ := List.find?_eq_some_iff_append.1 h
  obtain ⟨-, hrest, -⟩ := List.pairwise_append.1 hl
  rcases List.mem_append.1 hb with hb | hb
  · have hfails := hbefore b hb
    rw [hb'] at hfails
    cases hfails
  · rcases List.mem_cons.1 hb with rfl | hb
    · exact Or.inl rfl
    · exact Or.inr ((List.pairwise_cons.1 hrest).1 b hb)

/-- In an ordered list, an element is found exactly if it passes the test
and comes before all else that does. -/
theorem find?_eq_some_iff_of_pairwise (hl : l.Pairwise R) (hasymm : ∀ a b, R a b → ¬ R b a) :
    l.find? test = some a ↔
      a ∈ l ∧ test a = true ∧ ∀ b ∈ l, test b = true → b = a ∨ R a b := by
  constructor
  · intro h
    exact ⟨List.mem_of_find?_eq_some h, List.find?_some h, fun b hb => before_of_find? hl h hb⟩
  · rintro ⟨ha, htest, hfirst⟩
    cases hfind : l.find? test with
    | none => exact absurd htest (List.find?_eq_none.1 hfind a ha)
    | some b =>
      have hb := List.mem_of_find?_eq_some hfind
      have hbtest := List.find?_some hfind
      -- each of the two comes before the other unless they are one
      rcases hfirst b hb hbtest with rfl | hab
      · rfl
      · rcases before_of_find? hl hfind ha htest with rfl | hba
        · rfl
        · exact absurd hba (hasymm a b hab)

end

namespace Route

variable {r : Records} {s : SnapshotId} {call : Call} {t : Slot}

/-! ## What suits a call -/

/-- **A slot serves a call** from a snapshot: its entry is stored there
under the client id that the caller presents, or the reserved one, and is
eligible for the call. -/
structure Serves (r : Records) (s : SnapshotId) (call : Call) (t : Slot) : Prop where
  stored : r.routeEntries.get? s t.entry.key = some t.entry
  client : t.entry.clientId = call.clientId?.getD defaultClientId
  template : t.entry.apiPaths[t.index]? = some t.path
  eligible : t.Eligible Pattern.reader call.method.asciiUpper call.path

/-- The entry of a slot has the secret that the caller presents, if it
presents one. -/
def SharesSecret (call : Call) (t : Slot) : Prop :=
  ∀ secret, call.clientSecret? = some secret → t.entry.clientSecret = some secret

/-- **A slot suits a call**: it serves it, no slot with a lower score
does, and its entry has the caller's secret. -/
structure Suits (r : Records) (s : SnapshotId) (call : Call) (t : Slot) : Prop where
  serves : Serves r s call t
  least : ∀ u, Serves r s call u → t.path.matchingScore ≤ u.path.matchingScore
  secret : SharesSecret call t

/-- **The slot that is chosen** suits the call, and comes before all
others that do. -/
structure Chosen (r : Records) (s : SnapshotId) (call : Call) (t : Slot) : Prop where
  suits : Suits r s call t
  first : ∀ u, Suits r s call u → u = t ∨ t.Before u

instance (call : Call) (t : Slot) : Decidable (SharesSecret call t) :=
  match h : call.clientSecret? with
  | none => isTrue fun _ hs => absurd (h.symm.trans hs) nofun
  | some secret =>
    decidable_of_iff (t.entry.clientSecret = some secret)
      ⟨fun he _ hs => Option.some.inj (h.symm.trans hs) ▸ he, fun hs => hs secret h⟩

/-! ## The choice among the candidates -/

/-- What the caller sees, entry by entry in the order of their keys. -/
theorem pairwise_visibleEntries (h : Keyed r.routeEntries) (client : Option String) :
    (r.visibleEntries s client).Pairwise fun e e' => e.key < e'.key := by
  have hkey : ∀ p ∈ r.routeEntries.listing s fun e => e.clientId = client.getD defaultClientId,
      p.2.key = p.1 := by
    intro p hp
    exact (h.own s p.1 p.2 (Collection.mem_listing.1 hp).1).2
  rw [Records.visibleEntries, Collection.filter_eq_listing, List.pairwise_map]
  refine (Collection.pairwise_listing h.nodup s _).imp_of_mem fun {p q} hp hq hlt => ?_
  rw [hkey p hp, hkey q hq]
  exact hlt

/-- The slots that serve a call are the eligible ones of what its caller
sees. -/
theorem serves_iff (h : Keyed r.routeEntries) :
    Serves r s call t ↔ t ∈ Slot.all (r.visibleEntries s call.clientId?) ∧
      t.Eligible Pattern.reader call.method.asciiUpper call.path := by
  rw [Slot.mem_all, h.mem_visibleEntries]
  constructor
  · rintro ⟨hstored, hclient, htemplate, heligible⟩
    exact ⟨⟨⟨hstored, hclient⟩, htemplate⟩, heligible⟩
  · rintro ⟨⟨⟨hstored, hclient⟩, htemplate⟩, heligible⟩
    exact ⟨hstored, hclient, htemplate, heligible⟩

/-- The slots that suit a call are the best ones of what its caller sees
that have its secret. -/
theorem suits_iff (h : Keyed r.routeEntries) :
    Suits r s call t ↔ t ∈ Slot.all (r.visibleEntries s call.clientId?) ∧
      t.Best Pattern.reader call.method.asciiUpper call.path
        (r.visibleEntries s call.clientId?) ∧ SharesSecret call t := by
  constructor
  · rintro ⟨hserves, hleast, hsecret⟩
    obtain ⟨hmem, heligible⟩ := (serves_iff h).1 hserves
    exact ⟨hmem, ⟨heligible, fun u hu hue => hleast u ((serves_iff h).2 ⟨hu, hue⟩)⟩, hsecret⟩
  · rintro ⟨hmem, ⟨heligible, hleast⟩, hsecret⟩
    refine ⟨(serves_iff h).2 ⟨hmem, heligible⟩, fun u hu => ?_, hsecret⟩
    obtain ⟨hu, hue⟩ := (serves_iff h).1 hu
    exact hleast u hu hue

/-- **The selection is a search for the first slot** that is best and has
the secret, if one is asked for. -/
theorem select?_find_of_secret (read : PatternReader) (method target : String)
    (entries : List RouteEntry) (secret : Option String) :
    Candidate.select? (Candidate.find method target entries read) secret =
      ((Slot.all entries).find? fun t =>
        t.Best read method.asciiUpper target entries ∧ t.HasSecret secret).map
          (Slot.candidate method.asciiUpper) := by
  rw [Candidate.find_eq_best]
  cases secret with
  | none =>
    have hall : ∀ t : Slot, t.HasSecret none := fun _ => nofun
    simp only [Candidate.select?, List.head?_map, List.head?_filter, hall, and_true]
  | some secret =>
    simp only [Candidate.select?, List.find?_map, List.find?_filter]
    refine congrArg (fun test => ((Slot.all entries).find? test).map _) (funext fun t => ?_)
    refine decide_eq_decide.2 ?_
    rw [Slot.hasSecret_some_iff, decide_eq_true_eq]
    exact and_congr_right fun _ => decide_eq_true_iff

/-- The same for a call and its own secret. -/
theorem select?_find (entries : List RouteEntry) (call : Call) :
    Candidate.select? (Candidate.find call.method call.path entries) call.clientSecret? =
      ((Slot.all entries).find? fun t =>
        t.Best Pattern.reader call.method.asciiUpper call.path entries ∧
          SharesSecret call t).map (Slot.candidate call.method.asciiUpper) := by
  rw [select?_find_of_secret Pattern.reader call.method call.path entries call.clientSecret?]
  refine congrArg (fun test => ((Slot.all entries).find? test).map _) (funext fun t => ?_)
  exact decide_eq_decide.2 Iff.rfl

/-- **What is chosen.** The candidate that is selected is that of the
chosen slot. -/
theorem select?_eq_some_iff (h : Keyed r.routeEntries) {c : Candidate} :
    Candidate.select? (Candidate.find call.method call.path
        (r.visibleEntries s call.clientId?)) call.clientSecret? = some c ↔
      ∃ t, Chosen r s call t ∧ t.candidate call.method.asciiUpper = c := by
  have hordered := Slot.pairwise_all (pairwise_visibleEntries (s := s) h call.clientId?)
  rw [select?_find, Option.map_eq_some_iff]
  refine exists_congr fun t => and_congr_left fun _ => ?_
  rw [find?_eq_some_iff_of_pairwise hordered fun _ _ => Slot.Before.asymm]
  simp only [decide_eq_true_eq]
  constructor
  · rintro ⟨hmem, hbest, hfirst⟩
    refine ⟨(suits_iff h).2 ⟨hmem, hbest⟩, fun u hu => ?_⟩
    obtain ⟨hu, hubest⟩ := (suits_iff h).1 hu
    exact hfirst u hu hubest
  · rintro ⟨hsuits, hfirst⟩
    obtain ⟨hmem, hbest⟩ := (suits_iff h).1 hsuits
    exact ⟨hmem, hbest, fun u hu hubest => hfirst u ((suits_iff h).2 ⟨hu, hubest⟩)⟩

/-- **Nothing is selected exactly if no slot suits.** -/
theorem select?_eq_none_iff (h : Keyed r.routeEntries) :
    Candidate.select? (Candidate.find call.method call.path
        (r.visibleEntries s call.clientId?)) call.clientSecret? = none ↔
      ∀ t, ¬ Suits r s call t := by
  rw [select?_find, Option.map_eq_none_iff, List.find?_eq_none]
  simp only [decide_eq_true_eq]
  constructor
  · intro hnone t ht
    obtain ⟨hmem, hbest⟩ := (suits_iff h).1 ht
    exact hnone t hmem hbest
  · intro hnone t hmem hbest
    exact hnone t ((suits_iff h).2 ⟨hmem, hbest⟩)

end Route

end ApiGateway
