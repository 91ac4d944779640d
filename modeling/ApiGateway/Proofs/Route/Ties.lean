import ApiGateway.Proofs.Records.Belonging
import ApiGateway.Proofs.Route.Choice
/-!
# Routes — candidates that tie

Candidates of one score are told apart by the order of the entries alone, so
who is charged for a call hangs on that order. Entries come and go in some
history, and what holds them may go through them in any order, another one
each time (`Leaves`). None of it shows. Which entries stand after a history
is said of the history (`Stands`, `Leaves.get?_eq_some_iff`), and a listing is
the only list in the order of the keys that has them (`Leaves.visible_congr`).

So after two histories that leave the same entries of a snapshot, all that is
listed, found and selected is the same, and of candidates that tie the one
whose entry has the first key is taken (`ties_exact`).
-/

namespace ApiGateway

namespace Route

/-! ## Histories of entries -/

/-- A change of the stored entries: an entry stored, in place of the one with
its snapshot and key, or a snapshot purged. -/
inductive EntryChange where
  | stored (e : RouteEntry)
  | purged (s : SnapshotId)

/-- A change takes an entry away. -/
def EntryChange.Displaces (e : RouteEntry) : EntryChange → Prop
  | .stored e' => e'.snapshotId = e.snapshotId ∧ e'.key = e.key
  | .purged s => s = e.snapshotId

variable {cs cs' : List EntryChange} {r r' : Records} {s : SnapshotId} {e : RouteEntry}
  {key : String} {client : Option String}

/-- **Changes leave records**: the changes were made one after the other, and
before and after each one the entries may have got into any other order. What
else is stored does not matter. -/
inductive Leaves : List EntryChange → Records → Prop where
  | start {r : Records} : r.routeEntries = [] → Leaves [] r
  | stored {cs : List EntryChange} {r : Records} (e : RouteEntry) :
      Leaves cs r → Leaves (cs ++ [.stored e]) (r.putRouteEntry e)
  | purged {cs : List EntryChange} {r : Records} (s : SnapshotId) :
      Leaves cs r → Leaves (cs ++ [.purged s]) (r.purge s)
  | reordered {cs : List EntryChange} {r r' : Records} :
      Leaves cs r → r.routeEntries.Perm r'.routeEntries → Leaves cs r'

/-- Records with a change. -/
def EntryChange.apply (r : Records) : EntryChange → Records
  | .stored e => r.putRouteEntry e
  | .purged s => r.purge s

/-- Any changes can be made. -/
theorem Leaves.foldl_apply (h : Leaves cs r) (later : List EntryChange) :
    Leaves (cs ++ later) (later.foldl EntryChange.apply r) := by
  induction later generalizing cs r with
  | nil => rwa [List.append_nil]
  | cons change later ih =>
    rw [List.append_cons, List.foldl_cons]
    cases change with
    | stored e => exact ih (h.stored e)
    | purged s => exact ih (h.purged s)

/-- **An entry stands after changes**: it was stored, and no later change took
it away. -/
def Stands (cs : List EntryChange) (e : RouteEntry) : Prop :=
  ∃ before after, cs = before ++ .stored e :: after ∧ ∀ change ∈ after, ¬ change.Displaces e

theorem not_stands_nil : ¬ Stands [] e := by
  rintro ⟨before, after, hcs, -⟩
  cases (List.append_eq_nil_iff.1 hcs.symm).2

/-- **One more change**: an entry stands if it was stored just now, or stood
and was not taken away. -/
theorem stands_concat_iff {change : EntryChange} :
    Stands (cs ++ [change]) e ↔ change = .stored e ∨ Stands cs e ∧ ¬ change.Displaces e := by
  constructor
  · rintro ⟨before, after, hcs, hafter⟩
    rcases List.eq_nil_or_concat after with rfl | ⟨after, last, rfl⟩
    · exact Or.inl (List.append_inj' hcs rfl |>.2 |> List.singleton_inj.1)
    · have hcs' : cs ++ [change] = (before ++ .stored e :: after) ++ [last] := by simp [hcs]
      obtain ⟨rfl, hlast⟩ := List.append_inj' hcs' rfl
      obtain rfl := List.singleton_inj.1 hlast
      exact Or.inr ⟨⟨before, after, rfl, fun c hc => hafter c (by simp [hc])⟩,
        hafter change (by simp)⟩
  · rintro (rfl | ⟨⟨before, after, rfl, hafter⟩, hchange⟩)
    · exact ⟨cs, [], rfl, nofun⟩
    · refine ⟨before, after ++ [change], by simp, fun c hc => ?_⟩
      rcases List.mem_append.1 hc with hc | hc
      · exact hafter c hc
      · exact List.mem_singleton.1 hc ▸ hchange

/-! ## What is stored after a history -/

/-- Entries under their keys are so in any order. -/
theorem Keyed.perm {c c' : Collection RouteEntry} (h : Keyed c) (hperm : c.Perm c') : Keyed c' :=
  ⟨fun s key e hm => h.own s key e (hperm.mem_iff.2 hm), (hperm.map _).nodup_iff.1 h.nodup⟩

theorem Leaves.keyed (h : Leaves cs r) : Keyed r.routeEntries := by
  induction h with
  | start hnil => exact hnil ▸ keyed_nil
  | stored e _ ih => exact ih.put e
  | purged s _ ih => exact ih.purge s
  | reordered _ hperm ih => exact ih.perm hperm

/-- An entry is read under its own snapshot and key. -/
theorem Keyed.own_of_get? {c : Collection RouteEntry} (h : Keyed c) (hget : c.get? s key = some e) :
    e.snapshotId = s ∧ e.key = key :=
  h.own s key e (h.mem_iff.2 hget)

/-- **What is stored is what stands**, in whatever order it is held. -/
theorem Leaves.get?_eq_some_iff (h : Leaves cs r) :
    r.routeEntries.get? e.snapshotId e.key = some e ↔ Stands cs e := by
  induction h with
  | start hnil =>
    rw [hnil]
    exact iff_of_false nofun not_stands_nil
  | @stored cs r e' hleaves ih =>
    have hput : (r.putRouteEntry e').routeEntries.get? e.snapshotId e.key =
        if e'.snapshotId = e.snapshotId ∧ e'.key = e.key then some e'
        else r.routeEntries.get? e.snapshotId e.key := by
      rw [Collection.get?, routeEntries_putRouteEntry, OrderedMap.get?_insert, Collection.get?]
      simp only [Prod.mk.injEq, eq_comm]
    rw [hput, stands_concat_iff, EntryChange.Displaces, ← ih, EntryChange.stored.injEq]
    by_cases hsame : e'.snapshotId = e.snapshotId ∧ e'.key = e.key
    · simp [hsame]
    · have hne : e' ≠ e := fun heq => hsame (heq ▸ ⟨rfl, rfl⟩)
      simp [hsame, hne]
  | @purged cs r s hleaves ih =>
    have hpurge : (r.purge s).routeEntries = r.routeEntries.purge s := rfl
    rw [hpurge, Collection.get?_purge, stands_concat_iff, EntryChange.Displaces, ← ih]
    by_cases hs : e.snapshotId = s
    · simp [hs]
    · simp [hs, Ne.symm hs]
  | reordered hleaves hperm ih =>
    rw [← ih, Collection.get?, Collection.get?, OrderedMap.get?_of_perm hperm hleaves.keyed.nodup]

/-- **What a caller sees** stands, and is for its client id. -/
theorem Leaves.mem_visibleEntries (h : Leaves cs r) :
    e ∈ r.visibleEntries s client ↔
      Stands cs e ∧ e.snapshotId = s ∧ e.clientId = client.getD defaultClientId := by
  rw [h.keyed.mem_visibleEntries]
  constructor
  · rintro ⟨hget, hclient⟩
    obtain ⟨rfl, -⟩ := h.keyed.own_of_get? hget
    exact ⟨h.get?_eq_some_iff.1 hget, rfl, hclient⟩
  · rintro ⟨hstands, rfl, hclient⟩
    exact ⟨h.get?_eq_some_iff.2 hstands, hclient⟩

/-- **After histories that leave the same entries** of a snapshot the same is
listed, in the same order. -/
theorem Leaves.visible_congr (h : Leaves cs r) (h' : Leaves cs' r')
    (hsame : ∀ e, e.snapshotId = s → (Stands cs e ↔ Stands cs' e)) (client : Option String) :
    r.visibleEntries s client = r'.visibleEntries s client := by
  refine Collection.filter_congr_of_get? h.keyed.nodup h'.keyed.nodup (fun key => ?_) _
  refine Option.ext fun e => ?_
  constructor
  · intro hget
    obtain ⟨rfl, rfl⟩ := h.keyed.own_of_get? hget
    exact h'.get?_eq_some_iff.2 ((hsame e rfl).1 (h.get?_eq_some_iff.1 hget))
  · intro hget
    obtain ⟨rfl, rfl⟩ := h'.keyed.own_of_get? hget
    exact h.get?_eq_some_iff.2 ((hsame e rfl).2 (h'.get?_eq_some_iff.1 hget))

/-! ## What is selected among ties -/

/-- A slot is preferred for a call among those of some entries: it is best and
has the secret that is asked for, if one is. -/
def Preferred (read : PatternReader) (method target : String) (secret : Option String)
    (entries : List RouteEntry) (t : Slot) : Prop :=
  t ∈ Slot.all entries ∧ t.Best read method.asciiUpper target entries ∧ t.HasSecret secret

/-- **The candidate that is selected** is that of the first preferred slot, by
the keys of the entries and the positions in them. -/
theorem select?_eq_some_iff_preferred {entries : List RouteEntry}
    (hentries : entries.Pairwise fun e e' => e.key < e'.key) (read : PatternReader)
    (method target : String) (secret : Option String) (c : Candidate) :
    Candidate.select? (Candidate.find method target entries read) secret = some c ↔
      ∃ t, Preferred read method target secret entries t ∧
        (∀ u, Preferred read method target secret entries u → u = t ∨ t.Before u) ∧
        t.candidate method.asciiUpper = c := by
  rw [select?_find_of_secret, Option.map_eq_some_iff]
  refine exists_congr fun t => ?_
  rw [find?_eq_some_iff_of_pairwise (Slot.pairwise_all hentries) fun _ _ => Slot.Before.asymm]
  simp only [decide_eq_true_eq, Preferred, and_imp, and_assoc]

/-- **Ties are broken the same way whatever came before.** Two histories of
entries stored, overwritten and purged, in any order, leave the same entries
of a snapshot, and what holds them may go through them in any order. Then
each caller sees the same list in both cases: exactly the entries that stand
in the snapshot for its client id, in the strict order of their keys. So for
each request the same candidates are found, and with any secret or none the
same one is selected: that of the first slot, in the order of keys and
positions, among the best ones with the secret. -/
theorem ties_exact (h : Leaves cs r) (h' : Leaves cs' r')
    (hsame : ∀ e, e.snapshotId = s → (Stands cs e ↔ Stands cs' e)) (client : Option String) :
    let seen := r.visibleEntries s client
    r'.visibleEntries s client = seen ∧
    (seen.Pairwise fun e e' => e.key < e'.key) ∧
    (∀ e, e ∈ seen ↔
      Stands cs e ∧ e.snapshotId = s ∧ e.clientId = client.getD defaultClientId) ∧
    ∀ (read : PatternReader) (method target : String),
      Candidate.find method target (r'.visibleEntries s client) read =
        Candidate.find method target seen read ∧
      ∀ secret, Candidate.select?
          (Candidate.find method target (r'.visibleEntries s client) read) secret =
            Candidate.select? (Candidate.find method target seen read) secret ∧
        ∀ c, Candidate.select? (Candidate.find method target seen read) secret = some c ↔
          ∃ t, Preferred read method target secret seen t ∧
            (∀ u, Preferred read method target secret seen u → u = t ∨ t.Before u) ∧
            t.candidate method.asciiUpper = c := by
  intro seen
  have hseen : r'.visibleEntries s client = seen := (h.visible_congr h' hsame client).symm
  have hordered : seen.Pairwise fun e e' => e.key < e'.key :=
    pairwise_visibleEntries h.keyed client
  refine ⟨hseen, hordered, fun e => h.mem_visibleEntries, fun read method target => ?_⟩
  rw [hseen]
  exact ⟨rfl, fun secret => ⟨rfl,
    select?_eq_some_iff_preferred hordered read method target secret⟩⟩

/-! ## Two plans that tie -/

/-- An entry of the client `app`, whose calls are charged to a plan. -/
def chargedTo (s : SnapshotId) (plan subscription : String) : RouteEntry :=
  { subscriptionId := subscription, clientId := "app", clientSecret := none
    planId := plan, planName := plan, productId := "p", productName := "outdoors"
    catalogId := "c", catalogName := "sandbox", organizationId := "o", organizationName := "acme"
    apiId := "a", apiName := "climbs", apiVersion := "1.0.0", apiBasePath := ""
    snapshotId := s, corsEnabled := false, rateLimits := []
    apiPaths := [⟨"/peaks", .ofNat 0, "^/peaks$", [⟨"GET", none, none, none⟩]⟩] }

/-- The gold plan is stored, and then the silver one. -/
def goldFirst (s : SnapshotId) : List EntryChange :=
  [.stored (chargedTo s "gold" "u1"), .stored (chargedTo s "silver" "u2")]

/-- The second subscription is stored for two plans one after the other, and
the gold plan last, with a purge of another snapshot before it. -/
def goldLast (s other : SnapshotId) : List EntryChange :=
  [.stored (chargedTo s "bronze" "u2"), .stored (chargedTo s "silver" "u2"), .purged other,
    .stored (chargedTo s "gold" "u1")]

/-- **The gold plan is charged after both histories**: they hold the two
entries in different orders, and the one with the first key is taken. -/
theorem gold_charged_either_way :
    let s : SnapshotId := ⟨1, by decide⟩
    let other : SnapshotId := ⟨2, by decide⟩
    let r := (goldFirst s).foldl EntryChange.apply .empty
    let r' := (goldLast s other).foldl EntryChange.apply .empty
    Leaves (goldFirst s) r ∧ Leaves (goldLast s other) r' ∧
    (∀ e, e.snapshotId = s → (Stands (goldFirst s) e ↔ Stands (goldLast s other) e)) ∧
    (r.routeEntries.map fun p => p.2.planId) = ["gold", "silver"] ∧
    (r'.routeEntries.map fun p => p.2.planId) = ["silver", "gold"] ∧
    r'.visibleEntries s (some "app") = r.visibleEntries s (some "app") ∧
    ((Candidate.select? (Candidate.find "GET" "/peaks"
      (r'.visibleEntries s (some "app"))) none).map fun c => c.entry.planId) = some "gold" := by
  intro s other r r'
  have h : Leaves (goldFirst s) r := (Leaves.start rfl).foldl_apply (goldFirst s)
  have h' : Leaves (goldLast s other) r' := (Leaves.start rfl).foldl_apply (goldLast s other)
  have hperm : r.routeEntries.Perm r'.routeEntries := .swap _ _ []
  have hsame : ∀ e, e.snapshotId = s →
      (Stands (goldFirst s) e ↔ Stands (goldLast s other) e) := by
    intro e _
    rw [← h.get?_eq_some_iff, ← h'.get?_eq_some_iff, Collection.get?, Collection.get?,
      OrderedMap.get?_of_perm hperm h.keyed.nodup]
  have hseen := (ties_exact h h' hsame (some "app")).1
  -- after the first history the entries are held in the order of their keys
  have hlisting : r.visibleEntries s (some "app") =
      [chargedTo s "gold" "u1", chargedTo s "silver" "u2"] :=
    congrArg (List.map Prod.snd) (List.mergeSort_of_pairwise (by decide +kernel))
  refine ⟨h, h', hsame, rfl, rfl, hseen, ?_⟩
  rw [hseen, hlisting]
  decide +kernel

end Route

end ApiGateway
