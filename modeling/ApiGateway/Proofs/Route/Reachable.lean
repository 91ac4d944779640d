import ApiGateway.Proofs.Pattern.Written
import ApiGateway.Proofs.Route.Building
import ApiGateway.Proofs.Route.Selection
import ApiGateway.Proofs.Template.Instances
/-!
# Routes — which declared operations are reached

A call for an instance of a template comes with the base path without its
trailing slashes and the instance behind it, normalized. Normalizing takes
a slash at the end away, and the routing pattern does not. So the pattern
of a template matches the calls for its instances exactly if the template
does not end with a slash, or is the root under an empty base path
(`fits_normalizedPath_iff`).

`reachable_exact` says this of the entries of a subscription: every
declared operation of a template of the first kind is reached by a call
for any instance, and no call for an instance of another is matched by the
template that it is for. `trailing_slash_unreached` is a case of the
second kind.
-/

namespace ApiGateway

namespace Template

variable {base template x : List Char}

/-- A call for an instance of a template, of values that are one piece
each, is left as it is by normalizing: the template does not end with a
slash, or the instance is all of the path and the root. -/
def EndsNormal (base template : List Char) : Prop :=
  template.getLast? = some '/' → trimmedBase base = [] ∧ template = ['/']

instance (base template : List Char) : Decidable (EndsNormal base template) :=
  inferInstanceAs (Decidable (_ → _))

/-- Without its trailing slashes, a path is empty or begins with a
slash. -/
theorem head?_trimmedBase (hbase : IsBasePath base) (hne : trimmedBase base ≠ []) :
    (trimmedBase base).head? = some '/' := by
  obtain ⟨rest, hrest⟩ := isPrefix_trimmedBase base
  rcases hbase with rfl | ⟨hhead, -⟩
  · exact absurd rfl hne
  · rw [← hrest, List.head?_append_of_ne_nil _ hne] at hhead
    exact hhead

/-- An instance of a template that is a path begins with a slash. -/
theorem head?_instance (htemplate : IsPath template) (hx : Instance OnePiece (scan template) x) :
    x.head? = some '/' :=
  hx.head?_eq_slash proper_of_mem_scan (by rw [writtenAll_scan]; exact htemplate.1)

/-- The path of a call before normalizing is a path. -/
theorem isPath_append_instance (hbase : IsBasePath base) (htemplate : IsPath template)
    (hx : Instance OnePiece (scan template) x) : IsPath (trimmedBase base ++ x) := by
  have hbchain : (trimmedBase base).IsChain NotBothSlash := by
    rcases hbase with rfl | hbase
    · exact .nil
    · obtain ⟨rest, hrest⟩ := isPrefix_trimmedBase base
      have hchain := (isPath_iff_isChain.1 hbase).2
      rw [← hrest] at hchain
      exact (List.isChain_append.1 hchain).1
  have hxchain : x.IsChain NotBothSlash :=
    hx.isChain (by rw [writtenAll_scan]; exact (isPath_iff_isChain.1 htemplate).2)
  refine isPath_iff_isChain.2 ⟨?_, List.isChain_append.2 ⟨hbchain, hxchain, ?_⟩⟩
  · by_cases hne : trimmedBase base = []
    · rw [hne, List.nil_append]
      exact head?_instance htemplate hx
    · rw [List.head?_append_of_ne_nil _ hne]
      exact head?_trimmedBase hbase hne
  · -- the base path does not bring another slash
    rintro a ha b - ⟨rfl, -⟩
    exact getLast?_trimmedBase_ne base ha

/-- The only instance of the root is the root. -/
theorem instance_root (hx : Instance OnePiece (scan ['/']) x) : x = ['/'] := by
  have hscan : scan ['/'] = [.literal ['/']] := rfl
  rw [hscan] at hx
  cases hx with
  | cons hfill hrest =>
    cases hfill
    cases hrest
    rfl

/-- **The routing pattern of a template matches the calls for its
instances** exactly if normalizing leaves them as they are. -/
theorem fits_normalizedPath_iff (hbase : IsBasePath base) (htemplate : IsPath template)
    (hx : Instance OnePiece (scan template) x) :
    Pattern.Fits (routingPattern base template) (normalizedPath (trimmedBase base ++ x)) ↔
      EndsNormal base template := by
  have hpath := isPath_append_instance hbase htemplate hx
  have hxne : x ≠ [] := by
    rintro rfl
    cases head?_instance htemplate hx
  have hend : (trimmedBase base ++ x).getLast? = x.getLast? :=
    List.getLast?_append_of_ne_nil _ hxne
  rw [fits_routingPattern_iff]
  constructor
  · rintro ⟨tail, htail, hinst⟩ hslash
    -- what the pattern matches ends with a slash, so it is the root
    have htailend : tail.getLast? = some '/' :=
      hinst.getLast?_eq_slash proper_of_mem_scan (by rw [writtenAll_scan]; exact hslash)
    have hroot : trimmedBase base ++ x = ['/'] := by
      rw [← hpath.getLast?_normalizedPath, htail, List.getLast?_append, htailend, Option.some_or]
    rcases List.append_eq_singleton_iff.1 hroot with ⟨hnil, rfl⟩ | ⟨-, hnil⟩
    · refine ⟨hnil, ?_⟩
      rw [← writtenAll_scan template]
      exact hx.writtenAll_eq_slash
    · exact absurd hnil hxne
  · intro hnormal
    have hself : normalizedPath (trimmedBase base ++ x) = trimmedBase base ++ x := by
      by_cases hslash : template.getLast? = some '/'
      · obtain ⟨hnil, rfl⟩ := hnormal hslash
        obtain rfl := instance_root hx
        rw [hnil]
        rfl
      · have hlast : (trimmedBase base ++ x).getLast? ≠ some '/' := by
          rw [hend]
          exact fun h => hslash (hx.getLast?_eq_slash_iff.1 h)
        exact hpath.normalizedPath_eq_self hlast
    exact ⟨x, hself, hx.mono fun v hv => hv.2.2⟩

end Template

namespace Route

open Template

variable {r : Records} {s : SnapshotId} {d : ApiDocument} {e : RouteEntry}

/-- The path of a call for an instance of a template under a base path. -/
def callPath (base : String) (x : List Char) : String :=
  String.ofList (normalizedPath (trimmedBase base.toList ++ x))

/-- A template of an entry matches the calls for its own instances exactly
if normalizing leaves them as they are. -/
theorem matches_callPath_iff {t : Slot} {methods : List MethodEntry} {x : List Char}
    (ht : t.path = routePath d t.path.path methods)
    (hbase : IsBasePath d.basePath.toList) (hpath : IsPath t.path.path.toList)
    (hx : Instance OnePiece (scan t.path.path.toList) x) :
    t.Matches Pattern.reader (callPath d.basePath x) ↔
      EndsNormal d.basePath.toList t.path.path.toList := by
  have hregex : t.path.pathRegex.toList =
      Pattern.written (routingPattern d.basePath.toList t.path.path.toList) := by
    rw [ht, routePath, String.toList_ofList]
  rw [Slot.matches_reader_iff, hregex, Pattern.parse?_written, callPath, String.toList_ofList,
    ← fits_normalizedPath_iff hbase hpath hx]
  constructor
  · rintro ⟨pattern, hpattern, hfits⟩
    rw [Option.some.inj hpattern]
    exact hfits
  · exact fun hfits => ⟨_, rfl, hfits⟩

variable {template method : String} {o : Operation} {x : List Char}

/-- **A declared operation is reached** by the calls that normalizing
leaves as they are. -/
theorem find_callPath_ne_nil (hpaths : routePaths .full d = .ok e.apiPaths)
    (hd : d.Declares template method o)
    (hbase : IsBasePath d.basePath.toList) (htemplate : IsPath template.toList)
    (hx : Instance OnePiece (scan template.toList) x)
    (hnormal : EndsNormal d.basePath.toList template.toList) :
    Candidate.find method (callPath d.basePath x) [e] ≠ [] := by
  obtain ⟨methods, hmem, hdeclared⟩ := exists_routePath hpaths hd (Or.inl rfl)
  obtain ⟨i, hi⟩ := List.getElem?_of_mem hmem
  have ht : (⟨e, i, routePath d template methods⟩ : Slot) ∈ Slot.all [e] :=
    Slot.mem_all.2 ⟨List.mem_singleton_self e, hi⟩
  have hmatches : (⟨e, i, routePath d template methods⟩ : Slot).Matches Pattern.reader
      (callPath d.basePath x) := (matches_callPath_iff rfl hbase htemplate hx).2 hnormal
  have hupper := asciiUpper_of_mem_httpMethods method (mem_httpMethods_of_declares hd)
  intro hnil
  refine (Candidate.find_eq_nil_iff _ _ _ _).1 hnil _ ht ⟨hmatches, Or.inl ?_⟩
  exact ⟨_, hdeclared, hupper.symm⟩

/-- Every other call for an instance is missed by the template that it is
for. -/
theorem not_matches_callPath (hpaths : routePaths .full d = .ok e.apiPaths)
    (hbase : IsBasePath d.basePath.toList) (htemplate : IsPath template.toList)
    (hx : Instance OnePiece (scan template.toList) x)
    (hnormal : ¬ EndsNormal d.basePath.toList template.toList) :
    ∀ t ∈ Slot.all [e], t.path.path = template →
      ¬ t.Matches Pattern.reader (callPath d.basePath x) := by
  rintro t ht rfl hmatches
  obtain ⟨he, hi⟩ := Slot.mem_all.1 ht
  rw [List.mem_singleton.1 he] at hi
  obtain ⟨methods, hp, -⟩ := eq_routePath_of_mem hpaths (List.mem_of_getElem? hi)
  exact hnormal ((matches_callPath_iff hp hbase htemplate hx).1 hmatches)

/-- **Which declared operations are reached, exactly.** A build for a
subscription that succeeds gives every credential an entry for every API
of the registration. In each entry an operation declared under a template
is reached by the calls for all instances, if the template does not end
with a slash or is the root under an empty base path. Otherwise the
template matches none of the calls for its own instances: only another
template can. -/
theorem reachable_exact {id : String} {entries : List RouteEntry}
    (h : subscriptionEntries r s id = .ok entries) :
    ∃ u, r.subscription? s id = some u ∧
      (∀ c ∈ u.application.credentials, ∀ ref ∈ u.planRegistration.apis, ∃ api, ∃ e ∈ entries,
        r.findApi? s ref.document.info.name ref.document.info.version 0 = some api ∧
        e.clientId = c.clientId ∧ e.apiId = api.id) ∧
      ∀ e ∈ entries, ∃ ref ∈ u.planRegistration.apis, ∃ api,
        r.findApi? s ref.document.info.name ref.document.info.version 0 = some api ∧
        e.apiId = api.id ∧
        ∀ template method o, api.document.Declares template method o →
          IsBasePath api.document.basePath.toList → IsPath template.toList →
          ∀ x, Instance OnePiece (scan template.toList) x →
          (EndsNormal api.document.basePath.toList template.toList →
            Candidate.find method (callPath api.document.basePath x) [e] ≠ []) ∧
          (¬ EndsNormal api.document.basePath.toList template.toList →
            ∀ t ∈ Slot.all [e], t.path.path = template →
              ¬ t.Matches Pattern.reader (callPath api.document.basePath x)) := by
  obtain ⟨u, product, catalog, hu, -, hfound, hmem⟩ := subscriptionEntries_spec h
  refine ⟨u, hu, fun c hc ref href => ?_, fun e he => ?_⟩
  · obtain ⟨api, paths, hap⟩ := hfound ref href
    have he := (hmem _).2 ⟨c, hc, ref, href, api, paths, hap, rfl⟩
    exact ⟨api, _, he, (apiWithPaths_eq_ok.1 hap).1, rfl, rfl⟩
  · obtain ⟨c, -, ref, href, api, paths, hap, rfl⟩ := (hmem e).1 he
    obtain ⟨hapi, hpaths⟩ := apiWithPaths_eq_ok.1 hap
    refine ⟨ref, href, api, hapi, rfl, ?_⟩
    intro template method o hd hbase htemplate x hx
    exact ⟨find_callPath_ne_nil hpaths hd hbase htemplate hx,
      not_matches_callPath hpaths hbase htemplate hx⟩

/-! ## A template that ends with a slash -/

/-- An API with a template that ends with a slash and one that does not. -/
def trailingSlashApi : Api :=
  ⟨"a", { ApiDocument.blank with
    info := ⟨none, "1.0.0", "climbs"⟩
    basePath := "/v1"
    paths := [("/peaks/", .object [("get", .object [])]),
      ("/crags/\x7bid\x7d", .object [("get", .object [])])] }⟩

/-- A subscription to it. -/
def trailingSlashSubscription : Subscription :=
  ⟨"u", ⟨"app", none, [⟨"k", none⟩]⟩,
    ⟨"r", ⟨"g", "gold", none⟩, ⟨"p"⟩, [⟨none, ⟨⟨none, "1.0.0", "climbs"⟩⟩⟩]⟩⟩

/-- Both put into a snapshot. -/
def trailingSlashCase (s : SnapshotId) : Records :=
  .after [.catalog s ⟨"c", "sandbox", none, ⟨"o", "acme"⟩⟩, .api s trailingSlashApi,
    .product s ⟨"p", ⟨"c", ""⟩, .blank⟩, .subscription s trailingSlashSubscription]

/-- The operation under the template without the slash is reached by the
call for an instance. -/
theorem reached_without_trailing_slash :
    ∃ entries, subscriptionEntries (trailingSlashCase ⟨1, by decide⟩) ⟨1, by decide⟩ "u" =
        .ok entries ∧
      ∃ e ∈ entries, Candidate.find "GET" (callPath "/v1" "/crags/k2".toList) [e] ≠ [] := by
  have hok : ∃ entries, subscriptionEntries (trailingSlashCase ⟨1, by decide⟩) ⟨1, by decide⟩ "u" =
      .ok entries := ⟨_, rfl⟩
  obtain ⟨entries, h⟩ := hok
  obtain ⟨u, hu, hall, hreached⟩ := reachable_exact h
  obtain rfl : trailingSlashSubscription = u := Option.some.inj hu
  obtain ⟨-, e, he, -⟩ := hall ⟨"k", none⟩ List.mem_cons_self _ List.mem_cons_self
  obtain ⟨ref, href, api, hapi, -, hreached⟩ := hreached e he
  obtain rfl := List.mem_singleton.1 href
  obtain rfl : trailingSlashApi = api := Option.some.inj hapi
  -- the template has one placeholder, for which a name stands
  have hvalue : OnePiece "k2".toList := by decide
  have hinstance : Instance OnePiece (scan "/crags/\x7bid\x7d".toList) "/crags/k2".toList :=
    .cons (.literal "/crags/".toList) (.cons (.placeholder hvalue) .nil)
  have hdeclares : trailingSlashApi.document.Declares "/crags/\x7bid\x7d" "GET"
      ⟨none, none, [], none⟩ :=
    ⟨_, [("GET", _)], List.mem_cons_of_mem _ List.mem_cons_self, rfl, List.mem_cons_self⟩
  refine ⟨entries, h, e, he, ?_⟩
  exact (hreached _ _ _ hdeclares (by decide) (by decide) _ hinstance).1 (by decide)

/-- The one call for the operation under the other template does not reach
it. -/
theorem trailing_slash_unreached :
    ∃ e o, subscriptionEntries (trailingSlashCase ⟨1, by decide⟩) ⟨1, by decide⟩ "u" = .ok [e] ∧
      trailingSlashApi.document.Declares "/peaks/" "GET" o ∧
      IsBasePath "/v1".toList ∧ IsPath "/peaks/".toList ∧
      Instance OnePiece (scan "/peaks/".toList) "/peaks/".toList ∧
      Candidate.find "GET" (callPath "/v1" "/peaks/".toList) [e] = [] := by
  refine ⟨_, ⟨none, none, [], none⟩, rfl,
    ⟨_, [("GET", _)], List.mem_cons_self, rfl, List.mem_cons_self⟩, by decide, by decide,
    .cons (.literal _) .nil, ?_⟩
  refine List.isEmpty_iff.1 ?_
  decide +kernel

end Route

end ApiGateway
