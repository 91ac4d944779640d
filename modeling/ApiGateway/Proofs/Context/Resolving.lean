import ApiGateway.Context.Resolve
import ApiGateway.Proofs.Param.Merging
import ApiGateway.Proofs.Route.Resolution
/-!
# Context — what resolving may be refused for

Many steps on the way to a context may fail: a variable may be frozen, the
operation malformed, the body unreadable, the pattern of a template not
compile, a value not convert. `resolveWith` is resolving with all of these,
and with any compiler of patterns; with the one that compiles every template it
is `resolve` (`resolveWith_compile`). Of the failures only that of the body
ends it (`resolve_exact`): the variable is never frozen, and the others leave
parameters out.

The body is read under the content types that are offered. `Offered` says on
the records which these are, and there is one such list (`offered_iff`); the
first of them under which the body decodes gives what is read (`ReadUnder`).
-/

namespace ApiGateway

/-! ## Reading a body -/

namespace Body

variable {charset t : String} {bytes : List UInt8} {types : List String} {b : Body}
  {contentType : Option String}

/-- **A body decoded as a content type**: as JSON, as a text or as a form, or,
as any other media type, its bytes. Only the first two depend on the character
set, and may fail; as a text that is no media type nothing is decoded. -/
inductive Decodes (charset : String) (bytes : List UInt8) (t : String) : Body → Prop where
  | json {m : MediaType} {s : String} {j : Json} :
      MediaType.parse? t = some m → Kind.of m = .json → decodeText? charset bytes = some s →
      Json.ofText? s = some j → Decodes charset bytes t (.json j)
  | text {m : MediaType} {s : String} :
      MediaType.parse? t = some m → Kind.of m = .text → decodeText? charset bytes = some s →
      Decodes charset bytes t (.text s)
  | form {m : MediaType} :
      MediaType.parse? t = some m → Kind.of m = .form →
      Decodes charset bytes t (.form (Form.parse bytes))
  | binary {m : MediaType} :
      MediaType.parse? t = some m → Kind.of m = .binary → Decodes charset bytes t (.binary bytes)

theorem decodes_iff : Decodes charset bytes t b ↔ readAsType? charset bytes t = some b := by
  rw [readAsType?, Option.bind_eq_some_iff]
  constructor
  · rintro (⟨hm, hkind, hs, hj⟩ | ⟨hm, hkind, hs⟩ | ⟨hm, hkind⟩ | ⟨hm, hkind⟩)
    · exact ⟨_, hm, by rw [hkind, readAs?, hs, Option.bind_some, hj, Option.map_some]⟩
    · exact ⟨_, hm, by rw [hkind, readAs?, hs, Option.map_some]⟩
    · exact ⟨_, hm, by rw [hkind, readAs?]⟩
    · exact ⟨_, hm, by rw [hkind, readAs?]⟩
  · rintro ⟨m, hm, hb⟩
    cases hkind : Kind.of m with
    | json =>
      rw [hkind, readAs?, Option.map_eq_some_iff] at hb
      obtain ⟨j, hj, rfl⟩ := hb
      obtain ⟨s, hs, hj⟩ := Option.bind_eq_some_iff.1 hj
      exact .json hm hkind hs hj
    | text =>
      rw [hkind, readAs?, Option.map_eq_some_iff] at hb
      obtain ⟨s, hs, rfl⟩ := hb
      exact .text hm hkind hs
    | form =>
      rw [hkind, readAs?] at hb
      obtain rfl := Option.some.inj hb
      exact .form hm hkind
    | binary =>
      rw [hkind, readAs?] at hb
      obtain rfl := Option.some.inj hb
      exact .binary hm hkind

theorem readAsType?_eq_none_iff :
    readAsType? charset bytes t = none ↔ ∀ b, ¬ Decodes charset bytes t b := by
  rw [Option.eq_none_iff_forall_ne_some]
  exact forall_congr' fun b => not_congr decodes_iff.symm

/-- **What a body is read as** under content types: an empty one as none, any
other as the first of them decodes it that does. -/
inductive ReadUnder (charset : String) (types : List String) : List UInt8 → Option Body → Prop where
  | empty : ReadUnder charset types [] none
  | first {bytes : List UInt8} {before after : List String} {t : String} {b : Body} :
      bytes ≠ [] → types = before ++ t :: after →
      (∀ u ∈ before, ∀ b', ¬ Decodes charset bytes u b') → Decodes charset bytes t b →
      ReadUnder charset types bytes (some b)

theorem read_eq_ok_iff {body : Option Body} :
    read bytes types contentType = .ok body ↔
      ReadUnder (charsetOf contentType) types bytes body := by
  constructor
  · intro h
    unfold read at h
    split at h
    next hempty =>
      obtain rfl := hempty
      obtain rfl := Except.ok.inj h
      exact .empty
    next hne =>
      split at h
      next b hb =>
        obtain rfl := Except.ok.inj h
        obtain ⟨before, t, after, hsplit, ht, hbefore⟩ := List.findSome?_eq_some_iff.1 hb
        exact .first hne hsplit (fun u hu => readAsType?_eq_none_iff.1 (hbefore u hu))
          (decodes_iff.2 ht)
      next => cases h
  · rintro (_ | ⟨hne, hsplit, hbefore, ht⟩)
    · rfl
    · have hfound := List.findSome?_eq_some_iff.2
        ⟨_, _, _, hsplit, decodes_iff.1 ht, fun u hu => readAsType?_eq_none_iff.2 (hbefore u hu)⟩
      rw [read, if_neg hne, hfound]

/-- What is no JSON may be read as the next content type. -/
example : read "<climb/>".utf8 ["application/json", "application/xml"] none =
    .ok (some (.text "<climb/>")) := by cbv

/-- **A body is unreadable** if there is one and none of the content types
decodes it. -/
theorem read_eq_error_iff {e : Unreadable} :
    read bytes types contentType = .error e ↔ e = ⟨types⟩ ∧ bytes ≠ [] ∧
      ∀ t ∈ types, ∀ b, ¬ Decodes (charsetOf contentType) bytes t b := by
  have hnone : types.findSome? (readAsType? (charsetOf contentType) bytes) = none ↔
      ∀ t ∈ types, ∀ b, ¬ Decodes (charsetOf contentType) bytes t b := by
    simp only [List.findSome?_eq_none_iff, readAsType?_eq_none_iff]
  rw [← hnone]
  unfold read
  split
  next hempty => exact iff_of_false nofun fun h => h.2.1 hempty
  next hne =>
    split
    next b hb => exact iff_of_false nofun fun h => nomatch hb.symm.trans h.2.2
    next hfail =>
      rw [Except.error.injEq, eq_comm]
      exact (and_iff_left ⟨hne, hfail⟩).symm

end Body

/-! ## The operation of a call -/

namespace ApiDocument

variable {d : ApiDocument} {template method : String} {item : PathItem} {own : Operation}

/-- An operation that is declared is called with everything that applies to
it. -/
theorem Finds.getD_operation? (h : d.Finds template method item own) :
    (d.operation? template method).getD none = some (d.completed item own) := by
  rw [operation?_eq_some_iff.2 ⟨item, own, h, rfl⟩, Option.getD_some]

/-- What is missing or malformed is as if it were not declared. -/
theorem getD_operation?_of_not_finds (h : ∀ item own, ¬ d.Finds template method item own) :
    (d.operation? template method).getD none = none := by
  cases hfound : d.operation? template method with
  | none => rfl
  | some found =>
    cases found with
    | none => rfl
    | some o =>
      obtain ⟨item, own, hfinds, -⟩ := operation?_eq_some_iff.1 hfound
      exact absurd hfinds (h item own)

/-- The content types of an operation are its own, or else those of its
document. -/
theorem getD_consumes_completed (d : ApiDocument) (item : PathItem) (own : Operation) :
    (d.completed item own).consumes.getD [] = own.consumes.getD d.consumes := by
  rw [completed_eq]
  cases own.consumes with
  | some types => rfl
  | none => by_cases hd : d.consumes = [] <;> simp [hd]

end ApiDocument

/-- What compiles templates under base paths to capture patterns, where it
does not fail. -/
abbrev Template.Compiler := List Char → List Char → Option Template.CapturePattern

namespace Context

variable {compile compile' : Template.Compiler} {settings : ResolveSettings}
  {cache : Template.PatternCache} {c : Candidate} {call : Call} {api : Api}
  {item : PathItem} {own : Operation} {explicit : Option String} {context : Context}
  {types : List String}

/-! ## The content types that are offered -/

/-- The operation of a call, as its API has it. -/
def Calls (c : Candidate) (call : Call) (api : Api) (item : PathItem) (own : Operation) : Prop :=
  api.document.Finds c.path.path (calledMethod c call) item own

/-- **The content types offered for a body**: the explicit one alone; without
it those of the operation, if there are any; and else what the request says. -/
inductive Offered (explicit : Option String) (c : Candidate) (call : Call) (api : Api) :
    List String → Prop where
  | explicit {t : String} : explicit = some t → Offered explicit c call api [t]
  | operation {item : PathItem} {own : Operation} :
      explicit = none → Calls c call api item own →
      own.consumes.getD api.document.consumes ≠ [] →
      Offered explicit c call api (own.consumes.getD api.document.consumes)
  | request :
      explicit = none →
      (∀ item own, Calls c call api item own → own.consumes.getD api.document.consumes = []) →
      Offered explicit c call api [(call.header? "content-type").getD fallbackContentType]

/-- Without an explicit content type those of the operation apply, if there are
any. -/
theorem bodyContentTypes_none {operation : Option Operation} {own : List String}
    (h : (operation.bind fun o => o.consumes).getD [] = own) :
    bodyContentTypes none operation call =
      if own = [] then [(call.header? "content-type").getD fallbackContentType] else own := by
  rw [bodyContentTypes, h]
  cases own with
  | nil => rfl
  | cons t ts => rfl

/-- The content types of the operation that is called. -/
theorem consumes_calledOperation (h : Calls c call api item own) :
    ((calledOperation c call api).bind fun o => o.consumes).getD [] =
      own.consumes.getD api.document.consumes := by
  rw [calledOperation, h.getD_operation?, Option.bind_some, ApiDocument.getD_consumes_completed]

/-- There is one to be called, or there is none. -/
theorem calls_or_not (c : Candidate) (call : Call) (api : Api) :
    (∃ item own, Calls c call api item own) ∨ ∀ item own, ¬ Calls c call api item own := by
  by_cases h : ∃ item own, Calls c call api item own
  · exact Or.inl h
  · exact Or.inr fun item own hcalls => h ⟨item, own, hcalls⟩

theorem calledOperation_eq_none (h : ∀ item own, ¬ Calls c call api item own) :
    calledOperation c call api = none :=
  ApiDocument.getD_operation?_of_not_finds h

/-- **One list of content types is offered**, that under which bodies are
read. -/
theorem offered_iff :
    Offered explicit c call api types ↔
      types = bodyContentTypes explicit (calledOperation c call api) call := by
  constructor
  · rintro (hexplicit | ⟨hexplicit, hcalls, hne⟩ | ⟨hexplicit, hnone⟩)
    · rw [hexplicit, bodyContentTypes]
    · rw [hexplicit, bodyContentTypes_none (consumes_calledOperation hcalls), if_neg hne]
    · rw [hexplicit]
      -- An operation without content types offers what no operation does.
      rcases calls_or_not c call api with ⟨item, own, hcalls⟩ | hnot
      · rw [bodyContentTypes_none (consumes_calledOperation hcalls),
          if_pos (hnone item own hcalls)]
      · rw [calledOperation_eq_none hnot]
        rfl
  · rintro rfl
    cases hexplicit : explicit with
    | some t => exact .explicit rfl
    | none =>
      rcases calls_or_not c call api with ⟨item, own, hcalls⟩ | hnot
      · rw [bodyContentTypes_none (consumes_calledOperation hcalls)]
        split
        next hempty =>
          refine .request rfl fun item' own' hcalls' => ?_
          rw [← consumes_calledOperation hcalls', consumes_calledOperation hcalls, hempty]
        next hne => exact .operation rfl hcalls hne
      · rw [calledOperation_eq_none hnot]
        exact .request rfl fun item own h => absurd h (hnot item own)

/-! ## Resolving, with all that may fail -/

/-- What a step of resolving may be refused with. -/
inductive Refusal where
  | readOnly (e : ReadOnly)
  | unreadable (e : Body.Unreadable)

/-- An explicit content type is set like any variable. -/
def setContentType (context : Context) : Option String → Except ReadOnly Context
  | some t => context.setVariable contentTypeName (.string t)
  | none => .ok context

/-- The pattern that is kept under the joined text, or else the compiled one,
which is kept then. -/
def keptOrCompiled (compile : Template.Compiler) (cache : Template.PatternCache)
    (base template : List Char) : Option Template.CapturePattern × Template.PatternCache :=
  match OrderedMap.get? cache (base ++ template) with
  | some p => (some p, cache)
  | none =>
    match compile base template with
    | some p => (some p, OrderedMap.insert cache (base ++ template) p)
    | none => (none, cache)

/-- The capture pattern for parameters, which only parameters in the path
need. -/
def patternWith (compile : Template.Compiler) (cache : Template.PatternCache)
    (params : List Parameter) (base template : String) :
    Option Template.CapturePattern × Template.PatternCache :=
  if params.any fun p => p.location = .path then
    keptOrCompiled compile cache base.toList template.toList
  else (none, cache)

/-- The context of a call, by steps that may fail: only a variable that is
refused and a body that cannot be read end it. -/
def resolveWith (compile : Template.Compiler) (settings : ResolveSettings)
    (cache : Template.PatternCache) (c : Candidate) (call : Call) (api : Api)
    (explicit : Option String) : Except Refusal Context × Template.PatternCache :=
  match (identified settings c call api).setContentType explicit with
  | .error e => (.error (.readOnly e), cache)
  | .ok named =>
    let start := named.copyProperties api.document.gateway.properties
    let types := bodyContentTypes explicit (calledOperation c call api) call
    match Body.read call.body types (call.header? "content-type") with
    | .error e => (.error (.unreadable e), cache)
    | .ok body =>
      let params := declaredParameters c call api
      let (pattern, cache') := patternWith compile cache params c.entry.apiBasePath c.path.path
      (.ok { start.withRequestBody body with
          parameters := Parameter.resolve params ⟨call, pattern, body⟩ }, cache')

/-- **The variable for an explicit content type is never refused.** -/
theorem setContentType_eq (context : Context) (explicit : Option String) :
    context.setContentType explicit = .ok (context.withContentType explicit) := by
  cases explicit with
  | none => rfl
  | some t =>
    have hfree : isFrozen contentTypeName = false := by decide
    rw [setContentType, setVariable, hfree]
    rfl

/-- Compiling every template is what is done for parameters. -/
theorem patternWith_compile (cache : Template.PatternCache) (params : List Parameter)
    (base template : String) :
    patternWith (fun b t => some (.compile b t)) cache params base template =
      patternFor cache params base template := by
  unfold patternWith patternFor keptOrCompiled Template.PatternCache.getOrCompile
  split
  · cases OrderedMap.get? cache (base.toList ++ template.toList) <;> rfl
  · rfl

/-- **With a compiler that never fails this is resolving.** -/
theorem resolveWith_compile (settings : ResolveSettings) (cache : Template.PatternCache)
    (c : Candidate) (call : Call) (api : Api) (explicit : Option String) :
    resolveWith (fun b t => some (.compile b t)) settings cache c call api explicit =
      ((resolve settings cache c call api explicit).1.mapError Refusal.unreadable,
        (resolve settings cache c call api explicit).2) := by
  rw [resolveWith, resolve, setContentType_eq]
  simp only [patternWith_compile]
  cases Body.read call.body (bodyContentTypes explicit (calledOperation c call api) call)
    (call.header? "content-type") with
  | error e => rfl
  | ok body => rfl

/-! ## The context of a call -/

/-- The context before the body is read: what the candidate and the call tell,
the explicit content type, and the properties of the API. -/
def started (settings : ResolveSettings) (c : Candidate) (call : Call) (api : Api)
    (explicit : Option String) : Context :=
  ((identified settings c call api).withContentType explicit).copyProperties
    api.document.gateway.properties

/-- What the parameters of a call are read from, once its body is. -/
def sources (compile : Template.Compiler) (cache : Template.PatternCache) (c : Candidate)
    (call : Call) (body : Option Body) : ParamSources :=
  ⟨call, (keptOrCompiled compile cache c.entry.apiBasePath.toList c.path.path.toList).1, body⟩

/-- The context of a call for what its body is read as. -/
def contextOf (compile : Template.Compiler) (settings : ResolveSettings)
    (cache : Template.PatternCache) (c : Candidate) (call : Call) (api : Api)
    (explicit : Option String) (body : Option Body) : Context :=
  { (started settings c call api explicit).withRequestBody body with
    parameters :=
      Parameter.present (sources compile cache c call body) (declaredParameters c call api) }

/-- There is no pattern for the template of a call, as none is kept and it does
not compile. -/
def Uncompilable (compile : Template.Compiler) (cache : Template.PatternCache) (c : Candidate) :
    Prop :=
  OrderedMap.get? cache (c.entry.apiBasePath.toList ++ c.path.path.toList) = none ∧
    compile c.entry.apiBasePath.toList c.path.path.toList = none

/-- **The context that a call resolves to**: the body is read under the content
types that are offered, the message has it too, and the parameters are those
of the operation that have a value, none without an operation. The rest is what
it was before the body was read. -/
structure Resolved (compile : Template.Compiler) (settings : ResolveSettings)
    (cache : Template.PatternCache) (c : Candidate) (call : Call) (api : Api)
    (explicit : Option String) (context : Context) : Prop where
  body : ∃ types, Offered explicit c call api types ∧
    Body.ReadUnder (Body.charsetOf (call.header? "content-type")) types call.body
      context.requestBody
  message : context.messageBody = context.requestBody
  rest : context = { started settings c call api explicit with
    requestBody := context.requestBody
    messageBody := context.messageBody
    parameters := context.parameters }
  declared : ∀ item own, Calls c call api item own → context.parameters =
    Parameter.present (sources compile cache c call context.requestBody)
      (api.document.completed item own).parameters
  undeclared : (∀ item own, ¬ Calls c call api item own) → context.parameters = []

/-- Only parameters in the path need a pattern. -/
theorem value?_eq_of_ne_path {p : Parameter} {body : Option Body}
    {pattern pattern' : Option Template.CapturePattern} (h : p.location ≠ .path) :
    p.value? ⟨call, pattern, body⟩ = p.value? ⟨call, pattern', body⟩ := by
  unfold Parameter.value? ParamSources.raw?
  cases hloc : p.location with
  | path => exact absurd hloc h
  | _ => rfl

/-- Without a pattern they have no value. -/
theorem value?_eq_none_of_path {p : Parameter} {body : Option Body} (h : p.location = .path) :
    p.value? ⟨call, none, body⟩ = none := by
  rw [Parameter.value?, h]
  rfl

/-- **The parameters are merged from those with a value**, from one source. -/
theorem resolve_patternWith (params : List Parameter) (body : Option Body) :
    Parameter.resolve params
        ⟨call, (patternWith compile cache params c.entry.apiBasePath c.path.path).1, body⟩ =
      Parameter.present (sources compile cache c call body) params := by
  refine Parameter.resolve_eq_present fun p hp => ?_
  -- Where no parameter is in the path no pattern is looked for, and none is missed.
  by_cases hany : (params.any fun p => p.location = .path) = true
  · rw [patternWith, if_pos hany, sources]
  · refine value?_eq_of_ne_path fun hpath => hany ?_
    exact List.any_eq_true.2 ⟨p, hp, decide_eq_true hpath⟩

/-! ## What resolving gives -/

/-- **An unreadable body ends resolving**, whatever else fails. -/
theorem resolveWith_of_error {e : Body.Unreadable}
    (h : Body.read call.body (bodyContentTypes explicit (calledOperation c call api) call)
      (call.header? "content-type") = .error e) :
    resolveWith compile settings cache c call api explicit = (.error (.unreadable e), cache) := by
  simp only [resolveWith, setContentType_eq, h]

/-- **Any other gives a context.** -/
theorem resolveWith_of_ok {body : Option Body}
    (h : Body.read call.body (bodyContentTypes explicit (calledOperation c call api) call)
      (call.header? "content-type") = .ok body) :
    (resolveWith compile settings cache c call api explicit).1 =
      .ok (contextOf compile settings cache c call api explicit body) := by
  simp only [resolveWith, setContentType_eq, h, resolve_patternWith, contextOf, started]

theorem declaredParameters_of_calls (h : Calls c call api item own) :
    declaredParameters c call api = (api.document.completed item own).parameters := by
  rw [declaredParameters, calledOperation, h.getD_operation?]

theorem declaredParameters_of_not_calls (h : ∀ item own, ¬ Calls c call api item own) :
    declaredParameters c call api = [] := by
  rw [declaredParameters, calledOperation_eq_none h]

/-- **The context is the one that is told of.** -/
theorem Resolved.eq (h : Resolved compile settings cache c call api explicit context) :
    context = contextOf compile settings cache c call api explicit context.requestBody := by
  have hparams : context.parameters =
      Parameter.present (sources compile cache c call context.requestBody)
        (declaredParameters c call api) := by
    rcases calls_or_not c call api with ⟨item, own, hcalls⟩ | hnot
    · rw [h.declared item own hcalls, declaredParameters_of_calls hcalls]
    · rw [h.undeclared hnot, declaredParameters_of_not_calls hnot]
      rfl
  have hrest := h.rest
  rw [h.message] at hrest
  rw [contextOf, ← hparams]
  exact hrest

/-- The context for what the body is read as is such a one. -/
theorem resolved_contextOf {body : Option Body}
    (h : Body.read call.body (bodyContentTypes explicit (calledOperation c call api) call)
      (call.header? "content-type") = .ok body) :
    Resolved compile settings cache c call api explicit
      (contextOf compile settings cache c call api explicit body) where
  body := ⟨_, offered_iff.2 rfl, Body.read_eq_ok_iff.1 h⟩
  message := rfl
  rest := rfl
  declared item own hcalls := by
    rw [contextOf, declaredParameters_of_calls hcalls]
    rfl
  undeclared hnot := by
    rw [contextOf, declaredParameters_of_not_calls hnot]
    rfl

theorem resolveWith_eq_ok_iff :
    (resolveWith compile settings cache c call api explicit).1 = .ok context ↔
      Resolved compile settings cache c call api explicit context := by
  constructor
  · intro h
    cases hread : Body.read call.body
        (bodyContentTypes explicit (calledOperation c call api) call)
        (call.header? "content-type") with
    | error e =>
      rw [resolveWith_of_error hread] at h
      cases h
    | ok body =>
      rw [resolveWith_of_ok hread] at h
      obtain rfl := Except.ok.inj h
      exact resolved_contextOf hread
  · intro h
    obtain ⟨types, htypes, hbody⟩ := h.body
    rw [offered_iff.1 htypes] at hbody
    rw [resolveWith_of_ok (Body.read_eq_ok_iff.2 hbody), ← h.eq]

/-- **Only an unreadable body ends resolving.** -/
theorem resolveWith_eq_error_iff {refusal : Refusal} :
    (resolveWith compile settings cache c call api explicit).1 = .error refusal ↔
      ∃ types, Offered explicit c call api types ∧ refusal = .unreadable ⟨types⟩ ∧
        call.body ≠ [] ∧ ∀ t ∈ types, ∀ b,
          ¬ Body.Decodes (Body.charsetOf (call.header? "content-type")) call.body t b := by
  simp only [offered_iff, exists_eq_left]
  cases hread : Body.read call.body
      (bodyContentTypes explicit (calledOperation c call api) call)
      (call.header? "content-type") with
  | error e =>
    obtain ⟨rfl, hne, hnone⟩ := Body.read_eq_error_iff.1 hread
    rw [resolveWith_of_error hread, Except.error.injEq, eq_comm]
    exact (and_iff_left ⟨hne, hnone⟩).symm
  | ok body =>
    rw [resolveWith_of_ok hread]
    refine iff_of_false nofun fun ⟨_, hne, hnone⟩ => ?_
    exact nomatch hread.symm.trans (Body.read_eq_error_iff.2 ⟨rfl, hne, hnone⟩)

/-- **Without a pattern** the parameters in the path are left out, and those
elsewhere have the values that they have with any pattern. -/
theorem present_of_uncompilable (other : Template.Compiler)
    (hnone : Uncompilable compile cache c) (body : Option Body) (params : List Parameter) :
    Parameter.present (sources compile cache c call body) params =
      Parameter.merged (sources other cache c call body)
        ((Parameter.placed params).filter fun x => x.1.location ≠ .path) := by
  have hsources : sources compile cache c call body = ⟨call, none, body⟩ := by
    rw [sources, keptOrCompiled, hnone.1, hnone.2]
  rw [← Parameter.resolve_eq_present fun _ _ => rfl, Parameter.resolve_eq_merged, hsources]
  refine Parameter.merged_eq_filter (fun x _ hloc => ?_) fun x _ hloc => ?_
  · exact value?_eq_of_ne_path (of_decide_eq_true hloc)
  · exact value?_eq_none_of_path (not_not.1 (of_decide_eq_false hloc))

/-- **A template that does not compile** takes the parameters in the path away
from the context, and nothing else. -/
theorem resolveWith_of_uncompilable (other : Template.Compiler)
    (hnone : Uncompilable compile cache c)
    (h : (resolveWith other settings cache c call api explicit).1 = .ok context) :
    (resolveWith compile settings cache c call api explicit).1 = .ok { context with
      parameters := Parameter.merged (sources other cache c call context.requestBody)
        ((Parameter.placed (declaredParameters c call api)).filter fun x =>
          x.1.location ≠ .path) } := by
  have hresolved := resolveWith_eq_ok_iff.1 h
  obtain ⟨types, htypes, hbody⟩ := hresolved.body
  rw [offered_iff.1 htypes] at hbody
  have hframe : ∀ ps : OrderedMap String Value,
      { contextOf other settings cache c call api explicit context.requestBody with
        parameters := ps } = { context with parameters := ps } := fun ps =>
    congrArg (fun k : Context => { k with parameters := ps }) hresolved.eq.symm
  rw [resolveWith_of_ok (Body.read_eq_ok_iff.2 hbody), contextOf,
    present_of_uncompilable other hnone context.requestBody]
  exact congrArg Except.ok (hframe _)

/-- **What resolving is refused for, and what it gives else.** Whichever
templates compile: it is refused exactly if the body is not empty and no content
type that is offered decodes it, and then with the list of these, of which there
is one. In all other cases it gives the context of `Resolved`, in which a
parameter whose value is missing or does not convert is absent, and all are if
the operation is malformed. If the template does not compile it gives the
context that it gives with any other compiler, without the parameters in the
path. And with the compiler that takes every template it is `resolve`. -/
theorem resolve_exact (settings : ResolveSettings) (cache : Template.PatternCache)
    (c : Candidate) (call : Call) (api : Api) (explicit : Option String) :
    (∃! types, Offered explicit c call api types) ∧
    (∀ compile refusal,
      (resolveWith compile settings cache c call api explicit).1 = .error refusal ↔
        ∃ types, Offered explicit c call api types ∧ refusal = .unreadable ⟨types⟩ ∧
          call.body ≠ [] ∧ ∀ t ∈ types, ∀ b,
            ¬ Body.Decodes (Body.charsetOf (call.header? "content-type")) call.body t b) ∧
    (∀ compile context,
      (resolveWith compile settings cache c call api explicit).1 = .ok context ↔
        Resolved compile settings cache c call api explicit context) ∧
    (∀ compile other context, Uncompilable compile cache c →
      (resolveWith other settings cache c call api explicit).1 = .ok context →
      (resolveWith compile settings cache c call api explicit).1 = .ok { context with
        parameters := Parameter.merged (sources other cache c call context.requestBody)
          ((Parameter.placed (declaredParameters c call api)).filter fun x =>
            x.1.location ≠ .path) }) ∧
    resolveWith (fun b t => some (.compile b t)) settings cache c call api explicit =
      ((resolve settings cache c call api explicit).1.mapError Refusal.unreadable,
        (resolve settings cache c call api explicit).2) := by
  have hone : ∃! types, Offered explicit c call api types :=
    ⟨_, offered_iff.2 rfl, fun types h => offered_iff.1 h⟩
  exact ⟨hone, fun _ _ => resolveWith_eq_error_iff, fun _ _ => resolveWith_eq_ok_iff,
    fun _ other _ => resolveWith_of_uncompilable other,
    resolveWith_compile settings cache c call api explicit⟩

end Context

end ApiGateway
