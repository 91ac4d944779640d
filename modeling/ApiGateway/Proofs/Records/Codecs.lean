import ApiGateway.Proofs.Records.RoundTrip
import ApiGateway.Proofs.Snapshots.Ids
import ApiGateway.Record.Opaque
import ApiGateway.Record.RouteEntry
import ApiGateway.Record.Subscription
/-!
# Records — every record is read back

For each kind of record, a record that was read from JSON is read again from
the JSON that it is written as (`RecordKind.read_again`), so that writing what
was read changes nothing the second time (`RecordKind.normal?_bind_normal?`).

Many records are read back whatever they hold, which their
`ofJson?_toJson` says. The others hold a map, a value that may be `null` or
a number with a bound, and are read back if they were read in the first
place; their `roundTrip` says so, from the field that matters up to the
record that holds it.
-/

namespace ApiGateway

/-! ## Records that are read back whatever they hold -/

@[simp] theorem Organization.ofJson?_toJson (o : Organization) : ofJson? o.toJson = some o := rfl

@[simp] theorem Catalog.ofJson?_toJson (c : Catalog) : ofJson? c.toJson = some c := by
  simp [ofJson?, toJson, Json.asString?]

@[simp] theorem CatalogRef.ofJson?_toJson (c : CatalogRef) : ofJson? c.toJson = some c := rfl

@[simp] theorem ProductInfo.ofJson?_toJson (i : ProductInfo) : ofJson? i.toJson = some i := by
  simp [ofJson?, toJson, Json.asString?]

@[simp] theorem ProductApi.ofJson?_toJson (a : ProductApi) : ofJson? a.toJson = some a := rfl

@[simp] theorem RateLimit.ofJson?_toJson (l : RateLimit) : ofJson? l.toJson = some l := rfl

@[simp] theorem RateLimitValue.ofJson?_toJson (v : RateLimitValue) :
    ofJson? v.toJson = some v := rfl

@[simp] theorem ApiInfo.ofJson?_toJson (i : ApiInfo) : ofJson? i.toJson = some i := by
  simp [ofJson?, toJson, Json.asString?]

@[simp] theorem CorsConfig.ofJson?_toJson (c : CorsConfig) : ofJson? c.toJson = some c := rfl

@[simp] theorem ApiProperty.ofJson?_toJson (p : ApiProperty) : ofJson? p.toJson = some p := by
  simp [ofJson?, toJson]

@[simp] theorem Credential.ofJson?_toJson (c : Credential) : ofJson? c.toJson = some c := by
  simp [ofJson?, toJson, Json.asString?]

@[simp] theorem PlanRef.ofJson?_toJson (p : PlanRef) : ofJson? p.toJson = some p := by
  simp [ofJson?, toJson, Json.asString?]

@[simp] theorem ProductRef.ofJson?_toJson (p : ProductRef) : ofJson? p.toJson = some p := rfl

@[simp] theorem ApiRefDocument.ofJson?_toJson (d : ApiRefDocument) : ofJson? d.toJson = some d := by
  simp [ofJson?, toJson]

@[simp] theorem ApiRef.ofJson?_toJson (a : ApiRef) : ofJson? a.toJson = some a := by
  simp [ofJson?, toJson]

/-- A list of such records is read back. -/
theorem Json.listOf?_ofList {α : Type} {read : Json → Option α} {write : α → Json}
    (h : ∀ a, read (write a) = some a) (xs : List α) : listOf? read (ofList write xs) = some xs :=
  Outcome.mapM_map_of_forall fun x _ => h x

@[simp] theorem Application.ofJson?_toJson (a : Application) : ofJson? a.toJson = some a := by
  have hcredentials := Json.listOf?_ofList Credential.ofJson?_toJson a.credentials
  simp [ofJson?, toJson, Json.asString?, hcredentials]

@[simp] theorem PlanRegistration.ofJson?_toJson (r : PlanRegistration) :
    ofJson? r.toJson = some r := by
  have hapis := Json.listOf?_ofList ApiRef.ofJson?_toJson r.apis
  simp [ofJson?, toJson, Json.asString?, hapis]

theorem Subscription.ofJson?_toJson (s : Subscription) : ofJson? s.toJson = some s := by
  simp [ofJson?, toJson, Json.asString?]

@[simp] theorem SnapshotId.ofJson?_toJson (i : SnapshotId) : ofJson? i.toJson = some i := by
  rw [toJson, ofJson?, Json.asString?, Option.bind_some, parse?_text]

/-! ## Parameters -/

@[simp] theorem ParamLocation.ofJson?_toJson (l : ParamLocation) : ofJson? l.toJson = some l := by
  cases l <;> rfl

@[simp] theorem CollectionFormat.ofJson?_toJson (inParameter : Bool) (f : CollectionFormat) :
    ofJson? inParameter f.toJson = some f := by
  cases f <;> rfl

namespace TypeSchema

/-- The schema of the elements is a field like the others. -/
theorem itemsMember_eq (inParameter : Bool) (members : List (String × Json)) :
    ofJson?.itemsMember inParameter members =
      Fields.optional ⟨false, members⟩ "items" (ofJson? inParameter) := by
  induction members with
  | nil => rfl
  | cons p members ih =>
    obtain ⟨k, j⟩ := p
    rw [Fields.optional_cons, ← ih]
    cases j <;> rfl

theorem ofJson?_object (inParameter : Bool) (members : List (String × Json)) :
    ofJson? inParameter (.object members) = (tagOf? inParameter ⟨false, members⟩).bind fun tag =>
      (Fields.optional ⟨false, members⟩ "items" (ofJson? inParameter)).map (build tag) := by
  rw [← itemsMember_eq, ofJson?]
  cases htag : tagOf? inParameter ⟨false, members⟩ with
  | none => simp [htag]
  | some tag => cases ofJson?.itemsMember inParameter members <;> simp [htag]

@[simp] theorem orNull_collectionFormat (inParameter : Bool) (o : Option CollectionFormat) :
    Fields.orNull (CollectionFormat.ofJson? inParameter) (.ofOption CollectionFormat.toJson o) =
      some o :=
  Fields.orNull_ofOption (CollectionFormat.ofJson?_toJson inParameter) (fun _ => Json.noConfusion) o

theorem members_eq (s : TypeSchema) : s.members =
    [("type", .ofOption .string s.tag.kind), ("format", .ofOption .string s.tag.format),
      ("collectionFormat", .ofOption CollectionFormat.toJson s.tag.collectionFormat),
      ("items", .ofOption toJson s.items?)] := by
  cases s <;> rfl

@[simp] theorem build_fields (s : TypeSchema) :
    build ⟨s.tag.kind, s.tag.format, s.tag.collectionFormat⟩ s.items? = s := by
  cases s <;> rfl

/-- A schema is read back if the schema of its elements is. -/
theorem ofJson?_toJson_of_items {inParameter : Bool} {s : TypeSchema}
    (hitems : Fields.orNull (ofJson? inParameter) (.ofOption toJson s.items?) = some s.items?) :
    ofJson? inParameter s.toJson = some s := by
  simp [toJson, ofJson?_object, members_eq, tagOf?, hitems]

@[simp] theorem ofJson?_toJson (inParameter : Bool) (s : TypeSchema) :
    ofJson? inParameter s.toJson = some s := by
  induction s with
  | plain t => exact ofJson?_toJson_of_items rfl
  | withItems t s ih => exact ofJson?_toJson_of_items (congrArg (Option.map some) ih)

theorem orNull_items? (inParameter : Bool) (s : TypeSchema) :
    Fields.orNull (ofJson? inParameter) (.ofOption toJson s.items?) = some s.items? :=
  Fields.orNull_ofOption (ofJson?_toJson inParameter) (fun _ => Json.noConfusion) s.items?

end TypeSchema

/-- The fields of the schema are found beside those of the parameter. -/
@[simp] theorem Parameter.ofJson?_toJson (p : Parameter) : ofJson? p.toJson = some p := by
  simp [ofJson?, toJson, TypeSchema.ofJson?_object, TypeSchema.members_eq, TypeSchema.tagOf?,
    TypeSchema.orNull_items?, Json.asString?, Json.asBool?]

/-! ## Operations, snapshots and route entries -/

@[simp] theorem Json.listOf?_some_array (xs : List Json) : listOf? some (.array xs) = some xs := by
  have hread : ∀ j : Json, some (id j) = some j := fun _ => rfl
  simpa [ofList] using listOf?_ofList hread xs

@[simp] theorem Json.orNull_ofOption_array (o : Option (List Json)) :
    Fields.orNull (listOf? some) (ofOption .array o) = some o :=
  Fields.orNull_ofOption listOf?_some_array (fun _ => Json.noConfusion) o

@[simp] theorem Json.listOf?_ofStrings (xs : List String) :
    listOf? asString? (ofStrings xs) = some xs := by
  have hread : ∀ s, asString? (.string s) = some s := fun _ => rfl
  exact listOf?_ofList hread xs

theorem Operation.ofJson?_toJson (o : Operation) : ofJson? o.toJson = some o := by
  have hparameters := Json.listOf?_ofList Parameter.ofJson?_toJson o.parameters
  have hconsumes := Fields.orNull_ofOption Json.listOf?_ofStrings (fun _ => Json.noConfusion)
    o.consumes
  simp [ofJson?, toJson, hparameters, hconsumes]

/-- Of a path item, the parameters are not among the other members. -/
theorem PathItem.roundTrip : RoundTrip ofJson? toJson := by
  intro j i h
  cases j with
  | object ms =>
    obtain ⟨parameters, -, h⟩ := Option.bind_eq_some_iff.1 h
    obtain rfl := Option.some.inj h
    have hparameters := Json.listOf?_ofList Parameter.ofJson?_toJson parameters
    simp [ofJson?, toJson, hparameters, OrderedMap.erase]
  | _ => cases h

theorem OpaqueRecord.roundTrip : RoundTrip ofJson? toJson := by
  intro j r h
  cases j with
  | object ms =>
    obtain ⟨id, -, h⟩ := Option.bind_eq_some_iff.1 h
    obtain rfl := Option.some.inj h
    simp [ofJson?, toJson, OrderedMap.erase, OrderedMap.get?, Json.asString?]
  | _ => cases h

theorem Snapshot.roundTrip : RoundTrip ofJson? toJson := by
  intro j s h
  simp only [ofJson?, Option.bind_eq_bind, Option.bind_eq_some_iff, Option.pure_def,
    Option.some.injEq] at h
  obtain ⟨f, -, id, -, refcount, hrefcount, current, -, rfl⟩ := h
  have hagain := (RoundTrip.nat _).required hrefcount
  simp [ofJson?, toJson, Json.asBool?, hagain]

theorem MethodEntry.roundTrip : RoundTrip ofJson? toJson := by
  intro j m h
  simp only [ofJson?, Option.bind_eq_bind, Option.bind_eq_some_iff, Option.pure_def,
    Option.some.injEq] at h
  obtain ⟨f, -, method, -, operationId, -, defs, hdefs, reqs, -, rfl⟩ := h
  have hagain := RoundTrip.wholeOrNull.nullable hdefs
  simp [ofJson?, toJson, Json.asString?, hagain]

@[simp] theorem Template.Score.ofJson?_ofNat (s : Template.Score) :
    Template.Score.ofJson? (.ofNat s) = some s := by
  rw [Template.Score.ofJson?, RoundTrip.asNat?_ofNat s.isLt, Option.map_some]
  exact congrArg some (Fin.ext (Nat.mod_eq_of_lt s.isLt))

theorem RoutePath.roundTrip : RoundTrip ofJson? toJson := by
  intro j p h
  simp only [ofJson?, Option.bind_eq_bind, Option.bind_eq_some_iff, Option.pure_def,
    Option.some.injEq] at h
  obtain ⟨f, -, path, -, score, -, regex, -, methods, hmethods, rfl⟩ := h
  have hagain := MethodEntry.roundTrip.listOf.required hmethods
  -- unfolded before `simp`, or the kernel would compute with the bound of the score
  rw [toJson, ofJson?, Fields.of?_object, Option.bind_eq_bind, Option.bind_some]
  simp [Json.asString?, hagain]

theorem RouteEntry.roundTrip : RoundTrip ofJson? toJson := by
  intro j e h
  obtain ⟨f, -, h⟩ := Option.bind_eq_some_iff.1 h
  -- the seventeen fields before the limits are read back whatever they hold
  iterate 17 obtain ⟨_, -, h⟩ := Option.bind_eq_some_iff.1 h
  obtain ⟨rateLimits, -, h⟩ := Option.bind_eq_some_iff.1 h
  obtain ⟨apiPaths, hpaths, h⟩ := Option.bind_eq_some_iff.1 h
  obtain rfl := Option.some.inj h
  have hlimits := Json.listOf?_ofList RateLimit.ofJson?_toJson rateLimits
  have hagain := RoutePath.roundTrip.listOf.required hpaths
  rw [toJson, ofJson?, Fields.of?_object, Option.bind_eq_bind, Option.bind_some]
  simp [Json.asString?, Json.asBool?, hlimits, hagain]

/-! ## APIs and products -/

@[simp] theorem Json.ofMap_id (m : OrderedMap String Json) : ofMap id m = .object m := by
  simp [ofMap, OrderedMap.mapValues]

theorem GatewayExtension.roundTrip : RoundTrip ofJson? toJson := by
  intro j e h
  simp only [ofJson?, Option.bind_eq_bind, Option.bind_eq_some_iff, Option.pure_def,
    Option.some.injEq] at h
  obtain ⟨f, -, cors, -, properties, hproperties, assembly, hassembly, rfl⟩ := h
  have hcors := Fields.orNull_ofOption CorsConfig.ofJson?_toJson (fun _ => Json.noConfusion) cors
  have hproperties := (RoundTrip.of_forall ApiProperty.ofJson?_toJson).mapOf.withDefault rfl
    hproperties
  have hassembly := RoundTrip.wholeOrNull.optional hassembly
  simp [ofJson?, toJson, hcors, hproperties, hassembly]

theorem ApiDocument.roundTrip : RoundTrip ofJson? toJson := by
  intro j d h
  simp only [ofJson?, Option.bind_eq_bind, Option.bind_eq_some_iff, Option.pure_def,
    Option.some.injEq] at h
  obtain ⟨f, -, info, -, basePath, -, paths, hpaths, defs, hdefs, reqs, -, consumes, -,
    gateway, hgateway, rfl⟩ := h
  have hpaths := RoundTrip.whole.mapOf.withDefault rfl hpaths
  have hdefs := RoundTrip.wholeOrNull.optional hdefs
  have hgateway := GatewayExtension.roundTrip.withDefault rfl hgateway
  rw [Json.ofMap_id] at hpaths
  simp [ofJson?, toJson, Json.asString?, hpaths, hdefs, hgateway]

theorem Api.roundTrip : RoundTrip ofJson? toJson := by
  intro j a h
  simp only [ofJson?, Option.bind_eq_bind, Option.bind_eq_some_iff, Option.pure_def,
    Option.some.injEq] at h
  obtain ⟨f, -, id, -, document, hdocument, rfl⟩ := h
  have hdocument := ApiDocument.roundTrip.required hdocument
  simp [ofJson?, toJson, Json.asString?, hdocument]

theorem Plan.roundTrip : RoundTrip ofJson? toJson := by
  intro j p h
  simp only [ofJson?, Option.bind_eq_bind, Option.bind_eq_some_iff, Option.pure_def,
    Option.some.injEq] at h
  obtain ⟨f, -, title, -, limits, hlimits, apis, hapis, rfl⟩ := h
  have hlimits := (RoundTrip.of_forall RateLimitValue.ofJson?_toJson).mapOf.withDefault rfl hlimits
  have hapis := (RoundTrip.whole.mapOf.orNull fun _ _ _ _ => Json.noConfusion).optional hapis
  simp [ofJson?, toJson, hlimits, hapis]

theorem ProductDocument.roundTrip : RoundTrip ofJson? toJson := by
  intro j d h
  simp only [ofJson?, Option.bind_eq_bind, Option.bind_eq_some_iff, Option.pure_def,
    Option.some.injEq] at h
  obtain ⟨f, -, info, -, plans, hplans, apis, hapis, rfl⟩ := h
  have hplans := Plan.roundTrip.mapOf.withDefault rfl hplans
  have hapis := (RoundTrip.of_forall ProductApi.ofJson?_toJson).mapOf.withDefault rfl hapis
  simp [ofJson?, toJson, hplans, hapis]

theorem Product.roundTrip : RoundTrip ofJson? toJson := by
  intro j p h
  simp only [ofJson?, Option.bind_eq_bind, Option.bind_eq_some_iff, Option.pure_def,
    Option.some.injEq] at h
  obtain ⟨f, -, id, -, catalog, -, document, hdocument, rfl⟩ := h
  have hdocument := ProductDocument.roundTrip.withDefault rfl hdocument
  simp [ofJson?, toJson, Json.asString?, hdocument]

/-! ## All kinds -/

/-- The kinds of records. -/
inductive RecordKind where
  | organization
  | catalog
  | product
  | api
  | subscription
  | parameter
  | operation
  | pathItem
  /-- TLS profiles and registries. -/
  | opaqueRecord
  | snapshot
  | routeEntry
  deriving DecidableEq

namespace RecordKind

/-- The records of a kind. -/
def Record : RecordKind → Type
  | organization => Organization
  | catalog => Catalog
  | product => Product
  | api => Api
  | subscription => Subscription
  | parameter => Parameter
  | operation => Operation
  | pathItem => PathItem
  | opaqueRecord => OpaqueRecord
  | snapshot => Snapshot
  | routeEntry => RouteEntry

def ofJson? : (k : RecordKind) → Json → Option k.Record
  | organization => Organization.ofJson?
  | catalog => Catalog.ofJson?
  | product => Product.ofJson?
  | api => Api.ofJson?
  | subscription => Subscription.ofJson?
  | parameter => Parameter.ofJson?
  | operation => Operation.ofJson?
  | pathItem => PathItem.ofJson?
  | opaqueRecord => OpaqueRecord.ofJson?
  | snapshot => Snapshot.ofJson?
  | routeEntry => RouteEntry.ofJson?

def toJson : (k : RecordKind) → k.Record → Json
  | organization => Organization.toJson
  | catalog => Catalog.toJson
  | product => Product.toJson
  | api => Api.toJson
  | subscription => Subscription.toJson
  | parameter => Parameter.toJson
  | operation => Operation.toJson
  | pathItem => PathItem.toJson
  | opaqueRecord => OpaqueRecord.toJson
  | snapshot => Snapshot.toJson
  | routeEntry => RouteEntry.toJson

/-- The JSON that a record is written as which is read from this one. -/
def normal? (k : RecordKind) (j : Json) : Option Json := (k.ofJson? j).map k.toJson

theorem roundTrip : ∀ k : RecordKind, RoundTrip k.ofJson? k.toJson
  | organization => .of_forall Organization.ofJson?_toJson
  | catalog => .of_forall Catalog.ofJson?_toJson
  | product => Product.roundTrip
  | api => Api.roundTrip
  | subscription => .of_forall Subscription.ofJson?_toJson
  | parameter => .of_forall Parameter.ofJson?_toJson
  | operation => .of_forall Operation.ofJson?_toJson
  | pathItem => PathItem.roundTrip
  | opaqueRecord => OpaqueRecord.roundTrip
  | snapshot => Snapshot.roundTrip
  | routeEntry => RouteEntry.roundTrip

/-- **Writing what was read once more changes nothing.** -/
theorem normal?_bind_normal? (k : RecordKind) (j : Json) :
    (k.normal? j).bind k.normal? = k.normal? j := by
  cases h : k.ofJson? j with
  | none => simp [normal?, h]
  | some r => simp [normal?, h, k.roundTrip h]

/-- **A record that was read is read again from what is written for it, and
comes out the same**, its maps with the same keys in the same order. -/
theorem read_again (k : RecordKind) {j : Json} {r : k.Record} (h : k.ofJson? j = some r) :
    k.ofJson? (k.toJson r) = some r ∧ (k.normal? j).bind k.normal? = k.normal? j :=
  ⟨k.roundTrip h, k.normal?_bind_normal? j⟩

/-- A parameter whose schema of the elements is given by position, and whose
location and format are given as keys. -/
theorem parameter_read_again :
    let j : Json := .object [("in", .object [("query", .null)]), ("name", .string "ids"),
      ("type", .string "array"), ("collectionFormat", .object [("pipes", .object [])]),
      ("items", .array [.string "integer", .string "int64"]), ("x-note", .bool true)]
    let r : Parameter := ⟨"ids", .query, false,
      .withItems ⟨some "array", none, some .pipes⟩ (.plain ⟨some "integer", some "int64", none⟩)⟩
    RecordKind.parameter.ofJson? j = some r ∧
      RecordKind.parameter.ofJson? (RecordKind.parameter.toJson r) = some r ∧
        (RecordKind.parameter.normal? j).bind RecordKind.parameter.normal? =
          RecordKind.parameter.normal? j := by
  intro j r
  have h : RecordKind.parameter.ofJson? j = some r := rfl
  exact ⟨h, read_again .parameter h⟩

end RecordKind

end ApiGateway
