import ApiGateway.Record.Api
import Mathlib.Data.List.Nodup
/-!
# Parameters — what an operation takes over from its path item

A path item shares parameters among its operations, and a parameter of an
operation stands in for a shared one with the same name and location. The
shared ones are gone through in their order, and each is compared with all
that the operation has by then, those that were taken over among them. So
what is taken over depends on a list that grows (`takenOver`), and the
lemmas about it are by induction on the shared list for any list that is
there before.

`Inherits` is what comes of it: the operation's own parameters stay in front,
for each name and location its own parameter is found first and else the
first of the shared ones, and none is taken over twice. An operation takes
over the content types of its document as well, if it names none.
-/

namespace ApiGateway

namespace Parameter

variable {present shared : List Parameter} {p : Parameter}

/-! ## Parameters that are taken over -/

/-- What parameters are told apart by. -/
def pair (p : Parameter) : String × ParamLocation := (p.name, p.location)

/-- **What a list of parameters takes over**: in their order, each one whose
pair is not in the list, nor among what was taken over before. -/
def takenOver : List Parameter → List Parameter → List Parameter
  | _, [] => []
  | present, p :: ps =>
    if p.pair ∈ present.map pair then takenOver present ps
    else p :: takenOver (present ++ [p]) ps

theorem takenOver_sublist (present shared : List Parameter) :
    (takenOver present shared).Sublist shared := by
  induction shared generalizing present with
  | nil => exact .slnil
  | cons p ps ih =>
    rw [takenOver]
    split
    · exact (ih present).cons p
    · exact (ih (present ++ [p])).cons_cons p

/-- What is taken over was not there. -/
theorem pair_not_mem_of_mem_takenOver (h : p ∈ takenOver present shared) :
    p.pair ∉ present.map pair := by
  induction shared generalizing present with
  | nil => cases h
  | cons q ps ih =>
    rw [takenOver] at h
    split at h
    · exact ih h
    · rename_i hnew
      rcases List.mem_cons.1 h with rfl | h
      · exact hnew
      · exact fun hin => ih h (by rw [List.map_append]; exact List.mem_append_left _ hin)

theorem nodup_takenOver (present shared : List Parameter) :
    ((takenOver present shared).map pair).Nodup := by
  induction shared generalizing present with
  | nil => exact List.nodup_nil
  | cons p ps ih =>
    rw [takenOver]
    split
    · exact ih present
    · refine List.nodup_cons.2 ⟨fun hin => ?_, ih (present ++ [p])⟩
      -- what comes after it is compared with it too
      obtain ⟨q, hq, hpair⟩ := List.mem_map.1 hin
      refine pair_not_mem_of_mem_takenOver hq ?_
      rw [hpair, List.map_append]
      exact List.mem_append_right _ List.mem_cons_self

/-- **A pair that is taken over stands once.** -/
theorem count_pair_of_mem_takenOver (h : p ∈ takenOver present shared) :
    ((present ++ takenOver present shared).map pair).count p.pair = 1 := by
  rw [List.map_append, List.count_append,
    List.count_eq_zero_of_not_mem (pair_not_mem_of_mem_takenOver h),
    List.count_eq_one_of_mem (nodup_takenOver present shared) (List.mem_map_of_mem h)]

theorem mem_pairs_iff {ps : List Parameter} {x : String × ParamLocation} :
    x ∈ ps.map pair ↔ (ps.find? fun p => p.pair = x).isSome = true := by
  simp [List.mem_map]

/-- **What is left out is not missed**: by its pair the same parameter is
found as if all of them had been added. -/
theorem find?_append_takenOver (present shared : List Parameter) (x : String × ParamLocation) :
    (present ++ takenOver present shared).find? (fun p => p.pair = x) =
      (present ++ shared).find? fun p => p.pair = x := by
  induction shared generalizing present with
  | nil => rfl
  | cons p ps ih =>
    rw [takenOver]
    split
    · rename_i hin
      rw [ih present, List.find?_append, List.find?_append]
      by_cases hx : p.pair = x
      · obtain ⟨q, hq⟩ := Option.isSome_iff_exists.1 (mem_pairs_iff.1 (hx ▸ hin))
        rw [hq, Option.some_or, Option.some_or]
      · rw [List.find?_cons_of_neg (by simpa using hx)]
    · rw [List.append_cons, ih (present ++ [p]), ← List.append_cons]

end Parameter

namespace Operation

/-- **Sharing parameters changes the parameters and nothing else.** -/
theorem foldl_withShared (shared : List Parameter) (o : Operation) :
    shared.foldl withShared o =
      { o with parameters := o.parameters ++ Parameter.takenOver o.parameters shared } := by
  have hstep : ∀ (o : Operation) (p : Parameter), o.withShared p =
      if p.pair ∈ o.parameters.map Parameter.pair then o
      else { o with parameters := o.parameters ++ [p] } := by
    intro o p
    rw [withShared]
    refine if_congr ?_ rfl rfl
    simp [Parameter.pair, List.mem_map]
  induction shared generalizing o with
  | nil => rw [List.foldl_nil, Parameter.takenOver, List.append_nil]
  | cons p ps ih =>
    rw [List.foldl_cons, hstep, Parameter.takenOver]
    split
    · rw [ih o]
    · rw [ih, List.append_assoc, List.singleton_append]

end Operation

namespace ApiDocument

variable {d : ApiDocument} {template method : String} {item : PathItem} {own o : Operation}

/-! ## The operation that is looked up -/

/-- A document has an operation to be looked up: its path item is there and can
be read, and so can what stands under the first key that is the method. -/
def Finds (d : ApiDocument) (template method : String) (item : PathItem) (own : Operation) :
    Prop :=
  ∃ raw, OrderedMap.get? d.paths template = some raw ∧ PathItem.ofJson? raw = some item ∧
    item.operation? method = some (some own)

/-- An operation with everything that applies to it. -/
def completed (d : ApiDocument) (item : PathItem) (o : Operation) : Operation :=
  d.withConsumes (item.parameters.foldl Operation.withShared o)

/-- **The operation that is looked up** has everything that applies to it. -/
theorem operation?_eq_some_iff : d.operation? template method = some (some o) ↔
    ∃ item own, d.Finds template method item own ∧ o = d.completed item own := by
  constructor
  · intro h
    unfold operation? at h
    split at h
    · cases h
    · rename_i raw hraw
      obtain ⟨item, hitem, h⟩ := Option.bind_eq_some_iff.1 h
      obtain ⟨found, hfound, h⟩ := Option.bind_eq_some_iff.1 h
      cases found with
      | none => cases h
      | some own =>
        cases h
        exact ⟨item, own, ⟨raw, hraw, hitem, hfound⟩, rfl⟩
  · rintro ⟨item, own, ⟨raw, hraw, hitem, hown⟩, rfl⟩
    simp only [operation?, hraw, hitem, hown, Option.bind_eq_bind, Option.bind_some, completed]

/-- **An operation with what it inherits** from its path item and its
document. -/
structure Inherits (d : ApiDocument) (item : PathItem) (own o : Operation) : Prop where
  operationId_eq : o.operationId = own.operationId
  security_eq : o.security = own.security
  /-- Content types that are given stand, even if there are none of them. -/
  consumes_eq : o.consumes = own.consumes.or (if d.consumes = [] then none else some d.consumes)
  /-- Shared parameters stand behind its own in their order, and no pair that
  one of them brings in stands twice. -/
  parameters_eq : ∃ added, o.parameters = own.parameters ++ added ∧
    added.Sublist item.parameters ∧
    ∀ p ∈ added, (o.parameters.map Parameter.pair).count p.pair = 1
  /-- What is declared at either level is there, and nothing else is. -/
  mem_pairs : ∀ x, x ∈ o.parameters.map Parameter.pair ↔
    x ∈ own.parameters.map Parameter.pair ∨ x ∈ item.parameters.map Parameter.pair
  /-- Its own parameter comes first, or else the first that is shared. -/
  find?_eq : ∀ x, (o.parameters.find? fun p => p.pair = x) =
    (own.parameters.find? fun p => p.pair = x).or (item.parameters.find? fun p => p.pair = x)

/-- **Everything that applies to an operation**, field by field. -/
theorem completed_eq (d : ApiDocument) (item : PathItem) (own : Operation) :
    d.completed item own = { own with
      parameters := own.parameters ++ Parameter.takenOver own.parameters item.parameters
      consumes := own.consumes.or (if d.consumes = [] then none else some d.consumes) } := by
  rw [completed, withConsumes, Operation.foldl_withShared]
  obtain ⟨operationId, security, parameters, consumes⟩ := own
  cases consumes with
  | some types => simp
  | none => by_cases hd : d.consumes = [] <;> simp [hd]

theorem inherits_completed (d : ApiDocument) (item : PathItem) (own : Operation) :
    Inherits d item own (d.completed item own) := by
  have hparameters : (d.completed item own).parameters =
      own.parameters ++ Parameter.takenOver own.parameters item.parameters := by
    rw [completed_eq]
  have hfind : ∀ x, ((d.completed item own).parameters.find? fun p => p.pair = x) =
      (own.parameters.find? fun p => p.pair = x).or
        (item.parameters.find? fun p => p.pair = x) := by
    intro x
    rw [hparameters, Parameter.find?_append_takenOver, List.find?_append]
  refine ⟨by rw [completed_eq], by rw [completed_eq], by rw [completed_eq], ?_, fun x => ?_, hfind⟩
  · rw [hparameters]
    exact ⟨_, rfl, Parameter.takenOver_sublist _ _,
      fun _ => Parameter.count_pair_of_mem_takenOver⟩
  · rw [Parameter.mem_pairs_iff, hfind, Option.isSome_or, Bool.or_eq_true,
      ← Parameter.mem_pairs_iff, ← Parameter.mem_pairs_iff]

/-- **What an operation that is looked up has.** It is declared under the
template for the method, and has what it inherits. -/
theorem operation_inherits (h : d.operation? template method = some (some o)) :
    ∃ item own, d.Finds template method item own ∧ Inherits d item own o := by
  obtain ⟨item, own, hfinds, rfl⟩ := operation?_eq_some_iff.1 h
  exact ⟨item, own, hfinds, inherits_completed d item own⟩

/-! ## Parameters declared twice -/

/-- A parameter as a document declares it. -/
def declared (name location kind : String) : Json :=
  .object [("name", .string name), ("in", .string location), ("type", .string kind)]

/-- A document whose path item shares a parameter that its operation has too,
one of the same name in another location, and one that stands twice; the
operation has its own one twice. -/
def peaksDocument : ApiDocument :=
  { blank with
    paths := [("/peaks", .object [
      ("parameters", .array [declared "range" "query" "string", declared "range" "header" "string",
        declared "unit" "query" "integer", declared "unit" "query" "string"]),
      ("get", .object [("parameters", .array [declared "range" "query" "integer",
        declared "range" "query" "number"])])])]
    consumes := ["application/json"] }

/-- **Both of its own and two of the shared** parameters make up the
operation. -/
theorem own_and_shared_of_peaks :
    ∃ o, peaksDocument.operation? "/peaks" "GET" = some (some o) ∧
      (o.parameters.map fun p => (p.pair, p.schema.tag.kind)) =
        [(("range", .query), some "integer"), (("range", .query), some "number"),
          (("range", .header), some "string"), (("unit", .query), some "integer")] ∧
      o.consumes = some ["application/json"] ∧
      ∃ item own, peaksDocument.Finds "/peaks" "GET" item own ∧
        Inherits peaksDocument item own o := by
  refine ⟨_, rfl, ?_, ?_, operation_inherits rfl⟩
  · decide +kernel
  · decide +kernel

end ApiDocument

end ApiGateway
