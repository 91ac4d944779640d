import ApiGateway.Proofs.Route.Tasks
import ApiGateway.Store.Basic
/-!
# Loading — the workers of the index

Events are taken from the queue in the order in which they came, and each
is handled by a worker of its own. All of these workers run at once: any
of them may make the next access to the store, so events that were taken
are finished in any order (`Indexing.work`). An event stays counted until
its worker is done.

`Indexing.work_cases` says everything that one step of a worker can do,
and all that is proved of workers rests on it.
-/

namespace ApiGateway

/-- A list at one of its places: what stands before it and after it, and
the list with something else there, or nothing. -/
theorem exists_set_eq {α : Type} {l : List α} {n : Nat} {a : α} (h : l[n]? = some a) :
    ∃ before after, l = before ++ a :: after ∧ (∀ b, l.set n b = before ++ b :: after) ∧
      l.eraseIdx n = before ++ after := by
  obtain ⟨hlt, hget⟩ := List.getElem?_eq_some_iff.1 h
  refine ⟨l.take n, l.drop (n + 1), ?_, fun b => ?_, List.eraseIdx_eq_take_drop_succ l n⟩
  · rw [← hget, List.getElem_cons_drop, List.take_append_drop]
  · exact List.set_eq_take_append_cons_drop.trans (if_pos hlt)

/-- What is in a list after one of its places was given something else. -/
theorem eq_or_mem_of_mem_replaced {α : Type} {l before after : List α} {a b x : α}
    (hl : l = before ++ a :: after) (hx : x ∈ before ++ b :: after) : x = b ∨ x ∈ l := by
  rw [hl]
  rcases List.mem_append.1 hx with hx | hx
  · exact Or.inr (List.mem_append_left _ hx)
  · exact (List.mem_cons.1 hx).imp_right fun hx =>
      List.mem_append_right _ (List.mem_cons_of_mem _ hx)

/-- A store, and what is left to do for the events that were taken from
its queue. -/
structure Indexing where
  store : Store
  /-- The events that were taken, the first one first, each with its
  task. -/
  tasks : List (IndexEvent × Task)

namespace Indexing

/-- The oldest event is taken, if one waits. -/
def take (i : Indexing) : Indexing :=
  match i.store.queue.take? with
  | none => i
  | some (e, queue) => ⟨{ i.store with queue := queue }, i.tasks ++ [(e, .ofEvent e)]⟩

/-- One worker makes its next access to the store. Of the records that
answer a question it is given the one with this number, counted round and
round. -/
def work (i : Indexing) (worker pick : Nat) : Indexing :=
  match i.tasks[worker]? with
  | none => i
  | some (_, .done) =>
    ⟨{ i.store with queue := i.store.queue.complete }, i.tasks.eraseIdx worker⟩
  | some (e, .ask q next) =>
    ⟨i.store, i.tasks.set worker (e, next (i.store.records.answer? e.snapshot q pick))⟩
  | some (e, .store x next) =>
    ⟨i.store.withRecords fun r => r.putRouteEntry x, i.tasks.set worker (e, next)⟩

/-- **Everything that taking can do**: nothing where no event waits, and
otherwise the first event goes from the queue to a worker. -/
theorem take_cases (i : Indexing) :
    (i.store.queue.waiting = [] ∧ i.take = i) ∨
    ∃ e rest, i.store.queue.waiting = e :: rest ∧
      i.take = ⟨{ i.store with queue := { i.store.queue with waiting := rest } },
        i.tasks ++ [(e, .ofEvent e)]⟩ := by
  unfold take IndexQueue.take?
  cases h : i.store.queue.waiting with
  | nil => exact Or.inl ⟨rfl, rfl⟩
  | cons e rest => exact Or.inr ⟨e, rest, rfl, rfl⟩

/-- **Everything that a step of a worker can do**: nothing, a question
answered, an entry stored, or an event dealt with. -/
theorem work_cases (i : Indexing) (worker pick : Nat) :
    i.work worker pick = i ∨
    ∃ before e t after, i.tasks = before ++ (e, t) :: after ∧
      ((∃ q next, t = .ask q next ∧ i.work worker pick =
          ⟨i.store, before ++ (e, next (i.store.records.answer? e.snapshot q pick)) :: after⟩) ∨
        (∃ x next, t = .store x next ∧ i.work worker pick =
          ⟨i.store.withRecords fun r => r.putRouteEntry x, before ++ (e, next) :: after⟩) ∨
        (t = .done ∧ i.work worker pick =
          ⟨{ i.store with queue := i.store.queue.complete }, before ++ after⟩)) := by
  unfold work
  cases h : i.tasks[worker]? with
  | none => exact Or.inl rfl
  | some p =>
    obtain ⟨e, t⟩ := p
    obtain ⟨before, after, hsplit, hset, herase⟩ := exists_set_eq h
    refine Or.inr ⟨before, e, t, after, hsplit, ?_⟩
    cases t with
    | ask q next => exact Or.inl ⟨q, next, rfl, by simp only [hset]⟩
    | store x next => exact Or.inr (Or.inl ⟨x, next, rfl, by simp only [hset]⟩)
    | done => exact Or.inr (Or.inr ⟨rfl, by simp only [herase]⟩)

end Indexing

end ApiGateway
