import Mathlib.Data.List.Forall2
/-!
# Outcomes — taking fallible steps apart

A sequence of steps that may fail gives a result if every step does
(`bind_eq_ok`), and otherwise the error of the first that does not
(`bind_eq_error`). A fallible map gives the results of the elements in their
order (`mapM_eq_ok_iff`), by way of what these come from
(`mapM_eq_ok_iff_exists`), or the error of the first that has none
(`mapM_eq_error_iff`). So if it gives a result it has one for each element
(`exists_of_mapM`), and gives nothing but that (`mem_of_mapM`); it gives one
if it has one for each (`isSome_mapM`). What is found in the result comes
from what is found in the list (`find?_of_mapM`).
-/

namespace ApiGateway

namespace Outcome

variable {ε α β : Type}

/-- A sequence gives a result if both of its parts do. -/
theorem bind_eq_ok {x : Except ε α} {f : α → Except ε β} {b : β} :
    (x >>= f) = .ok b ↔ ∃ a, x = .ok a ∧ f a = .ok b := by
  cases x with
  | error e => simp [bind, Except.bind]
  | ok a => simp [bind, Except.bind]

/-- What gives no result fails. -/
theorem exists_error_iff {x : Except ε α} : (∃ e, x = .error e) ↔ ¬ ∃ a, x = .ok a := by
  cases x with
  | error e => simp
  | ok a => simp

theorem pure_eq_ok {a b : α} : (pure a : Except ε α) = .ok b ↔ a = b := by
  simp [pure, Except.pure]

/-- A sequence fails with the error of its first part, or of the second on
what the first gives. -/
theorem bind_eq_error {x : Except ε α} {f : α → Except ε β} {e : ε} :
    (x >>= f) = .error e ↔ x = .error e ∨ ∃ a, x = .ok a ∧ f a = .error e := by
  cases x with
  | error e' => simp [bind, Except.bind]
  | ok a => simp [bind, Except.bind]

/-- **A fallible map gives the results of the elements**, in their order. -/
theorem mapM_eq_ok_iff {f : α → Except ε β} {xs : List α} {ys : List β} :
    xs.mapM f = .ok ys ↔ List.Forall₂ (fun x y => f x = .ok y) xs ys := by
  induction xs generalizing ys with
  | nil => rw [List.mapM_nil, pure_eq_ok, List.forall₂_nil_left_iff, eq_comm]
  | cons x xs ih =>
    rw [List.mapM_cons, bind_eq_ok, List.forall₂_cons_left_iff]
    simp only [bind_eq_ok, pure_eq_ok, ih]
    constructor
    · rintro ⟨y, hy, ys', hys, rfl⟩
      exact ⟨y, ys', hy, hys, rfl⟩
    · rintro ⟨y, ys', hy, hys, rfl⟩
      exact ⟨y, hy, ys', hys, rfl⟩

/-- **A fallible map fails with the first of the elements that does**: those
before it have results. -/
theorem mapM_eq_error_iff {f : α → Except ε β} {xs : List α} {e : ε} :
    xs.mapM f = .error e ↔ ∃ before x after, xs = before ++ x :: after ∧
      (∀ y ∈ before, ∃ z, f y = .ok z) ∧ f x = .error e := by
  induction xs with
  | nil => simp [pure, Except.pure]
  | cons x xs ih =>
    rw [List.mapM_cons, bind_eq_error]
    constructor
    · rintro (hx | ⟨z, hz, h⟩)
      · exact ⟨[], x, xs, rfl, fun y hy => absurd hy List.not_mem_nil, hx⟩
      · obtain ⟨before, y, after, rfl, hbefore, hy⟩ :=
          ih.1 ((bind_eq_error.1 h).resolve_right fun ⟨_, _, h⟩ => nomatch h)
        exact ⟨x :: before, y, after, rfl, List.forall_mem_cons.2 ⟨⟨z, hz⟩, hbefore⟩, hy⟩
    · rintro ⟨before, y, after, hsplit, hbefore, hy⟩
      cases before with
      | nil =>
        obtain ⟨rfl, -⟩ := List.cons_eq_cons.1 hsplit
        exact Or.inl hy
      | cons x' before =>
        obtain ⟨rfl, rfl⟩ := List.cons_eq_cons.1 hsplit
        obtain ⟨⟨z, hz⟩, hbefore⟩ := List.forall_mem_cons.1 hbefore
        exact Or.inr ⟨z, hz, bind_eq_error.2 (Or.inl (ih.2 ⟨before, y, after, rfl, hbefore, hy⟩))⟩

/-- Lists that are related element by element through something in between
have a list in between. -/
theorem exists_forall₂_between {γ : Type} {R : α → γ → Prop} {S : γ → β → Prop} {xs : List α}
    {ys : List β} (h : List.Forall₂ (fun x y => ∃ z, R x z ∧ S z y) xs ys) :
    ∃ zs, List.Forall₂ R xs zs ∧ List.Forall₂ S zs ys := by
  induction h with
  | nil => exact ⟨[], .nil, .nil⟩
  | cons hxy _ ih =>
    obtain ⟨z, hxz, hzy⟩ := hxy
    obtain ⟨zs, hR, hS⟩ := ih
    exact ⟨z :: zs, .cons hxz hR, .cons hzy hS⟩

/-- **A fallible map whose results come from something in between** gives what
comes from a list of it. -/
theorem mapM_eq_ok_iff_exists {γ : Type} {f : α → Except ε β} {R : α → γ → Prop} {g : γ → β}
    (hf : ∀ x y, f x = .ok y ↔ ∃ z, R x z ∧ g z = y) {xs : List α} {ys : List β} :
    xs.mapM f = .ok ys ↔ ∃ zs, List.Forall₂ R xs zs ∧ zs.map g = ys := by
  simp only [mapM_eq_ok_iff, hf]
  constructor
  · intro h
    obtain ⟨zs, hR, hg⟩ := exists_forall₂_between h
    rw [← List.forall₂_map_left_iff, List.forall₂_eq_eq_eq] at hg
    exact ⟨zs, hR, hg⟩
  · rintro ⟨zs, hR, rfl⟩
    rw [List.forall₂_map_right_iff]
    exact hR.imp fun x z h => ⟨z, h, rfl⟩

/-- What a fallible map gives comes from an element. -/
theorem mem_of_mapM {f : α → Except ε β} {xs : List α} {ys : List β} (h : xs.mapM f = .ok ys)
    {y : β} (hy : y ∈ ys) : ∃ x ∈ xs, f x = .ok y := by
  induction xs generalizing ys with
  | nil =>
    cases h
    cases hy
  | cons x xs ih =>
    rw [List.mapM_cons, bind_eq_ok] at h
    obtain ⟨z, hz, h⟩ := h
    obtain ⟨zs, hzs, h⟩ := bind_eq_ok.1 h
    obtain rfl := pure_eq_ok.1 h
    rcases List.mem_cons.1 hy with rfl | hy
    · exact ⟨x, List.mem_cons_self, hz⟩
    · obtain ⟨x', hx', hf⟩ := ih hzs hy
      exact ⟨x', List.mem_cons_of_mem _ hx', hf⟩

/-- A fallible map that gives a result has one for each element. -/
theorem exists_of_mapM {f : α → Except ε β} {xs : List α} {ys : List β} (h : xs.mapM f = .ok ys)
    {x : α} (hx : x ∈ xs) : ∃ y ∈ ys, f x = .ok y := by
  induction xs generalizing ys with
  | nil => cases hx
  | cons x' xs ih =>
    rw [List.mapM_cons, bind_eq_ok] at h
    obtain ⟨z, hz, h⟩ := h
    obtain ⟨zs, hzs, h⟩ := bind_eq_ok.1 h
    obtain rfl := pure_eq_ok.1 h
    rcases List.mem_cons.1 hx with rfl | hx
    · exact ⟨z, List.mem_cons_self, hz⟩
    · obtain ⟨y, hy, hf⟩ := ih hzs hx
      exact ⟨y, List.mem_cons_of_mem _ hy, hf⟩

/-- A map that may give nothing gives a result if each element does. -/
theorem isSome_mapM {f : α → Option β} (xs : List α) :
    (xs.mapM f).isSome = true ↔ ∀ x ∈ xs, (f x).isSome = true := by
  induction xs with
  | nil => simp
  | cons x xs ih =>
    rw [List.mapM_cons, List.forall_mem_cons, ← ih]
    cases f x with
    | none => simp
    | some y => cases xs.mapM f <;> simp

/-- What a map gives that may give nothing comes from an element. -/
theorem mem_of_mapM_eq_some {f : α → Option β} {xs : List α} {ys : List β}
    (h : xs.mapM f = some ys) {y : β} (hy : y ∈ ys) : ∃ x ∈ xs, f x = some y := by
  induction xs generalizing ys with
  | nil =>
    cases h
    cases hy
  | cons x xs ih =>
    rw [List.mapM_cons] at h
    obtain ⟨z, hz, h⟩ := Option.bind_eq_some_iff.1 h
    obtain ⟨zs, hzs, h⟩ := Option.bind_eq_some_iff.1 h
    obtain rfl := Option.some.inj h
    rcases List.mem_cons.1 hy with rfl | hy
    · exact ⟨x, List.mem_cons_self, hz⟩
    · obtain ⟨x', hx', hf⟩ := ih hzs hy
      exact ⟨x', List.mem_cons_of_mem _ hx', hf⟩

/-- The first of the results that passes a test is the result of the first
one whose result does. -/
theorem find?_of_mapM {f : α → Option β} {p : α → Bool} {test : β → Bool} {xs : List α}
    {ys : List β} (h : xs.mapM f = some ys) (htest : ∀ x y, f x = some y → test y = p x) :
    (xs.find? p = none ∧ ys.find? test = none) ∨
      ∃ x y, xs.find? p = some x ∧ f x = some y ∧ ys.find? test = some y := by
  induction xs generalizing ys with
  | nil =>
    obtain rfl := Option.some.inj h
    exact Or.inl ⟨rfl, rfl⟩
  | cons x xs ih =>
    rw [List.mapM_cons] at h
    obtain ⟨y, hy, h⟩ := Option.bind_eq_some_iff.1 h
    obtain ⟨ys, hys, h⟩ := Option.bind_eq_some_iff.1 h
    obtain rfl := Option.some.inj h
    rw [List.find?_cons, List.find?_cons, htest x y hy]
    cases p x with
    | true => exact Or.inr ⟨x, y, rfl, hy, rfl⟩
    | false => exact ih hys

/-- A map that undoes another on each element undoes it on the list. -/
theorem mapM_map_of_forall {f : α → Option β} {g : β → α} {ys : List β}
    (h : ∀ y ∈ ys, f (g y) = some y) : (ys.map g).mapM f = some ys := by
  induction ys with
  | nil => rfl
  | cons y ys ih =>
    rw [List.map_cons, List.mapM_cons, h y List.mem_cons_self,
      ih fun y' hy' => h y' (List.mem_cons_of_mem y hy')]
    rfl

end Outcome

end ApiGateway
