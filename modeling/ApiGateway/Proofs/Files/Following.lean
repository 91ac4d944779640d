import ApiGateway.Proofs.DistinctKeys
import ApiGateway.Store.FileTree
/-!
# Files — what is below a directory

Following a path and then one step more is following the path, if that
leads to a directory, and taking the step there (`follow_concat`). So
what reading something below a path comes to is decided by the path: if
it leads nowhere nothing is there, and if it leads to anything but a
directory reading fails (`read_child`).
-/

namespace ApiGateway

namespace FileTree

variable {t : FileTree} {p q : Place} {dir : TreePath} {name : String}

/-- **One step more.** -/
theorem follow_concat (a : List PathStep) (step : PathStep) (hp : t.isDirectory p = true) :
    t.follow p (a ++ [step]) =
      match t.follow p a with
      | .place q => if t.isDirectory q then t.follow q [step] else .blocked
      | r => r := by
  induction a generalizing p with
  | nil => simp [follow, hp]
  | cons x a ih =>
    rw [List.cons_append, follow, follow]
    by_cases hlong : x.isTooLong
    · simp [hlong]
    · simp only [hlong, Bool.false_eq_true, if_false]
      cases hn : t.node? (p.after x) with
      | none => rfl
      | some node =>
        cases node with
        | directory => exact ih (decide_eq_true hn)
        | file content =>
          -- nothing can be below a file, whether or not the path ends there
          cases a with
          | nil => simp [isDirectory, hn]
          | cons y a => simp

theorem isDirectory_root (t : FileTree) : t.isDirectory [] = true := rfl

/-- The content of the file that was reached. -/
def contentAt (t : FileTree) : Reached → Read (List UInt8)
  | .missing => .missing
  | .blocked => .failed
  | .place q =>
    match t.node? q with
    | some (.file content) => .ok content
    | _ => .failed

theorem read_eq_contentAt (t : FileTree) (p : TreePath) : t.read p = t.contentAt (t.resolve p) := by
  unfold read contentAt
  cases t.resolve p <;> rfl

/-- **Reading below a path.** If the path leads nowhere, nothing is
there. -/
theorem read_child (h : (dir.child name).isImpossible = false) :
    t.read (dir.child name) =
      match t.follow [] dir.steps with
      | .place q => if t.isDirectory q then t.contentAt (t.follow q [.name name]) else .failed
      | .missing => .missing
      | .blocked => .failed := by
  have hsteps : (dir.child name).steps = dir.steps ++ [.name name] := rfl
  rw [read_eq_contentAt, resolve, h, if_neg Bool.false_ne_true, hsteps,
    follow_concat _ _ (isDirectory_root t)]
  cases t.follow [] dir.steps with
  | missing => rfl
  | blocked => rfl
  | place q =>
    dsimp only
    by_cases hq : t.isDirectory q = true
    · rw [if_pos hq, if_pos hq]
      cases t.follow q [.name name] with
      | missing => rfl
      | blocked => rfl
      | place file => exact congrArg t.contentAt (if_pos (Or.inl rfl))
    · rw [if_neg hq, if_neg hq]
      rfl

/-- A path below one that cannot be cannot be. -/
theorem isImpossible_child (h : dir.isImpossible = true) : (dir.child name).isImpossible = true := by
  have hlen : dir.text.utf8.length ≤ (dir.child name).text.utf8.length := by
    simp [TreePath.child, String.utf8, Utf8.encode]
  rcases Bool.or_eq_true_iff.1 h with h | h
  · refine Bool.or_eq_true_iff.2 (Or.inl (decide_eq_true ?_))
    exact Nat.lt_of_lt_of_le (of_decide_eq_true h) hlen
  · refine Bool.or_eq_true_iff.2 (Or.inr ?_)
    simp [TreePath.child, h]

/-- What can be read is at a path that can be. -/
theorem possible_of_read (h : t.read dir ≠ .failed) : dir.isImpossible = false := by
  cases hi : dir.isImpossible with
  | false => rfl
  | true => exact absurd (by simp [read, resolve, hi]) h

/-- A path is seen if it leads to a directory. -/
def sees (t : FileTree) (dir : TreePath) : Bool :=
  match t.resolve dir with
  | .place q => t.isDirectory q
  | _ => false

/-- **What is read below a path shows what the path leads to**: to a
directory, or nowhere. -/
theorem sees_or_missing (h : t.read (dir.child name) ≠ .failed) :
    t.sees dir = true ∨ t.resolve dir = .missing := by
  have hchild := possible_of_read h
  have hdir : dir.isImpossible = false := by
    refine Bool.not_eq_true _ ▸ fun hd => ?_
    have hc : (dir.child name).isImpossible = true := isImpossible_child hd
    rw [hchild] at hc
    cases hc
  rw [read_child hchild] at h
  rw [sees, resolve, hdir]
  cases hf : t.follow [] dir.steps with
  | missing => exact Or.inr rfl
  | blocked => exact absurd (by rw [hf]) h
  | place q =>
    rw [hf] at h
    by_cases hq : t.isDirectory q
    · exact Or.inl (by simp [hq])
    · exact absurd (if_neg hq) h

/-- Below a path that leads nowhere there is nothing to read. -/
theorem read_child_of_missing (h : t.resolve dir = .missing)
    (hchild : (dir.child name).isImpossible = false) : t.read (dir.child name) = .missing := by
  rw [read_child hchild]
  unfold resolve at h
  split at h
  · cases h
  · cases hf : t.follow [] dir.steps with
    | missing => rfl
    | blocked => simp [hf] at h
    | place q =>
      simp only [hf] at h
      split at h
      · cases h
      · cases h

/-! ## Deleting -/

/-- What is at a place after another one was deleted. -/
theorem node?_removeDirectory (h : p.isPrefixOf q = false) :
    (t.removeDirectory p).2.node? q = t.node? q := by
  have hwithout : (t.without p).node? q = t.node? q := by
    rw [node?, node?, without, OrderedMap.get?_filter (fun x => !p.isPrefixOf x)]
    simp [h]
  unfold removeDirectory
  split
  · rfl
  · rfl
  · exact hwithout

/-- A path of one name is seen if a directory bears the name. -/
theorem sees_of_steps (hdir : dir.steps = [.name name]) :
    t.sees dir =
      (!dir.isImpossible && !(PathStep.name name).isTooLong && t.isDirectory [name]) := by
  have hafter : Place.after [] (.name name) = [name] := rfl
  unfold sees resolve
  rw [hdir, follow, hafter]
  cases dir.isImpossible with
  | true => simp
  | false =>
    by_cases hlong : (PathStep.name name).isTooLong
    · simp [hlong]
    · cases hn : t.node? [name] with
      | none => simp [hlong, isDirectory, hn]
      | some node =>
        cases node with
        | directory => simp [hlong, follow, isDirectory, hn]
        | file content =>
          -- a slash or a dot at the end asks for the directory that is missing here
          by_cases hplain : dir.ending = .plain
          · simp [hlong, hplain, isDirectory, hn]
          · simp [hlong, hplain, isDirectory, hn]

end FileTree

end ApiGateway
