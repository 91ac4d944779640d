import ApiGateway.OrderedMap
import ApiGateway.Store.TreePath
/-!
# Store — directories of configuration

What the configuration root holds, as a map from places to files and
directories; the root itself is a directory that is always there. A path
is followed step by step (`follow`), and every step but the last has to
lead to a directory. Snapshots are read from a directory, and the
directory goes when its snapshot does.
-/

namespace ApiGateway

/-- A file or a directory. -/
inductive FileNode where
  | file (content : List UInt8)
  | directory
  deriving DecidableEq, Repr

/-- The files and directories below the root. -/
abbrev FileTree := OrderedMap Place FileNode

namespace FileTree

/-- What is at a place. -/
def node? (t : FileTree) (p : Place) : Option FileNode :=
  if p.isAround then some .directory else OrderedMap.get? t p

def isDirectory (t : FileTree) (p : Place) : Bool := t.node? p = some .directory

/-! ## Following a path -/

/-- What following a path comes to. -/
inductive Reached where
  /-- A directory on the way, or the last place, is not there. -/
  | missing
  /-- Something on the way is no directory, or the path cannot be. -/
  | blocked
  | place (p : Place)
  deriving DecidableEq, Repr

/-- Where steps lead from a directory. -/
def follow (t : FileTree) : Place → List PathStep → Reached
  | p, [] => .place p
  | p, step :: rest =>
    if step.isTooLong then .blocked
    else
      let next := p.after step
      match t.node? next with
      | none => .missing
      | some .directory => follow t next rest
      | some (.file _) => if rest = [] then .place next else .blocked

/-- Where a path leads from the root. -/
def resolve (t : FileTree) (p : TreePath) : Reached :=
  if p.isImpossible then .blocked
  else
    match t.follow [] p.steps with
    | .place q => if p.ending = .plain ∨ t.isDirectory q then .place q else .blocked
    | r => r

/-- Whether a path leads to anything. -/
def contains (t : FileTree) (p : TreePath) : Bool :=
  match t.resolve p with
  | .place _ => true
  | _ => false

/-! ## Writing

A change that fails may have made some of the directories on the way; it
answers whether it succeeded, with the tree as it is then. -/

/-- The directories along steps from a directory are made where they are
missing. -/
def makeAlong (t : FileTree) : Place → List PathStep → Bool × FileTree
  | _, [] => (true, t)
  | p, step :: rest =>
    if step.isTooLong then (false, t)
    else
      let next := p.after step
      match t.node? next with
      | none => makeAlong (OrderedMap.insert t next .directory) next rest
      | some .directory => makeAlong t next rest
      | some (.file _) => (false, t)

/-- A directory is made, and all those that lead to it. Behind its last
step a path with a dot leads on into the directory, which then has to be
there before. -/
def makeDirectories (t : FileTree) (p : TreePath) : Bool × FileTree :=
  if p.isImpossible then (false, t)
  else if p.ending = .dot then
    let (made, t') := t.makeAlong [] p.parent.steps
    (made && t'.contains p, t')
  else t.makeAlong [] p.steps

/-- A file is written, and the directories that lead to it are made. It
replaces a file, but no directory. -/
def write (t : FileTree) (p : TreePath) (content : List UInt8) : Bool × FileTree :=
  let (made, t') := t.makeDirectories p.parent
  match made, t'.follow [] p.parent.steps, p.steps.getLast? with
  | true, .place q, some (.name s) =>
    let file := q.after (.name s)
    if p.isImpossible ∨ p.ending ≠ .plain ∨ (PathStep.name s).isTooLong ∨ t'.isDirectory file then
      (false, t')
    else (true, OrderedMap.insert t' file (.file content))
  | _, _, _ => (false, t')

/-! ## Reading -/

/-- What reading a file or a directory comes to. -/
inductive Read (α : Type) where
  | missing
  | failed
  | ok (content : α)
  deriving Repr

/-- The content of a file. -/
def read (t : FileTree) (p : TreePath) : Read (List UInt8) :=
  match t.resolve p with
  | .missing => .missing
  | .blocked => .failed
  | .place q =>
    match t.node? q with
    | some (.file content) => .ok content
    | _ => .failed

/-- The name of a place that is directly in a directory. -/
def nameIn? (dir p : Place) : Option String :=
  match p.getLast? with
  | some name => if p = dir ++ [name] then some name else none
  | none => none

/-- The names of the directories in a directory. -/
def directoriesIn (t : FileTree) (dir : TreePath) : Read (List String) :=
  match t.resolve dir with
  | .missing => .missing
  | .blocked => .failed
  | .place q =>
    if t.isDirectory q then
      .ok (t.filterMap fun e => if e.2 = .directory then nameIn? q e.1 else none)
    else .failed

/-! ## Deleting -/

/-- The tree without a place and everything below it. -/
def without (t : FileTree) (p : Place) : FileTree := t.filter fun e => !p.isPrefixOf e.1

/-- A directory deleted with everything in it: how many there were, or
`none` if it is a file, which stays. -/
def removeDirectory (t : FileTree) (p : Place) : Option Nat × FileTree :=
  match t.node? p with
  | none => (some 0, t)
  | some (.file _) => (none, t)
  | some .directory => (some 1, t.without p)

end FileTree

end ApiGateway
