import ApiGateway.Text.Pieces
import ApiGateway.Text.Utf8
/-!
# Store — paths

A path is written as names between slashes. What it means depends on the
directories that it leads through, so it is kept as the steps that it
takes (`TreePath`): into a name, or up. A place (`Place`) is where steps
lead, whichever way they took: two paths to one file have one place.
-/

namespace ApiGateway

/-- One step of a path. -/
inductive PathStep where
  | up
  | name (s : String)
  deriving DecidableEq, Repr

namespace PathStep

/-- The order of steps: up comes first, names go by their characters. -/
def isBefore : PathStep → PathStep → Bool
  | .up, .up => false
  | .up, .name _ => true
  | .name _, .up => false
  | .name s, .name t => decide (s < t)

/-- The step as it is written. -/
def text : PathStep → String
  | .up => ".."
  | .name s => s

/-- Names may have this many bytes. -/
def maxBytes : Nat := 255

/-- Whether no file can have the name. -/
def isTooLong (step : PathStep) : Bool := maxBytes < step.text.utf8.length

/-- Whether the name has the character NUL, which no path may have. -/
def hasNul (step : PathStep) : Bool := step.text.toList.any fun c => c.toNat = 0

end PathStep

/-- How a path is written behind its last step. A slash or a dot there
says that it leads to a directory. -/
inductive PathEnd where
  | plain
  | slash
  | dot
  deriving DecidableEq, Repr

/-- A path, from the root on. -/
structure TreePath where
  steps : List PathStep
  ending : PathEnd
  /-- The path as it is written. -/
  text : String
  deriving DecidableEq, Repr

namespace TreePath

/-- The step that a piece between slashes stands for. Empty pieces and
single dots stand for none. -/
def step? (piece : String) : Option PathStep :=
  if piece = "" ∨ piece = "." then none
  else if piece = ".." then some .up
  else some (.name piece)

/-- The path that a text denotes. A leading slash stands for the topmost
directory, which is a name of its own. -/
def parse (s : String) : TreePath :=
  let pieces := s.pieces '/'
  let steps := pieces.filterMap step?
  { steps := if s.toList.head? = some '/' then .name "/" :: steps else steps
    ending :=
      if (pieces.filter (· ≠ "")).getLast? = some "." then .dot
      else if pieces.getLast? = some "" then .slash
      else .plain
    text := s }

/-- The path without its last step. -/
def parent (p : TreePath) : TreePath :=
  let steps := p.steps.dropLast
  { steps := steps, ending := .plain, text := String.joined "/" (steps.map PathStep.text) }

/-- The path of something in the directory that a path leads to. -/
def child (p : TreePath) (name : String) : TreePath :=
  { steps := p.steps ++ [.name name], ending := .plain, text := p.text ++ "/" ++ name }

/-- The name that a path ends in, if its last step is one. -/
def name? (p : TreePath) : Option String :=
  match p.steps.getLast? with
  | some (.name s) => some s
  | _ => none

/-- Paths may have this many bytes. -/
def maxBytes : Nat := 4079

/-- Whether nothing can be at the path, whatever there is: it is too
long or has the character NUL. -/
def isImpossible (p : TreePath) : Bool :=
  maxBytes < p.text.utf8.length || p.steps.any PathStep.hasNul

/-- The order of step lists: step by step. -/
def areBefore : List PathStep → List PathStep → Bool
  | [], [] => false
  | [], _ :: _ => true
  | _ :: _, [] => false
  | a :: p, b :: q => a.isBefore b || (a = b && areBefore p q)

/-- The order of paths, by their steps. -/
def isBefore (p q : TreePath) : Bool := areBefore p.steps q.steps

/-- Whether two paths take the same steps. -/
def isSame (p q : TreePath) : Bool := p.steps = q.steps

end TreePath

/-- Where a path leads: the names from the root on, the outermost first.
The directories around the root are `..`, `../..` and so on, and `/` is
the topmost one. -/
abbrev Place := List String

namespace Place

/-- Whether the place is a directory around the files that are kept, or
the root itself. Such a directory is always there. -/
def isAround (p : Place) : Bool := p.all (· = "..") || p = ["/"]

/-- The directory that a place is in. -/
def above (p : Place) : Place :=
  if p = ["/"] then p
  else if p.isAround then ".." :: p
  else p.dropLast

/-- Where a step leads from a directory. -/
def after (p : Place) : PathStep → Place
  | .up => p.above
  | .name s => p ++ [s]

end Place

end ApiGateway
