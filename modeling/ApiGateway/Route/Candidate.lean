import ApiGateway.Call
import ApiGateway.Pattern.Notation
import ApiGateway.Record.RouteEntry
/-!
# Routes — the candidates for a call

A template of a route entry is eligible for a call when its pattern
matches the path and it declares the method, or the call is a preflight
and the entry answers cross-origin requests. The candidates are the
eligible templates of the lowest score, all of them, in the order of the
entries (`Candidate.find`): one search goes through the entries and keeps
the best score so far as a threshold. Among the candidates the secret of
the caller decides, or the order if there is none (`Candidate.select?`).
-/

namespace ApiGateway

/-- The method of preflight requests. -/
def optionsMethod : String := "OPTIONS"

/-- How texts are read as patterns: as tests of paths, or not at all if
they are none. -/
abbrev PatternReader := String → Option (String → Bool)

/-- The reader of the notation that templates are written in. -/
def Pattern.reader : PatternReader := fun text =>
  (Pattern.parse? text.toList).map fun pattern path => pattern.isMatch path.toList

namespace RoutePath

/-- Whether the pattern of the template matches a path. A text that is
no pattern matches nothing. -/
def isMatch (p : RoutePath) (read : PatternReader) (path : String) : Bool :=
  match read p.pathRegex with
  | some test => test path
  | none => false

/-- The declared methods for an answer to a preflight, `OPTIONS` among
them. -/
def allowMethods (p : RoutePath) : String :=
  let methods := p.pathMethods.map (·.method)
  String.joined "," (if methods.contains optionsMethod then methods else methods ++ [optionsMethod])

end RoutePath

/-- A template of an entry that may serve a call. -/
structure Candidate where
  score : Template.Score
  entry : RouteEntry
  /-- The position of the template among those of the entry. -/
  pathIndex : Nat
  path : RoutePath
  /-- The operation for the method of the call; a preflight may do
  without. -/
  method : Option MethodEntry
  /-- The methods for cross-origin answers, empty if the entry gives
  none. -/
  allowMethods : String

namespace Candidate

/-- The candidate that one template of an entry is for a method, whatever
the path. -/
def ofPath (entry : RouteEntry) (pathIndex : Nat) (path : RoutePath) (method : String) :
    Candidate :=
  { score := path.matchingScore
    entry := entry
    pathIndex := pathIndex
    path := path
    method := path.method? method
    allowMethods := if entry.corsEnabled then path.allowMethods else "" }

/-- A search through the templates of the entries, so far: the score that
a template may not exceed, and the candidates of that score. -/
structure Search where
  threshold : Template.Score
  tied : List Candidate

namespace Search

/-- A search at its start, where every score is allowed. -/
def start : Search := ⟨.greatest, []⟩

/-- A candidate taken in: it is dropped if it exceeds the threshold,
drives the others out if it is below, and joins them if it is as
good. -/
def accept (b : Search) (c : Candidate) : Search :=
  if b.threshold < c.score then b
  else if c.score < b.threshold then ⟨c.score, [c]⟩
  else ⟨b.threshold, b.tied ++ [c]⟩

/-- One template tried: its pattern has to match the path, and it has to
declare the method unless the call is a preflight that the entry
answers. -/
def visit (read : PatternReader) (method target : String) (entry : RouteEntry) (b : Search)
    (t : RoutePath × Nat) : Search :=
  if t.1.isMatch read target then
    if (t.1.method? method).isNone && (method != optionsMethod || !entry.corsEnabled) then b
    else b.accept (ofPath entry t.2 t.1 method)
  else b

/-- The templates of one entry tried in their order. -/
def visitEntry (read : PatternReader) (method target : String) (b : Search) (entry : RouteEntry) :
    Search :=
  entry.apiPaths.zipIdx.foldl (visit read method target entry) b

end Search

/-- The candidates for a method, in any case, and a path, in one search
through the entries in their order; none at all means that no route
matches. -/
def find (method target : String) (entries : List RouteEntry)
    (read : PatternReader := Pattern.reader) : List Candidate :=
  (entries.foldl (Search.visitEntry read method.asciiUpper target) Search.start).tied

/-- The candidate for a caller: the first one with the secret that the
caller presents, or the first of all. -/
def select? (candidates : List Candidate) (secret : Option String) : Option Candidate :=
  match secret with
  | some s => candidates.find? fun c => c.entry.clientSecret = some s
  | none => candidates.head?

/-- What a caller is told when no candidate is selected, whatever the
reason. -/
def noMatchMessage : String := "unable to process the request"

end Candidate

end ApiGateway
