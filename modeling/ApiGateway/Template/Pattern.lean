import ApiGateway.OrderedMap
import ApiGateway.Pattern.Notation
import ApiGateway.Template.Scan
/-!
# Templates — the patterns of a template

Two patterns belong to a base path and a template. The routing pattern
decides whether a path may be meant: every placeholder stands for any
text. The capture pattern takes the values out of a path: a placeholder
stands for one piece between slashes, and a placeholder whose name
begins with a plus, at the end of the template, for all that is left.
Both start with the base path without its trailing slashes.
-/

namespace ApiGateway

namespace Template

/-- The base path without its trailing slashes. -/
def trimmedBase (base : List Char) : List Char :=
  (base.reverse.dropWhile (· = '/')).reverse

/-- A text as the items that match it and nothing else. -/
def literalItems (text : List Char) : Pattern := text.map Pattern.Item.char

/-- A segment in the routing pattern. -/
def routingItems : Segment → Pattern
  | .literal t => literalItems t
  | .placeholder .. => [⟨.notLineFeed, .any, false⟩]

/-- The routing pattern of a template under a base path. -/
def routingPattern (base template : List Char) : Pattern :=
  literalItems (trimmedBase base) ++ (scan template).flatMap routingItems

/-- Whether a placeholder of this name takes the rest of a path when it
ends the template. -/
def takesRest (name : List Char) : Bool := name.head? = some '+'

/-- The items of a run of segments that ends a template. -/
def captureItems : List Segment → Pattern
  | [] => []
  | .literal t :: rest => literalItems t ++ captureItems rest
  | .placeholder _ name _ :: rest =>
    (if rest = [] ∧ takesRest name then ⟨.notLineFeed, .atLeastOnce, true⟩
      else ⟨.notSlash, .atLeastOnce, true⟩) :: captureItems rest

/-- The names of the placeholders, in order. -/
def placeholderNames (segments : List Segment) : List (List Char) :=
  segments.filterMap fun
    | .literal _ => none
    | .placeholder _ name _ => some name

/-- The pattern that takes the values of the placeholders out of a
path. -/
structure CapturePattern where
  items : Pattern
  /-- The name of each captured item. -/
  names : List (List Char)
  deriving DecidableEq, Repr

namespace CapturePattern

/-- The capture pattern of a template under a base path. -/
def compile (base template : List Char) : CapturePattern :=
  let segments := scan template
  ⟨literalItems (trimmedBase base) ++ captureItems segments, placeholderNames segments⟩

/-- The captured texts with their names; of placeholders of one name the
first counts. -/
def captures (p : CapturePattern) (path : List Char) : OrderedMap (List Char) (List Char) :=
  match Pattern.captures? p.items path with
  | none => []
  | some texts => firstOnly (p.names.zip texts)
where
  firstOnly : List (List Char × List Char) → OrderedMap (List Char) (List Char)
    | [] => []
    | e :: es => e :: (firstOnly es).filter fun f => f.1 ≠ e.1

/-- The captured text of a name. -/
def capture? (p : CapturePattern) (path name : List Char) : Option (List Char) :=
  match Pattern.captures? p.items path with
  | none => none
  | some texts => OrderedMap.get? (p.names.zip texts) name

end CapturePattern

/-- Capture patterns that were compiled before, under the base path
joined with the template. -/
abbrev PatternCache := OrderedMap (List Char) CapturePattern

namespace PatternCache

/-- The pattern under the joined text, compiled if there is none. -/
def getOrCompile (cache : PatternCache) (base template : List Char) :
    CapturePattern × PatternCache :=
  match OrderedMap.get? cache (base ++ template) with
  | some p => (p, cache)
  | none =>
    let p := CapturePattern.compile base template
    (p, OrderedMap.insert cache (base ++ template) p)

end PatternCache

end Template

end ApiGateway
