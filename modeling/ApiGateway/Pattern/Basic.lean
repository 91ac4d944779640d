/-!
# Patterns — what a path has to look like

A pattern is a sequence of items, each a set of characters with a number
of repetitions, and matches whole texts only; `Pattern.Fits` says which. Whether a pattern
matches is found from right to left, item by item, for all suffixes of
the text at once (`Pattern.marks`), so the work is bounded by the product
of both lengths. An item may be captured: from left to right each takes
as many characters as leave a match for the rest (`Pattern.captures?`).
-/

namespace ApiGateway

namespace Pattern

/-- A set of characters. -/
inductive CharSet where
  | only (c : Char)
  | notLineFeed
  | notSlash
  deriving DecidableEq, Repr

/-- Membership of a set. -/
def CharSet.has : CharSet → Char → Bool
  | only c, d => d = c
  | notLineFeed, d => d ≠ '\n'
  | notSlash, d => d ≠ '/'

/-- How often a character of the set stands. -/
inductive Repetition where
  | once
  | any
  | atLeastOnce
  deriving DecidableEq, Repr

/-- Whether so many characters are a repetition of this kind. -/
def Repetition.allows : Repetition → Nat → Bool
  | once, n => n = 1
  | any, _ => true
  | atLeastOnce, n => 1 ≤ n

/-- One item of a pattern. -/
structure Item where
  set : CharSet
  repetition : Repetition
  captured : Bool
  deriving DecidableEq, Repr

/-- One character and no other. -/
def Item.char (c : Char) : Item := ⟨.only c, .once, false⟩

end Pattern

/-- A pattern: its items from left to right. -/
abbrev Pattern := List Pattern.Item

namespace Pattern

/-- Which texts a pattern matches: the text is cut into one part per
item, of characters of the item's set and of an allowed length. -/
inductive Fits : Pattern → List Char → Prop where
  | nil : Fits [] []
  | cons {item : Item} {rest : Pattern} {part tail : List Char} :
      (∀ c ∈ part, item.set.has c = true) → item.repetition.allows part.length = true →
      Fits rest tail → Fits (item :: rest) (part ++ tail)

/-- For every suffix of a text, the whole text first and the empty one
last, whether it is a repetition of the item followed by a suffix that
`after` marks. `after` has one mark more than the text has
characters. -/
def Item.marks (item : Item) : List Char → List Bool → List Bool
  | [], after =>
    match item.repetition with
    | .any => [after.headD false]
    | _ => [false]
  | c :: s, after =>
    let later := item.marks s after.tail
    let goesOn := item.set.has c
    let here :=
      match item.repetition with
      | .once => goesOn && after.tail.headD false
      | .any => after.headD false || (goesOn && later.headD false)
      | .atLeastOnce => goesOn && (after.tail.headD false || later.headD false)
    here :: later

/-- For every suffix of a text, the whole text first, whether the
pattern matches it. -/
def marks : Pattern → List Char → List Bool
  | [], s => s.map (fun _ => false) ++ [true]
  | item :: rest, s => item.marks s (marks rest s)

/-- Whether the pattern matches the text. Items that stand once are
followed one by one; the marks are needed only from the first choice
on. -/
def isMatch : Pattern → List Char → Bool
  | [], s => s.isEmpty
  | item :: rest, s =>
    match item.repetition with
    | .once =>
      match s with
      | [] => false
      | c :: t => item.set.has c && isMatch rest t
    | _ => (marks (item :: rest) s).headD false

/-- The longest of the lengths `n`, `n - 1`, … `0` that the test
allows. -/
def longest (allows : Nat → Bool) : Nat → Option Nat
  | 0 => if allows 0 then some 0 else none
  | n + 1 => if allows (n + 1) then some (n + 1) else longest allows n

/-- How many characters an item takes at the start of a text: the
greatest allowed number after which the rest of the pattern matches. For
an item that stands once there is nothing to choose. -/
def taken? (item : Item) (rest : Pattern) (s : List Char) : Option Nat :=
  let run := (s.takeWhile item.set.has).length
  match item.repetition with
  | .once => if 1 ≤ run then some 1 else none
  | _ =>
    let after := marks rest s
    longest (fun n => item.repetition.allows n && after.getD n false) run

/-- The captured parts of a text that the pattern matches. -/
def captures? : Pattern → List Char → Option (List (List Char))
  | [], [] => some []
  | [], _ :: _ => none
  | item :: rest, s =>
    match taken? item rest s with
    | none => none
    | some n =>
      (captures? rest (s.drop n)).map fun parts =>
        if item.captured then s.take n :: parts else parts

end Pattern

end ApiGateway
