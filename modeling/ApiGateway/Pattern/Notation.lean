import ApiGateway.Pattern.Basic
/-!
# Patterns — their notation

A pattern is written as a regular expression between `^` and `$`. A
character stands for itself, with a backslash before it if it has a
meaning of its own; `.` is any character but a line feed and `[^/]` any
but a slash; `*` and `+` repeat what is before them, and parentheses
capture it. `Pattern.parse?` reads this notation and `Pattern.written`
writes it; a text that is not of this form is no pattern.
-/

namespace ApiGateway

namespace Pattern

/-- The characters that are written with a backslash. -/
def isSpecial (c : Char) : Bool :=
  ['\\', '.', '+', '*', '?', '(', ')', '|', '[', ']', '\x7b', '\x7d', '^', '$', '#', '&',
    '-', '~'].contains c

/-- A character as a pattern has it. -/
def escaped (c : Char) : List Char := if isSpecial c then ['\\', c] else [c]

def CharSet.written : CharSet → List Char
  | only c => escaped c
  | notLineFeed => ['.']
  | notSlash => ['[', '^', '/', ']']

def Repetition.written : Repetition → List Char
  | once => []
  | any => ['*']
  | atLeastOnce => ['+']

def Item.written (i : Item) : List Char :=
  let body := i.set.written ++ i.repetition.written
  if i.captured then '(' :: body ++ [')'] else body

/-- The notation of a pattern. -/
def written (p : Pattern) : List Char := '^' :: p.flatMap Item.written ++ ['$']

/-- A set of characters at the start of a text, and what follows. -/
def parseSet? : List Char → Option (CharSet × List Char)
  | '\\' :: c :: rest => if isSpecial c then some (.only c, rest) else none
  | '.' :: rest => some (.notLineFeed, rest)
  | '[' :: '^' :: '/' :: ']' :: rest => some (.notSlash, rest)
  | c :: rest => if isSpecial c then none else some (.only c, rest)
  | [] => none

/-- A repetition at the start of a text, and what follows. -/
def parseRepetition : List Char → Repetition × List Char
  | '*' :: rest => (.any, rest)
  | '+' :: rest => (.atLeastOnce, rest)
  | rest => (.once, rest)

/-- An item at the start of a text, and what follows. -/
def parseItem? : List Char → Option (Item × List Char)
  | '(' :: body =>
    match parseSet? body with
    | none => none
    | some (set, tail) =>
      match parseRepetition tail with
      | (repetition, ')' :: rest) => some (⟨set, repetition, true⟩, rest)
      | _ => none
  | s =>
    match parseSet? s with
    | none => none
    | some (set, tail) =>
      let (repetition, rest) := parseRepetition tail
      some (⟨set, repetition, false⟩, rest)

/-- The items up to the closing `$`; every item takes a character, so
the length of the text bounds their number. -/
def parseItems? : Nat → List Char → Option Pattern
  | _, ['$'] => some []
  | 0, _ => none
  | fuel + 1, s =>
    match parseItem? s with
    | none => none
    | some (item, rest) => (parseItems? fuel rest).map (item :: ·)

/-- The pattern that a text writes. -/
def parse? : List Char → Option Pattern
  | '^' :: body => parseItems? body.length body
  | _ => none

end Pattern

end ApiGateway
