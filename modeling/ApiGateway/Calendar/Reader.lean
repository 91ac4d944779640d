import ApiGateway.Calendar.Basic
import ApiGateway.Decimal.Reader
import ApiGateway.Text.Blank
/-!
# Calendar — reading a moment

Four notations are tried in turn on a text without its outer blanks
(`Moment.parse?`): the full form of data formats, the form of mail
headers, a date with a time of day, and a date alone. The last two have
no offset and are read as Universal Time; a date alone is its midnight.
-/

namespace ApiGateway

namespace Moment

open Text (trimStart)

/-- A number of at least `least` and at most `most` digits at the start
of a text, and what follows it. -/
def number? (least most : Nat) (s : List Char) : Option (Nat × List Char) :=
  let digits := (s.take most).takeWhile Char.isDigit
  if least ≤ digits.length then some (Decimal.ofDigits digits, s.drop digits.length) else none

/-- What follows a character that has to stand there. -/
def expect? (c : Char) : List Char → Option (List Char)
  | d :: rest => if d = c then some rest else none
  | [] => none

/-- What follows blanks, of which there has to be one. -/
def blanks? (s : List Char) : Option (List Char) :=
  match s with
  | c :: rest => if Text.isBlank c then some (trimStart rest) else none
  | [] => none

/-- A fraction of a second in nanoseconds; digits after the ninth are
dropped. -/
def fraction? (s : List Char) : Option (Nat × List Char) :=
  let (digits, rest) := Decimal.digitRun s
  if digits = [] then none
  else
    let kept := digits.take 9
    some (Decimal.ofDigits kept * Nat.pow 10 (9 - kept.length), rest)

/-- A fraction with its point, which may be absent. -/
def optionalFraction? (s : List Char) : Option (Nat × List Char) :=
  match s with
  | '.' :: rest => fraction? rest
  | _ => some (0, s)

/-- Hours and minutes of an offset after its sign, with what stands
between them. -/
def offsetSize? (separator : List Char → Option (List Char)) (s : List Char) :
    Option (Nat × List Char) := do
  let (hours, afterHours) ← number? 2 2 s
  let (minutes, rest) ← number? 2 2 (← separator afterHours)
  if minutes < 60 then some (hours * 60 + minutes, rest) else none

/-- A signed offset. -/
def signedOffset? (negatives : List Char) (separator : List Char → Option (List Char)) :
    List Char → Option (Int × List Char)
  | [] => none
  | c :: rest =>
    if c = '+' then (offsetSize? separator rest).map fun p => ((p.1 : Int), p.2)
    else if negatives.contains c then (offsetSize? separator rest).map fun p => (-(p.1 : Int), p.2)
    else none

/-- The minus sign of typography, U+2212. -/
def minusSign : Char := Char.ofNat 0x2212

/-- The offset of the full form: `Z`, or hours and minutes with a
colon. -/
def fullOffset? : List Char → Option (Int × List Char)
  | 'Z' :: rest => some (0, rest)
  | 'z' :: rest => some (0, rest)
  | s => signedOffset? ['-', minusSign] (expect? ':') s

/-- The full form, as in `2024-05-01T10:20:30.5+02:00`: every field has
all its digits, and a space may stand for the `T`. -/
def parseFull? (s : List Char) : Option Moment := do
  let (year, s) ← number? 4 4 s
  let (month, s) ← number? 2 2 (← expect? '-' s)
  let (day, s) ← number? 2 2 (← expect? '-' s)
  let s ←
    match s with
    | c :: rest => if c = 'T' ∨ c = 't' ∨ c = ' ' then some rest else none
    | [] => none
  let (hour, s) ← number? 2 2 s
  let (minute, s) ← number? 2 2 (← expect? ':' s)
  let (second, s) ← number? 2 2 (← expect? ':' s)
  let (nanosecond, s) ← optionalFraction? s
  let (offset, s) ← fullOffset? s
  if s = [] then
    let date ← Date.of? year month day
    of? date hour minute second nanosecond offset
  else none

/-- The position in a list of the three-letter name that begins a text,
in any case, and what follows it. -/
def shortName? (names : List String) (s : List Char) : Option (Nat × List Char) :=
  let word := String.ofList (Text.lower (s.take 3))
  (names.findIdx? (· = word)).map fun i => (i, s.drop 3)

def weekdayNames : List String := ["sun", "mon", "tue", "wed", "thu", "fri", "sat"]

def monthNames : List String :=
  ["jan", "feb", "mar", "apr", "may", "jun", "jul", "aug", "sep", "oct", "nov", "dec"]

/-- The year that so many digits mean: short forms lie between 1950 and
2049, and three digits count from 1900. -/
def mailYear (digits year : Nat) : Nat :=
  if digits = 2 then (if year < 50 then year + 2000 else year + 1900)
  else if digits = 3 then year + 1900
  else year

/-- The offset of a zone name. Single letters other than J name military
zones, whose signs were never agreed on; they count as zero. -/
def zoneOffset? (name : List Char) : Option Int :=
  let zone := String.ofList (Text.lower name)
  if zone = "gmt" ∨ zone = "ut" then some 0
  else if zone = "edt" then some (-4 * 60)
  else if zone = "est" ∨ zone = "cdt" then some (-5 * 60)
  else if zone = "cst" ∨ zone = "mdt" then some (-6 * 60)
  else if zone = "mst" ∨ zone = "pdt" then some (-7 * 60)
  else if zone = "pst" then some (-8 * 60)
  else if zone.length = 1 ∧ zone ≠ "j" then some 0
  else none

/-- The offset of the mail form: a zone name, or hours and minutes
without a separator. -/
def mailOffset? (s : List Char) : Option (Int × List Char) :=
  let name := s.takeWhile Char.isAlpha
  if name ≠ [] then (zoneOffset? name).map fun o => (o, s.dropWhile Char.isAlpha)
  else signedOffset? ['-'] some s

/-- What follows a comment whose inside begins here, within `depth`
further comments. -/
def afterComment? : Nat → List Char → Option (List Char)
  | _, [] => none
  | _, ['\\'] => none
  | depth, '\\' :: _ :: rest => afterComment? depth rest
  | depth, '(' :: rest => afterComment? (depth + 1) rest
  | 0, ')' :: rest => some rest
  | depth + 1, ')' :: rest => afterComment? depth rest
  | depth, _ :: rest => afterComment? depth rest

/-- Whether a text is nothing but comments, each after optional
blanks; a comment takes a character, so the length bounds them. -/
def onlyComments : Nat → List Char → Bool
  | _, [] => true
  | 0, _ => false
  | fuel + 1, s =>
    match trimStart s with
    | '(' :: rest =>
      match afterComment? 0 rest with
      | some after => onlyComments fuel after
      | none => false
    | _ => false

/-- A weekday at the start of a text, which may be absent. -/
def optionalWeekday? (s : List Char) : Option (Option Nat × List Char) :=
  match shortName? weekdayNames s with
  | none => some (none, s)
  | some (day, rest) => (expect? ',' rest).map fun r => (some day, r)

/-- Seconds after a colon, which may be absent. -/
def optionalSeconds? (s : List Char) : Option (Nat × List Char) :=
  match expect? ':' (trimStart s) with
  | none => some (0, s)
  | some rest => number? 2 2 rest

/-- The form of mail headers, as in `Wed, 01 May 2024 10:20:30 GMT`. A
weekday has to be the right one, seconds may be left out, and comments
in parentheses may follow. -/
def parseMail? (s : List Char) : Option Moment := do
  let (weekday, s) ← optionalWeekday? (trimStart s)
  let (day, s) ← number? 1 2 (trimStart s)
  let (month, s) ← shortName? monthNames (← blanks? s)
  let s ← blanks? s
  let (year, after) ← number? 2 s.length s
  let year := mailYear (s.length - after.length) year
  let (hour, s) ← number? 2 2 (← blanks? after)
  let s ← expect? ':' (trimStart s)
  let (minute, s) ← number? 2 2 (trimStart s)
  let (second, s) ← optionalSeconds? s
  let (offset, s) ← mailOffset? (← blanks? s)
  if onlyComments s.length s then
    let date ← Date.of? year (month + 1) day
    if weekday.all (· = date.weekday) then of? date hour minute second 0 offset else none
  else none

/-- A year of up to four digits, or of any number of them after a
sign. -/
def looseYear? (s : List Char) : Option (Int × List Char) :=
  match trimStart s with
  | '-' :: rest => (number? 1 rest.length rest).map fun p => (-(p.1 : Int), p.2)
  | '+' :: rest => (number? 1 rest.length rest).map fun p => ((p.1 : Int), p.2)
  | rest => (number? 1 4 rest).map fun p => ((p.1 : Int), p.2)

/-- A field of one or two digits after optional blanks. -/
def looseField? (s : List Char) : Option (Nat × List Char) := number? 1 2 (trimStart s)

/-- A date, as in `2024-5-1`, and what follows it. -/
def looseDate? (s : List Char) : Option (Date × List Char) := do
  let (year, s) ← looseYear? s
  let (month, s) ← looseField? (← expect? '-' s)
  let (day, s) ← looseField? (← expect? '-' s)
  return (← Date.of? year month day, s)

/-- A date with a time of day and no offset, as in
`2024-05-01T10:20:30.25`. -/
def parseDateTime? (s : List Char) : Option Moment := do
  let (date, s) ← looseDate? s
  let (hour, s) ← looseField? (← expect? 'T' s)
  let (minute, s) ← looseField? (← expect? ':' s)
  let (second, s) ← looseField? (← expect? ':' s)
  let (nanosecond, s) ← optionalFraction? s
  if s = [] then of? date hour minute second nanosecond 0 else none

/-- A date alone: its midnight. -/
def parseDate? (s : List Char) : Option Moment := do
  let (date, s) ← looseDate? s
  if s = [] then of? date 0 0 0 0 0 else none

/-- The moment that a text denotes, in the first notation that fits. -/
def parse? (s : List Char) : Option Moment :=
  let t := Text.trim s
  (parseFull? t).orElse fun _ => (parseMail? t).orElse fun _ =>
    (parseDateTime? t).orElse fun _ => parseDate? t

end Moment

end ApiGateway
