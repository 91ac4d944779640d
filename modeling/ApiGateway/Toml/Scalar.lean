import ApiGateway.Calendar.Basic
import ApiGateway.Decimal.Reader
import ApiGateway.Json.Basic
/-!
# TOML — numbers, dates and times

Numbers may have underscores between their digits; decimal ones may have
a sign and no leading zero, the other three bases have a mark and no
sign. Integers fit 64 bits. Dates and times are only checked: nothing in
a gateway's settings is one, so their values are not kept.
-/

namespace ApiGateway

namespace Toml

/-- The value of a digit of a base. -/
def digit? (base : Nat) (c : Char) : Option Nat :=
  let value :=
    if c.isDigit then c.toNat - '0'.toNat
    else if c.isLower then c.toNat - 'a'.toNat + 10
    else if c.isUpper then c.toNat - 'A'.toNat + 10
    else base
  if value < base then some value else none

/-- The digits of a base at the start of a text, where single
underscores may stand between them, and what follows; `none` if an
underscore stands elsewhere. -/
def digits? (base : Nat) : List Char → Option (List Char × List Char)
  | [] => some ([], [])
  | c :: '_' :: d :: more =>
    if (digit? base c).isNone then some ([], c :: '_' :: d :: more)
    else if (digit? base d).isSome then (digits? base (d :: more)).map fun p => (c :: p.1, p.2)
    else none
  | [c, '_'] => if (digit? base c).isSome then none else some ([], [c, '_'])
  | c :: rest =>
    if (digit? base c).isSome then (digits? base rest).map fun p => (c :: p.1, p.2)
    else some ([], c :: rest)

/-- The number that digits of a base denote. -/
def numberOf (base : Nat) (digits : List Char) : Nat :=
  digits.foldl (fun n c => n * base + (digit? base c).getD 0) 0

/-- An integer of 64 bits. -/
def integerIn64 (n : Int) : Option Json :=
  let bound : Int := Nat.pow 2 63
  if -bound ≤ n ∧ n < bound then some (.ofInt n) else none

/-- A number after the mark of its base. -/
def markedInteger? (base : Nat) (s : List Char) : Option (Json × List Char) :=
  match digits? base s with
  | some (digits, rest) =>
    if digits = [] then none else (integerIn64 (numberOf base digits)).map fun j => (j, rest)
  | none => none

/-- A fraction with its point, which may be absent. -/
def fraction? (s : List Char) : Option (List Char × List Char) :=
  match s with
  | '.' :: rest =>
    match digits? 10 rest with
    | some (digits, after) => if digits = [] then none else some ('.' :: digits, after)
    | none => none
  | _ => some ([], s)

/-- An exponent, which may be absent. -/
def exponent? (s : List Char) : Option (List Char × List Char) :=
  match s with
  | e :: rest =>
    if e = 'e' ∨ e = 'E' then
      let (negative, body) := Decimal.sign rest
      match digits? 10 body with
      | some (digits, after) =>
        if digits = [] then none
        else some ('e' :: (if negative then ['-'] else []) ++ digits, after)
      | none => none
    else some ([], s)
  | [] => some ([], [])

/-- A decimal number: an integer, or a double if it has a fraction or an
exponent. One too large for a double is an error, one too small counts
as the negative infinity. -/
def decimal? (negative : Bool) (s : List Char) : Option (Json × List Char) := do
  let (whole, rest) ← digits? 10 s
  if whole = [] ∨ (whole.head? = some '0' ∧ whole.length ≠ 1) then none
  else
    let (fraction, rest) ← fraction? rest
    let (exponent, rest) ← exponent? rest
    if fraction = [] ∧ exponent = [] then
      let n : Int := numberOf 10 whole
      return (← integerIn64 (if negative then -n else n), rest)
    else
      let x ← (Decimal.unsigned? (whole ++ fraction ++ exponent)).map (Decimal.toBinary64 negative)
      if x.isFinite then return (.number (.double x), rest)
      else if negative then return (.null, rest)
      else none

/-- A number. The infinities and what is not a number have no value here
and count as `null`. -/
def number? (s : List Char) : Option (Json × List Char) :=
  match s with
  | '0' :: 'x' :: rest => markedInteger? 16 rest
  | '0' :: 'o' :: rest => markedInteger? 8 rest
  | '0' :: 'b' :: rest => markedInteger? 2 rest
  | _ =>
    match Decimal.sign s with
    | (_, 'i' :: 'n' :: 'f' :: rest) => some (.null, rest)
    | (_, 'n' :: 'a' :: 'n' :: rest) => some (.null, rest)
    | (negative, body) => decimal? negative body

/-- A number of exactly so many digits, and what follows. -/
def field? (width : Nat) (s : List Char) : Option (Nat × List Char) :=
  let digits := s.take width
  if digits.length = width ∧ digits.all Char.isDigit then
    some (Decimal.ofDigits digits, s.drop width)
  else none

/-- What follows a character that has to stand there. -/
def after? (c : Char) : List Char → Option (List Char)
  | d :: rest => if d = c then some rest else none
  | [] => none

/-- What follows a date. -/
def afterDate? (s : List Char) : Option (List Char) := do
  let (year, s) ← field? 4 s
  let (month, s) ← field? 2 (← after? '-' s)
  let (day, s) ← field? 2 (← after? '-' s)
  let _ ← Date.of? year month day
  return s

/-- What follows a fraction of a second, which may be absent. -/
def afterFraction? (s : List Char) : Option (List Char) :=
  match s with
  | '.' :: rest =>
    let (digits, after) := Decimal.digitRun rest
    if digits = [] then none else some after
  | _ => some s

/-- What follows a time of day. -/
def afterTime? (s : List Char) : Option (List Char) := do
  let (hour, s) ← field? 2 s
  let (minute, s) ← field? 2 (← after? ':' s)
  let (second, s) ← field? 2 (← after? ':' s)
  let s ← afterFraction? s
  if hour < 24 ∧ minute < 60 ∧ second ≤ 60 then some s else none

/-- What follows an offset, which may be absent. -/
def afterOffset? (s : List Char) : Option (List Char) :=
  match s with
  | c :: rest =>
    if c = 'Z' ∨ c = 'z' then some rest
    else if c = '+' ∨ c = '-' then do
      let (hour, s) ← field? 2 rest
      let (minute, s) ← field? 2 (← after? ':' s)
      if hour < 24 ∧ minute < 60 then some s else none
    else some s
  | [] => some s

/-- The value that stands for every date and time. -/
def someMoment : Json := .object [("moment", .null)]

/-- A date, a time of day, or both with or without an offset. -/
def moment? (s : List Char) : Option (Json × List Char) :=
  match afterDate? s with
  | some rest =>
    match rest with
    | c :: more =>
      if c = 'T' ∨ c = 't' then ((afterTime? more).bind afterOffset?).map fun r => (someMoment, r)
      else if c = ' ' ∧ (field? 2 more).isSome then
        ((afterTime? more).bind afterOffset?).map fun r => (someMoment, r)
      else some (someMoment, rest)
    | [] => some (someMoment, [])
  | none => (afterTime? s).map fun r => (someMoment, r)

/-- A value that begins with a digit or a sign. -/
def scalar? (s : List Char) : Option (Json × List Char) := (moment? s).or (number? s)

end Toml

end ApiGateway
