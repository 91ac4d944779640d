import ApiGateway.Decimal.Shortest
/-!
# Calendar — dates and moments

A date is a day of the proleptic Gregorian calendar. A moment is a date
with a time of day down to the nanosecond and the distance of its clock
from Universal Time in whole minutes. The second of a moment may be 60,
for a leap second. `Moment.text` is the one form in which moments are
written.
-/

namespace ApiGateway

/-- A day of a year. -/
structure Date where
  year : Int
  month : Nat
  day : Nat
  deriving DecidableEq, Repr

namespace Date

def isLeapYear (y : Int) : Bool := y % 4 = 0 ∧ (y % 100 ≠ 0 ∨ y % 400 = 0)

def daysInMonth (y : Int) (month : Nat) : Nat :=
  if month = 2 then (if isLeapYear y then 29 else 28)
  else if month = 4 ∨ month = 6 ∨ month = 9 ∨ month = 11 then 30
  else 31

/-- The first and the last year of the calendar. -/
def firstYear : Int := -262143

def lastYear : Int := 262142

/-- The first and the last day of the calendar. -/
def first : Date := ⟨firstYear, 1, 1⟩

def last : Date := ⟨lastYear, 12, 31⟩

/-- The date of a year, a month and a day, if there is one. -/
def of? (year : Int) (month day : Nat) : Option Date :=
  if firstYear ≤ year ∧ year ≤ lastYear ∧ 1 ≤ month ∧ month ≤ 12 ∧ 1 ≤ day
      ∧ day ≤ daysInMonth year month then
    some ⟨year, month, day⟩
  else none

/-- The day of the week, counted from Sunday. From March on a year has
its leap day behind it, so January and February count with the year
before. -/
def weekday (d : Date) : Nat :=
  let y := if d.month < 3 then d.year - 1 else d.year
  let shift := [0, 3, 2, 5, 0, 3, 5, 1, 4, 6, 2, 4].getD (d.month - 1) 0
  ((y + y / 4 - y / 100 + y / 400 + (shift : Int) + (d.day : Int)) % 7).toNat

end Date

/-- A number with leading zeros up to a width. -/
def padded (width n : Nat) : List Char :=
  let digits := Decimal.digitsOf n
  List.replicate (width - digits.length) '0' ++ digits

/-- A moment, as a clock shows it that is `offset` minutes ahead of
Universal Time. -/
structure Moment where
  date : Date
  hour : Nat
  minute : Nat
  second : Nat
  nanosecond : Nat
  offset : Int
  deriving DecidableEq, Repr

namespace Moment

/-- Whether a time of day, in minutes, falls on a day of the calendar
once the offset is taken away. The offset is less than a day, so only the
first day and the last one can fail. -/
def isInCalendar (date : Date) (minutes offset : Int) : Bool :=
  (date ≠ Date.first || 0 ≤ minutes - offset) && (date ≠ Date.last || minutes - offset < 24 * 60)

/-- The moment of a date, a time of day and an offset, if there is one.
Its day in Universal Time has to be in the calendar too. -/
def of? (date : Date) (hour minute second nanosecond : Nat) (offset : Int) : Option Moment :=
  if hour < 24 ∧ minute < 60 ∧ second ≤ 60 ∧ offset.natAbs < 24 * 60
      ∧ isInCalendar date (hour * 60 + minute : Nat) offset then
    some ⟨date, hour, minute, second, nanosecond, offset⟩
  else none

/-- The year in four digits; a year with more digits, or before the year
zero, has its sign. -/
def yearText (y : Int) : List Char :=
  if 0 ≤ y ∧ y ≤ 9999 then padded 4 y.natAbs
  else (if y < 0 then '-' else '+') :: padded 4 y.natAbs

/-- The fraction of a second in three, six or nine digits, whichever are
enough; nothing for a whole second. -/
def fractionText (nanosecond : Nat) : List Char :=
  if nanosecond = 0 then []
  else if nanosecond % 1000000 = 0 then '.' :: padded 3 (nanosecond / 1000000)
  else if nanosecond % 1000 = 0 then '.' :: padded 6 (nanosecond / 1000)
  else '.' :: padded 9 nanosecond

/-- The offset with its sign, in hours and minutes. -/
def offsetText (offset : Int) : List Char :=
  (if offset < 0 then '-' else '+') :: padded 2 (offset.natAbs / 60)
    ++ ':' :: padded 2 (offset.natAbs % 60)

/-- The written form of a moment, as in `2024-05-01T10:20:30.500+02:00`. -/
def text (m : Moment) : List Char :=
  yearText m.date.year ++ '-' :: padded 2 m.date.month ++ '-' :: padded 2 m.date.day
    ++ 'T' :: padded 2 m.hour ++ ':' :: padded 2 m.minute ++ ':' :: padded 2 m.second
    ++ fractionText m.nanosecond ++ offsetText m.offset

end Moment

end ApiGateway
