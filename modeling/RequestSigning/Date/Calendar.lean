/-!
# Proleptic Gregorian calendar

Days are numbered from 1 for the first day of year 1; earlier days have numbers below 1.
-/

namespace RequestSigning.Date

def isLeap (year : Int) : Bool := year % 4 = 0 && (year % 100 ≠ 0 || year % 400 = 0)

def daysInMonth (year : Int) (month : Nat) : Nat :=
  match month with
  | 2 => if isLeap year then 29 else 28
  | 4 | 6 | 9 | 11 => 30
  | _ => 31

/-- Days of the year before a month. -/
def daysBeforeMonth (year : Int) : Nat → Nat
  | 0 => 0
  | 1 => 0
  | month + 1 => daysBeforeMonth year month + daysInMonth year month

/-- Days before a year, counted from year 1. -/
def daysBeforeYear (year : Int) : Int :=
  let y := year - 1
  y * 365 + y / 4 - y / 100 + y / 400

structure Day where
  year : Int
  month : Nat
  day : Nat
  deriving DecidableEq, Repr

namespace Day

def number (d : Day) : Int := daysBeforeYear d.year + daysBeforeMonth d.year d.month + d.day

/-- The month and day of a day of the year, counted from 0, the months before `month` being gone. -/
def inYear (year : Int) : Nat → Nat → Nat → Nat × Nat
  | 0, month, rest => (month, rest + 1)
  | fuel + 1, month, rest =>
    if rest < daysInMonth year month then (month, rest + 1)
    else inYear year fuel (month + 1) (rest - daysInMonth year month)

/-- The day with a number. The four hundred year cycle has 146097 days, and the last day of a cycle,
and of a cycle of four years, belongs to the year before the next one starts. -/
def ofNumber (n : Int) : Day :=
  let days := n - 1
  let cycle := days / 146097
  let inCycle := (days % 146097).toNat
  let century := min (inCycle / 36524) 3
  let inCentury := inCycle - century * 36524
  let leapCycle := inCentury / 1461
  let inLeapCycle := inCentury % 1461
  let single := min (inLeapCycle / 365) 3
  let dayOfYear := inLeapCycle - single * 365
  let year := cycle * 400 + (century * 100 + leapCycle * 4 + single : Nat) + 1
  let (month, day) := inYear year 11 1 dayOfYear
  ⟨year, month, day⟩

/-- Day of the week, 0 for Monday. -/
def weekday (d : Day) : Nat := ((d.number + 6) % 7).toNat

def isValid (d : Day) : Bool :=
  1 ≤ d.year && d.year ≤ 9999 && 1 ≤ d.month && d.month ≤ 12 && 1 ≤ d.day
    && d.day ≤ daysInMonth d.year d.month

end Day

/-- Number of the Monday of the first week of a year: the week with the year's first Thursday. -/
def firstMonday (year : Int) : Int :=
  let first : Int := (Day.mk year 1 1).number
  let weekday := (first + 6) % 7
  if 3 < weekday then first - weekday + 7 else first - weekday

/-- A year has 53 weeks when it starts on a Thursday, or on a Wednesday and is a leap year. -/
def weeksInYear (year : Int) : Nat :=
  let weekday := (Day.mk year 1 1).weekday
  if weekday = 3 || (weekday = 2 && isLeap year) then 53 else 52

/-- The day of a week of a year, `weekday` being 1 for Monday. -/
def ofWeek? (year : Int) (week weekday : Nat) : Option Day :=
  if 1 ≤ year && year ≤ 9999 && 1 ≤ week && week ≤ weeksInYear year &&
      1 ≤ weekday && weekday ≤ 7 then
    some (Day.ofNumber (firstMonday year + ((week - 1) * 7 + (weekday - 1) : Nat)))
  else none

end RequestSigning.Date
