import RequestSigning.Date.Calendar
import RequestSigning.Decimal.Text

/-!
# Dates with a time of day

A date and time with microseconds and, if it is known, the offset from universal time. It is written
as `2030-01-01T10:11:12.000001+05:30`, parts that are zero or unknown being left out at the end.
Many more spellings are read: without separators, by week, date only, with any character before the
time.
-/

namespace RequestSigning.Date

structure DateTime where
  day : Day
  hour : Nat
  minute : Nat
  second : Nat
  microsecond : Nat
  offset : Option Int
  deriving DecidableEq, Repr

namespace DateTime

def dayMicroseconds : Int := 86400 * 1000000

def isValid (t : DateTime) : Bool :=
  t.day.isValid && t.hour < 24 && t.minute < 60 && t.second < 60 && t.microsecond < 1000000
    && match t.offset with
      | none => true
      | some o => -dayMicroseconds < o && o < dayMicroseconds

/-- The distance from universal time as hours and minutes, then seconds and microseconds if
needed. -/
def offsetText (offset : Int) : String :=
  let sign := if offset < 0 then "-" else "+"
  let micros := offset.natAbs % 1000000
  let seconds := offset.natAbs / 1000000
  let pair := Decimal.paddedText 2
  sign ++ pair (seconds / 3600) ++ ":" ++ pair (seconds / 60 % 60)
    ++ (if seconds % 60 ≠ 0 || micros ≠ 0 then ":" ++ pair (seconds % 60) else "")
    ++ (if micros ≠ 0 then "." ++ Decimal.paddedText 6 micros else "")

def text (t : DateTime) : String :=
  let pair := Decimal.paddedText 2
  Decimal.paddedText 4 t.day.year.toNat ++ "-" ++ pair t.day.month ++ "-" ++ pair t.day.day
    ++ "T" ++ pair t.hour ++ ":" ++ pair t.minute ++ ":" ++ pair t.second
    ++ (if t.microsecond ≠ 0 then "." ++ Decimal.paddedText 6 t.microsecond else "")
    ++ (match t.offset with
      | none => ""
      | some o => offsetText o)

end DateTime

def digitValue? (c : Char) : Option Nat := if c.isDigit then some (c.toNat - 48) else none

def readDigits : Nat → Nat → List Char → Option (Nat × List Char)
  | 0, value, cs => some (value, cs)
  | _ + 1, _, [] => none
  | count + 1, value, c :: cs =>
    match digitValue? c with
    | none => none
    | some d => readDigits count (value * 10 + d) cs

/-- Reads one hyphen if `wanted`, else nothing. -/
def readHyphen (wanted : Bool) (cs : List Char) : Option (List Char) :=
  if wanted then
    match cs with
    | '-' :: rest => some rest
    | _ => none
  else if cs.head? = some '-' then none
  else some cs

/-- Where the time starts: how many characters the date has. A date by week without hyphens has a
digit for the day unless that leaves an odd number of digits for the time. -/
def dateLength? (cs : List Char) : Option Nat :=
  if cs.length < 7 then none
  else if cs.length = 7 then some 7
  else if cs[4]? = some '-' then
    if cs[5]? = some 'W' then
      if cs[8]? = some '-' then
        if cs.length = 9 then none
        else if (cs[10]?.map Char.isDigit).getD false then some 8
        else some 10
      else some 8
    else some 10
  else if cs[4]? = some 'W' then
    let last := 7 + ((cs.drop 7).takeWhile Char.isDigit).length
    if last < 9 then some last else if last % 2 = 0 then some 7 else some 8
  else some 8

def readWeekDate (hyphens : Bool) (year : Nat) (cs : List Char) : Option Day := do
  let (week, cs) ← readDigits 2 0 cs
  if cs.isEmpty then ofWeek? year week 1
  else
    let cs ← readHyphen hyphens cs
    let (weekday, cs) ← readDigits 1 0 cs
    if cs.isEmpty then ofWeek? year week weekday else none

def readMonthDate (hyphens : Bool) (year : Nat) (cs : List Char) : Option Day := do
  let (month, cs) ← readDigits 2 0 cs
  let cs ← readHyphen hyphens cs
  let (day, cs) ← readDigits 2 0 cs
  if cs.isEmpty then some ⟨year, month, day⟩ else none

def readDate (cs : List Char) : Option Day := do
  let (year, cs) ← readDigits 4 0 cs
  let hyphens := cs.head? = some '-'
  let cs := if hyphens then cs.drop 1 else cs
  match cs with
  | 'W' :: rest => readWeekDate hyphens year rest
  | _ => readMonthDate hyphens year cs

/-- Whether a text ends, which it does at a null character too. -/
def endsHere : List Char → Bool
  | [] => true
  | c :: _ => c = '\x00'

/-- The microseconds of a fraction, and whether the text ends with it; digits after the sixth are
dropped. -/
def readFraction (cs : List Char) : Option (Nat × Bool) := do
  let count := min cs.length 6
  let (value, rest) ← readDigits count 0 cs
  some (value * Nat.pow 10 (6 - count), endsHere (rest.dropWhile Char.isDigit))

/-- What stands behind two digits of a time: nothing but one character that is passed over, or more
digits. -/
inductive Following
  | last (ends : Bool)
  | fraction (cs : List Char)
  | group (cs : List Char)

/-- With colons, each group needs one in front. A character that is passed over is an ASCII one; it
is not the end of the text, unless it is a null character. -/
def following? (colons : Bool) : List Char → Option Following
  | [] => some (.last true)
  | [c] => if c.toNat < 0x80 then some (.last (c = '\x00')) else none
  | c :: cs =>
    if colons && c = ':' then some (.group cs)
    else if c = '.' || c = ',' then some (.fraction cs)
    else if colons then none
    else some (.group (c :: cs))

/-- Reads at most so many groups of two digits, the fraction behind them, and whether the text ends
there. Behind the last group that there can be, anything else is the fraction. -/
def readGroups (colons : Bool) : Nat → List Char → Option (List Nat × Nat × Bool)
  | 0, cs => (readFraction cs).map ([], ·)
  | count + 1, cs => do
    let (value, cs) ← readDigits 2 0 cs
    match ← following? colons cs with
    | .last ends => some ([value], 0, ends)
    | .fraction cs => (readFraction cs).map ([value], ·)
    | .group cs => (readGroups colons count cs).map fun (values, rest) => (value :: values, rest)

structure Clock where
  hour : Nat
  minute : Nat
  second : Nat
  microsecond : Nat
  deriving DecidableEq, Repr

/-- Reads a time of day, and whether the text ends with it. A colon after the hours demands one
after the minutes too. -/
def readClock (cs : List Char) : Option (Clock × Bool) :=
  (readGroups (cs[2]? = some ':') 3 cs).map fun (values, micros, ends) =>
    (⟨values.getD 0 0, values.getD 1 0, values.getD 2 0, micros⟩, ends)

/-- A distance from universal time in microseconds. Less than a second is no distance. -/
def Clock.distance (c : Clock) : Int :=
  let seconds := c.hour * 3600 + c.minute * 60 + c.second
  if seconds = 0 then 0 else (seconds * 1000000 + c.microsecond : Nat)

def startsOffset (c : Char) : Bool := c = '+' || c = '-' || c = 'Z'

/-- Reads the offset behind a time, if there is one; the text ends with it. -/
def readOffset : List Char → Option (Option Int)
  | [] => some none
  | 'Z' :: rest => if endsHere rest then some (some 0) else none
  | sign :: rest => do
    let (clock, ends) ← readClock rest
    if ends then some (some (if sign = '-' then -clock.distance else clock.distance)) else none

/-- Reads a time of day and the offset after it, if there is one. If there is none, the text ends
with the time. -/
def readTime (cs : List Char) : Option (Clock × Option Int) := do
  let (clock, ends) ← readClock (cs.takeWhile (!startsOffset ·))
  let offset ← readOffset (cs.dropWhile (!startsOffset ·))
  if ends || offset.isSome then some (clock, offset) else none

/-- Reads what stands behind a date: a time after one character of any kind. A date alone is its
midnight. -/
def readBehindDate : List Char → Option (Clock × Option Int)
  | [] => some (⟨0, 0, 0, 0⟩, none)
  | _ :: time => readTime time

namespace DateTime

/-- Reads a date, and the time behind it. -/
def ofChars? (cs : List Char) : Option DateTime := do
  let length ← dateLength? cs
  let day ← readDate (cs.take length)
  let (clock, offset) ← readBehindDate (cs.drop length)
  let t : DateTime := ⟨day, clock.hour, clock.minute, clock.second, clock.microsecond, offset⟩
  if t.isValid then some t else none

end DateTime

end RequestSigning.Date
