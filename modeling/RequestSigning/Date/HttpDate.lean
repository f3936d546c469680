import RequestSigning.Date.Calendar
import RequestSigning.Decimal.Text
import RequestSigning.Value

/-!
# Dates of message headers

The text of an instant in universal time, such as `Tue, 01 Jan 2030 00:00:00 GMT`.
-/

namespace RequestSigning.Date

/-- Seconds since the first day of 1970. -/
inductive Instant
  | whole (seconds : Int)
  | fractional (seconds : Float)

/-- Numbers are instants; true counts as one and false as zero. -/
def Instant.ofValue? : Value → Option Instant
  | .int n => some (.whole n)
  | .bool b => some (.whole (if b then 1 else 0))
  | .float x => some (.fractional x)
  | _ => none

inductive InstantError
  | notANumber
  /-- The seconds do not fit 64 bits. -/
  | beyondSeconds
  /-- The year does not fit 32 bits. -/
  | beyondYears
  /-- The year is told as a signed number of 32 bits. -/
  | yearOutOfRange (year : Int)
  deriving DecidableEq, Repr

/-- The fraction of a number in microseconds, a half going to the even neighbour. -/
def fractionMicros (x : Float) : Nat :=
  match Decimal.Double.ofFloat ((x.abs - x.abs.floor) * 1e6) with
  | .finite _ m => Decimal.roundDiv (m.scaled 0).1 (m.scaled 0).2
  | _ => 0

/-- The second that a number of whole seconds and of microseconds below or above zero belongs to. -/
def floorSeconds (negative : Bool) (whole micros : Nat) : Int :=
  if negative then if micros = 0 then -(whole : Int) else -(whole : Int) - 1
  else if micros < 1000000 then whole else whole + 1

/-- Whole seconds of a fractional number: rounded to microseconds, then taken down to the second;
less than half a microsecond below zero is zero. -/
def wholeSeconds (x : Float) : Except InstantError Int :=
  match Decimal.Double.ofFloat x with
  | .notANumber => .error .notANumber
  | .infinite _ => .error .beyondSeconds
  | .finite negative b => .ok (floorSeconds negative b.floor (fractionMicros x))

/-- Seconds are counted in 64 bits with sign. -/
def isSeconds (n : Int) : Bool := -0x8000000000000000 ≤ n && n < 0x8000000000000000

def Instant.seconds : Instant → Except InstantError Int
  | whole n => if isSeconds n then .ok n else .error .beyondSeconds
  | fractional x =>
    match wholeSeconds x with
    | .error e => .error e
    | .ok n => if isSeconds n then .ok n else .error .beyondSeconds

def weekdayNames : List String := ["Mon", "Tue", "Wed", "Thu", "Fri", "Sat", "Sun"]

def monthNames : List String :=
  ["Jan", "Feb", "Mar", "Apr", "May", "Jun", "Jul", "Aug", "Sep", "Oct", "Nov", "Dec"]

def epoch : Int := 719163

def dayOfSeconds (seconds : Int) : Day × Nat :=
  (Day.ofNumber (epoch + seconds / 86400), (seconds % 86400).toNat)

def httpDateText (d : Day) (second : Nat) : String :=
  weekdayNames.getD d.weekday "" ++ ", " ++ Decimal.paddedText 2 d.day ++ " "
    ++ monthNames.getD (d.month - 1) "" ++ " " ++ Decimal.paddedText 4 d.year.toNat ++ " "
    ++ Decimal.paddedText 2 (second / 3600) ++ ":" ++ Decimal.paddedText 2 (second / 60 % 60) ++ ":"
    ++ Decimal.paddedText 2 (second % 60) ++ " GMT"

def httpDate (i : Instant) : Except InstantError String :=
  match i.seconds with
  | .error e => .error e
  | .ok seconds =>
    let (day, second) := dayOfSeconds seconds
    if day.year < 1900 - 0x80000000 || 1900 + 0x80000000 ≤ day.year then .error .beyondYears
    else if day.year < 1 || 9999 < day.year then
      .error (.yearOutOfRange (day.year.bmod 0x100000000))
    else .ok (httpDateText day second)

end RequestSigning.Date
