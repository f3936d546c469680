import RequestSigning.Decimal.Binary

/-!
# Shortest decimals

The shortest decimal that reads back as a given double and, of those with the same number of digits,
the one nearest to it. For 1, 2, … digits the two neighbours of the value on that decimal grid are
tested against the interval of the reals that round to the double.
-/

namespace RequestSigning.Decimal

/-- The number `0.digits * 10 ^ point`, where `digits` are written in base ten. -/
structure Digits where
  digits : List Nat
  point : Int
  deriving DecidableEq, Repr

/-- The digits of a number in base ten, the most significant first; none for zero. -/
def digitsOf : Nat → Nat → List Nat
  | 0, _ => []
  | fuel + 1, n => if n = 0 then [] else digitsOf fuel (n / 10) ++ [n % 10]

def decimalDigits (n : Nat) : List Nat := digitsOf (n.log2 + 1) n

/-- The number in the middle of its rounding interval, and the two ends, all times `2 ^ 2`; the ends
round to it exactly when its significand is even. -/
structure Interval where
  low : Nat
  value : Nat
  high : Nat
  closed : Bool

/-- The interval of a double: half a unit to each side, but a quarter below a power of two, where
the doubles lie twice as close. -/
def Binary.interval (b : Binary) : Interval :=
  let m := 4 * b.significand
  { low := if b.significand = Nat.pow 2 52 && -1074 < b.exponent then m - 1 else m - 2
    value := m
    high := m + 2
    closed := b.significand % 2 == 0 }

/-- How many powers of ten are at most `num / den`, counted from `10 ^ 0` up. -/
def powersBelow (num den : Nat) : Nat := (decimalDigits (num / den)).length

/-- The least `k` with `num / den < 10 ^ k`, searched downwards from 0 for numbers below one. -/
def scaleBelowOne : Nat → Nat → Nat → Int → Int
  | 0, _, _, k => k
  | fuel + 1, num, den, k => if num * 10 < den then scaleBelowOne fuel (num * 10) den (k - 1) else k

/-- The least power of ten above a number. -/
def scaleOf (num den : Nat) : Int :=
  if den ≤ num then powersBelow num den else scaleBelowOne 400 num den 0

/-- The nearer of the two neighbours on the grid of `10 ^ power` that read back, if one does. -/
def hit? (b : Binary) (power : Int) : Option Nat :=
  let i := b.interval
  let unit := (Binary.mk 1 (b.exponent - 2)).scaled (-power)
  let low := i.low * unit.1
  let value := i.value * unit.1
  let high := i.high * unit.1
  let den := unit.2
  let inside (d : Nat) : Bool :=
    if i.closed then low ≤ d * den && d * den ≤ high else low < d * den && d * den < high
  let below := value / den
  let above := below + 1
  match inside below, inside above with
  | true, true =>
    let down := value - below * den
    let up := above * den - value
    some (if down < up then below else if up < down then above
      else if below % 2 == 0 then below else above)
  | true, false => some below
  | false, true => some above
  | false, false => none

/-- Tries grids of `count`, `count + 1`, … digits below `10 ^ scale`. -/
def searchDigits (b : Binary) (scale : Int) : Nat → Nat → Nat × Int
  | 0, count => (b.floor, count)
  | fuel + 1, count =>
    match hit? b (scale - count) with
    | some d => (d, scale - count)
    | none => searchDigits b scale fuel (count + 1)

def trimZeros (ds : List Nat) : List Nat := (ds.reverse.dropWhile (· = 0)).reverse

def shortest (b : Binary) : Digits :=
  let scale := scaleOf (b.scaled 0).1 (b.scaled 0).2
  let (d, power) := searchDigits b scale 18 1
  let ds := decimalDigits d
  ⟨trimZeros ds, ds.length + power⟩

end RequestSigning.Decimal
