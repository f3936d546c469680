/-!
# Finite binary numbers

A double is a sign, a significand and a power of two, or infinite, or no number. The functions here
work on the exact value, in integers.
-/

namespace RequestSigning.Decimal

/-- The number `significand * 2 ^ exponent`. -/
structure Binary where
  significand : Nat
  exponent : Int
  deriving DecidableEq, Repr

inductive Double
  | finite (negative : Bool) (magnitude : Binary)
  | infinite (negative : Bool)
  | notANumber
  deriving DecidableEq, Repr

/-- The parts of a double, read from its bits: 52 of significand, 11 of exponent and the sign. -/
def Double.ofFloat (x : Float) : Double :=
  let bits : Nat := x.toBits.toNat
  let negative := bits / Nat.pow 2 63 == 1
  let biased : Nat := bits / Nat.pow 2 52 % Nat.pow 2 11
  let fraction : Nat := bits % Nat.pow 2 52
  if biased == 2047 then if fraction == 0 then .infinite negative else .notANumber
  else if biased == 0 then .finite negative ⟨fraction, -1074⟩
  else .finite negative ⟨Nat.pow 2 52 + fraction, (biased : Int) - 1075⟩

namespace Binary

/-- Numerator and denominator of the number times `10 ^ power`. -/
def scaled (b : Binary) (power : Int) : Nat × Nat :=
  (b.significand * Nat.pow 2 b.exponent.toNat * Nat.pow 10 power.toNat,
    Nat.pow 2 (-b.exponent).toNat * Nat.pow 10 (-power).toNat)

def floor (b : Binary) : Nat := (b.scaled 0).1 / (b.scaled 0).2

def isWhole (b : Binary) : Bool := (b.scaled 0).1 % (b.scaled 0).2 == 0

end Binary

/-- The quotient rounded to the nearest whole number, a half going to the even neighbour. -/
def roundDiv (num den : Nat) : Nat :=
  let q := num / den
  let r := num % den
  if 2 * r < den then q else if den < 2 * r then q + 1 else if q % 2 == 0 then q else q + 1

end RequestSigning.Decimal
