import RequestSigning.Decimal.Shortest

/-!
# Decimal texts

How numbers are written and read: whole numbers, doubles in shortest form, doubles with a fixed
number of places, and doubles read from a decimal.
-/

namespace RequestSigning.Decimal

def digitChar (d : Nat) : Char := Char.ofNat (48 + d)

def natText (n : Nat) : String :=
  if n = 0 then "0" else String.ofList ((decimalDigits n).map digitChar)

def intText (n : Int) : String := if n < 0 then "-" ++ natText n.natAbs else natText n.natAbs

/-- A whole number in base ten, filled with zeros on the left up to `width`. -/
def paddedText (width n : Nat) : String :=
  let t := natText n
  String.ofList (List.replicate (width - t.length) '0') ++ t

/-- Which numbers are written out and which with an exponent. -/
structure Style where
  /-- Least point position that is written out. -/
  minPoint : Int
  /-- Greatest point position that is written out. -/
  maxPoint : Int
  /-- Least number of exponent digits. -/
  exponentDigits : Nat

/-- Numbers from 0.0001 to below 10 to the 16 are written out, others with an exponent of at least
two digits. -/
def plainStyle : Style := ⟨-3, 16, 2⟩

/-- A positive decimal: written out it keeps a digit on both sides of the point. -/
def Digits.text (style : Style) (d : Digits) : String :=
  let ds := d.digits.map digitChar
  if style.minPoint ≤ d.point && d.point ≤ style.maxPoint then
    if d.point ≤ 0 then
      String.ofList ('0' :: '.' :: List.replicate (-d.point).toNat '0' ++ ds)
    else
      let n := d.point.toNat
      if ds.length ≤ n then String.ofList (ds ++ List.replicate (n - ds.length) '0' ++ ['.', '0'])
      else String.ofList (ds.take n ++ '.' :: ds.drop n)
  else
    let e := d.point - 1
    let sign := if e < 0 then "-" else "+"
    let mantissa := if ds.length ≤ 1 then ds else ds.take 1 ++ '.' :: ds.drop 1
    String.ofList mantissa ++ "e" ++ sign ++ paddedText style.exponentDigits e.natAbs

/-- How a double is shown: the spelling of the values that are no decimals, and its style. -/
structure Spelling where
  infinity : String
  notANumber : String
  style : Style

def floatText (s : Spelling) (x : Float) : String :=
  match Double.ofFloat x with
  | .notANumber => s.notANumber
  | .infinite negative => (if negative then "-" else "") ++ s.infinity
  | .finite negative b =>
    (if negative then "-" else "") ++ if b.significand = 0 then "0.0" else (shortest b).text s.style

/-- Doubles inside quoted values. -/
def shownSpelling : Spelling := ⟨"inf", "nan", plainStyle⟩

/-- Doubles in documents. -/
def documentSpelling : Spelling := ⟨"Infinity", "NaN", plainStyle⟩

/-- A nonnegative number with two places, a half going to the even neighbour. -/
def twoPlaces (b : Binary) : String :=
  let (num, den) := b.scaled 2
  let n := roundDiv num den
  natText (n / 100) ++ "." ++ paddedText 2 (n % 100)

/-- The double nearest to `mantissa * 10 ^ exponent`. Powers that no double reaches are cut off
before the division. -/
def toFloat (negative : Bool) (mantissa : Nat) (exponent : Int) : Float :=
  let size : Int := (decimalDigits mantissa).length
  let x : Float :=
    if mantissa = 0 then 0.0
    else if 310 < size + exponent then 1.0 / 0.0
    else if size + exponent < -330 then 0.0
    else if 0 ≤ exponent then Float.ofScientific (mantissa * Nat.pow 10 exponent.toNat) false 0
    else Float.ofScientific mantissa true exponent.natAbs
  if negative then -x else x

end RequestSigning.Decimal
