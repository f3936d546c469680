/-!
# Arithmetic modulo a number

Powers, inverses and a test for primes.
-/

namespace RequestSigning.Key.Modular

/-- `acc * base ^ e` modulo `m`, for `e` of at most `bits` binary digits. -/
def powLoop (m : Nat) : Nat → Nat → Nat → Nat → Nat
  | 0, _, _, acc => acc
  | bits + 1, base, e, acc =>
    if e = 0 then acc
    else powLoop m bits (base * base % m) (e / 2) (if e % 2 = 1 then acc * base % m else acc)

/-- `base ^ e` modulo `m`. -/
def pow (m base e : Nat) : Nat := powLoop m (e.log2 + 1) (base % m) e (1 % m)

/-- The difference modulo `m` of two numbers below it. -/
def sub (m a b : Nat) : Nat := (a + (m - b)) % m

def inverse (p a : Nat) : Nat := pow p a (p - 2)

/-- Whether one of `x`, `x ^ 2`, `x ^ 4`, … is -1 modulo `n`. -/
def meetsMinusOne (n : Nat) : Nat → Nat → Bool
  | 0, _ => false
  | steps + 1, x => x = n - 1 || meetsMinusOne n steps (x * x % n)

/-- Splits a number into an odd one and a power of two. -/
def splitOdd : Nat → Nat → Nat → Nat × Nat
  | 0, d, s => (d, s)
  | fuel + 1, d, s => if d % 2 = 0 then splitOdd fuel (d / 2) (s + 1) else (d, s)

/-- The least `i` below `bound` for which squaring `t` over and over `i` times gives 1. -/
def orderLog (p : Nat) : Nat → Nat → Nat → Nat
  | 0, i, _ => i
  | bound + 1, i, t => if t = 1 then i else orderLog p bound (i + 1) (t * t % p)

/-- Improves the root `r` of `a * t`, where `t` has an order of at most `2 ^ m` and
`c` is a generator of the numbers of such orders, until `t` is 1. -/
def rootLoop (p : Nat) : Nat → Nat → Nat → Nat → Nat → Nat
  | 0, _, _, _, r => r
  | steps + 1, m, c, t, r =>
    if t = 1 then r
    else
      let i := orderLog p m 0 t
      let b := pow p c (Nat.pow 2 (m - i - 1))
      rootLoop p steps i (b * b % p) (t * (b * b % p) % p) (r * b % p)

/-- The least number from `n` on that is no square modulo `p`. -/
def nonSquare (p : Nat) : Nat → Nat → Nat
  | 0, n => n
  | tries + 1, n => if pow p n ((p - 1) / 2) = p - 1 then n else nonSquare p tries (n + 1)

def sqrt? (p a : Nat) : Option Nat :=
  let (d, s) := splitOdd p.log2 (p - 1) 0
  let z := nonSquare p 100 2
  let r := rootLoop p s s (pow p z d) (pow p a d) (pow p a ((d + 1) / 2))
  if r * r % p = a % p then some r else none

/-- Whether an odd number passes the strong test to one base. -/
def passes (n base : Nat) : Bool :=
  let (d, s) := splitOdd n.log2 (n - 1) 0
  let x := pow n base d
  base % n = 0 || x = 1 || meetsMinusOne n s x

def bases : List Nat := [2, 3, 5, 7, 11, 13, 17, 19, 23, 29, 31, 37]

/-- Whether a number is taken for a prime: it passes the strong test to each base. -/
def isPrime (n : Nat) : Bool := n = 2 || (2 < n && n % 2 = 1 && bases.all (passes n))

end RequestSigning.Key.Modular
