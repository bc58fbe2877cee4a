/-!
Finite binary floating-point numbers of 64 bits, held as a sign, an integer below 2^53 and a power
of two, and the rounding of exact fractions to them: to the nearest number, a tie to the even one.
-/
namespace Rollup

/-- The number `± mantissa · 2 ^ exponent`. The exponent is the least possible one, -1074, or the
mantissa has all of its 53 bits. -/
structure Binary64 where
  negative : Bool
  mantissa : Nat
  exponent : Int
deriving DecidableEq, Repr

namespace Binary64

def leastExponent : Int := -1074

def greatestExponent : Int := 971

def zero (negative : Bool) : Binary64 :=
  ⟨negative, 0, leastExponent⟩

/-- The fraction `numerator / denominator / 2 ^ exponent`, as a numerator and a denominator. -/
def scale (numerator denominator : Nat) : Int → Nat × Nat
  | .ofNat e => (numerator, denominator * Nat.pow 2 e)
  | .negSucc e => (numerator * Nat.pow 2 (e + 1), denominator)

/-- The integer nearest to a fraction, a tie going to the even one. -/
def nearest (numerator denominator : Nat) : Nat :=
  let quotient := numerator / denominator
  let rest := numerator % denominator
  if 2 * rest < denominator then quotient
  else if 2 * rest = denominator ∧ quotient % 2 = 0 then quotient
  else quotient + 1

/-- The number nearest to a positive fraction, or nothing when that is beyond all numbers. -/
def ofFraction? (negative : Bool) (numerator denominator : Nat) : Option Binary64 :=
  if numerator = 0 then some (zero negative)
  else
    let guess : Int := numerator.log2 - denominator.log2 - 53
    let (n, d) := scale numerator denominator guess
    let exponent := max leastExponent (if n / d < Nat.pow 2 53 then guess else guess + 1)
    let (n, d) := scale numerator denominator exponent
    let rounded := nearest n d
    let (mantissa, exponent) :=
      if rounded = Nat.pow 2 53 then (Nat.pow 2 52, exponent + 1) else (rounded, exponent)
    if exponent ≤ greatestExponent then some ⟨negative, mantissa, exponent⟩ else none

def fraction (x : Binary64) : Nat × Nat :=
  match x.exponent with
  | .ofNat e => (x.mantissa * Nat.pow 2 e, 1)
  | .negSucc e => (x.mantissa, Nat.pow 2 (e + 1))

def ofNat? (n : Nat) : Option Binary64 :=
  ofFraction? false n 1

/-- The rounded product of two magnitudes under the sign of the first. -/
def mul? (x y : Binary64) : Option Binary64 :=
  ofFraction? x.negative (x.fraction.1 * y.fraction.1) (x.fraction.2 * y.fraction.2)

/-- The rounded quotient of two magnitudes under the sign of the first; the divisor is not zero. -/
def div? (x y : Binary64) : Option Binary64 :=
  ofFraction? x.negative (x.fraction.1 * y.fraction.2) (x.fraction.2 * y.fraction.1)

/-- The number nearest to `± digits · 10 ^ power`. -/
def ofDecimal? (negative : Bool) (digits : Nat) : Int → Option Binary64
  | .ofNat power => ofFraction? negative (digits * Nat.pow 10 power) 1
  | .negSucc power => ofFraction? negative digits (Nat.pow 10 (power + 1))

def isZero (x : Binary64) : Bool :=
  x.mantissa == 0

/-- The value of a number that has no fractional part. -/
def toInt? (x : Binary64) : Option Int :=
  let (n, d) := x.fraction
  if n % d = 0 then some (if x.negative then -(n / d : Nat) else (n / d : Nat)) else none

/-- The nearest integer, a half going away from zero. -/
def round (x : Binary64) : Int :=
  let (n, d) := x.fraction
  let magnitude := (2 * n + d) / (2 * d)
  if x.negative then -(magnitude : Int) else magnitude

end Binary64

end Rollup
