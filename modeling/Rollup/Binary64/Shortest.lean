import Rollup.Binary64.Basic
import Rollup.Text.Numeral

/-!
Decimal text of binary numbers: the fewest digits that only this number is nearest to, of those
the ones nearest to it, and their layout. Which digits is a question of arithmetic; the layout is a
record of the choices that a text format makes.
-/
namespace Rollup

namespace Binary64

/-- The numbers within `low / scale` and `high / scale` are nearest to the one at `mid / scale`. -/
structure Neighbourhood where
  low : Nat
  mid : Nat
  high : Nat
  scale : Nat
  closed : Bool
deriving Repr

/-- Half way to the next number on either side. Below a power of two the numbers lie twice as
dense, so that side reaches half as far. -/
def neighbourhood (x : Binary64) : Neighbourhood :=
  let below := if x.mantissa = Nat.pow 2 52 ∧ leastExponent < x.exponent then 1 else 2
  let (n, d) := fraction ⟨false, 1, x.exponent⟩
  ⟨(4 * x.mantissa - below) * n, 4 * x.mantissa * n, (4 * x.mantissa + 2) * n, 4 * d,
    x.mantissa % 2 == 0⟩

/-- Whether `value / scale'` reads back, where the two scales differ. -/
def Neighbourhood.contains (range : Neighbourhood) (value scale' : Nat) : Bool :=
  let v := value * range.scale
  let low := range.low * scale'
  let high := range.high * scale'
  if range.closed then low ≤ v && v ≤ high else low < v && v < high

/-- The power of ten of the first digit of a positive fraction. -/
def leadingPower (numerator denominator : Nat) : Int :=
  let power : Int := (Numeral.digits numerator).length - (Numeral.digits denominator).length
  let (n, d) := match power with
    | .ofNat p => (numerator, denominator * Nat.pow 10 p)
    | .negSucc p => (numerator * Nat.pow 10 (p + 1), denominator)
  if d ≤ n then power else power - 1

/-- The multiples of `10 ^ power` next to a number, as far as they read back, the nearest one. -/
def onGrid? (range : Neighbourhood) : Int → Option Nat
  | .ofNat power =>
    choose range (range.mid / (range.scale * Nat.pow 10 power)) (Nat.pow 10 power) 1
  | .negSucc power =>
    choose range (range.mid * Nat.pow 10 (power + 1) / range.scale) 1 (Nat.pow 10 (power + 1))
where
  choose (range : Neighbourhood) (below unit scale : Nat) : Option Nat :=
    let left := range.contains (below * unit) scale
    let right := range.contains ((below + 1) * unit) scale
    let twice := 2 * range.mid * scale
    let middle := (2 * below + 1) * unit * range.scale
    if left && right then
      some (if twice < middle ∨ (twice = middle ∧ below % 2 = 0) then below else below + 1)
    else if left then some below
    else if right then some (below + 1)
    else none

/-- The fewest digits of a number that is not zero and the power of ten of the last of them. -/
def shortest (x : Binary64) : Nat × Int :=
  let range := x.neighbourhood
  let leading := leadingPower range.mid range.scale
  let found := (List.range 17).findSome? fun (count : Nat) =>
    (onGrid? range (leading - count)).map fun digits => (digits, leading - count)
  found.getD (0, 0)

structure Layout where
  /-- The powers of ten of the first digit for which the number is written without an exponent;
  nothing means all. -/
  positional : Option (Int × Int)
  /-- Whether a whole number written without an exponent ends in `.0`. -/
  pointZero : Bool
deriving Repr

/-- A digit row without the zeros at its end, and how many those were. -/
def dropTrailingZeros (row : List Char) : List Char × Nat :=
  let kept := (row.reverse.dropWhile (· == '0')).reverse
  (kept, row.length - kept.length)

/-- The digits `row · 10 ^ last` without an exponent. -/
def writePositional (pointZero : Bool) (row : List Char) : Int → List Char
  | .ofNat last => row ++ List.replicate last '0' ++ if pointZero then ['.', '0'] else []
  | .negSucc last =>
    let places := last + 1
    if places < row.length then
      row.take (row.length - places) ++ '.' :: row.drop (row.length - places)
    else '0' :: '.' :: (List.replicate (places - row.length) '0' ++ row)

/-- The digits with a point after the first, and the power of ten of the first. -/
def writeScientific (row : List Char) (leading : Int) : List Char :=
  let mantissa := match row with
    | first :: second :: rest => first :: '.' :: second :: rest
    | row => row
  mantissa ++ 'e' :: (if 0 ≤ leading then ['+'] else ['-']) ++ Numeral.digits leading.natAbs

def render (layout : Layout) (x : Binary64) : String :=
  let sign := if x.negative then ['-'] else []
  if x.isZero then String.ofList (sign ++ '0' :: if layout.pointZero then ['.', '0'] else [])
  else
    let (digits, last) := x.shortest
    let (row, zeros) := dropTrailingZeros (Numeral.digits digits)
    let last := last + zeros
    let leading := last + (row.length - 1 : Nat)
    let inside := match layout.positional with
      | some (least, greatest) => least ≤ leading && leading ≤ greatest
      | none => true
    String.ofList (sign ++
      if inside then writePositional layout.pointZero row last else writeScientific row leading)

end Binary64

end Rollup
