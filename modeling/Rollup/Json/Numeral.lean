import Rollup.Json.Basic
import Rollup.Text.Numeral

/-!
Numbers of a JSON text. A number without point and exponent is an integer if it fits 64 bits, as
it stands for a natural number or with its sign. Any other number is binary: the leading digits
that fit 64 bits are rounded to a binary number, which is then multiplied or divided by the
rounded power of ten. A number beyond all binary numbers is refused.
-/
namespace Rollup

namespace Json.Number

structure Parts where
  negative : Bool
  whole : List Char
  places : Option (List Char)
  exponent : Option (Bool × List Char)
deriving Repr

def spanDigits (text : List Char) : List Char × List Char :=
  text.span Char.isDigit

def someDigits? (text : List Char) : Option (List Char × List Char) :=
  let (row, rest) := spanDigits text
  if row = [] then none else some (row, rest)

/-- Reads the part after the mark of an exponent: an optional sign and digits up to the end. -/
def exponent? (text : List Char) : Option (Bool × List Char) :=
  let (negative, row) := match text with
    | '-' :: row => (true, row)
    | '+' :: row => (false, row)
    | row => (false, row)
  match someDigits? row with
  | some (row, []) => some (negative, row)
  | _ => none

/-- Takes a numeral apart. A zero may not be followed by further whole digits. -/
def parts? (text : List Char) : Option Parts := do
  let (negative, text) := match text with
    | '-' :: rest => (true, rest)
    | text => (false, text)
  let (whole, rest) ← someDigits? text
  if whole.head? = some '0' ∧ whole ≠ ['0'] then none
  else
    let (places, rest) ← match rest with
      | '.' :: rest => (someDigits? rest).map fun (row, rest) => (some row, rest)
      | rest => some (none, rest)
    match rest with
    | [] => some ⟨negative, whole, places, none⟩
    | mark :: rest =>
      if mark = 'e' ∨ mark = 'E' then
        (exponent? rest).map fun exponent => ⟨negative, whole, places, some exponent⟩
      else none

/-- Appends digits to a number as long as it stays below 2^64, and gives the digits left over. -/
def accumulate (value : Nat) : List Char → Nat × List Char
  | [] => (value, [])
  | c :: rest =>
    let next := 10 * value + Numeral.digitValue c
    if next < UInt64.size then accumulate next rest else (value, c :: rest)

/-- The greatest power of ten that is a binary number. -/
def greatestPower : Nat := 308

/-- Divides by a power of ten, by at most the greatest one at a time. -/
def divideByPower (x : Binary64) (power : Nat) : Option Binary64 :=
  if power ≤ greatestPower then (Binary64.ofNat? (Nat.pow 10 power)).bind x.div?
  else if x.isZero then some x
  else
    ((Binary64.ofNat? (Nat.pow 10 greatestPower)).bind x.div?).bind fun quotient =>
      divideByPower quotient (power - greatestPower)
termination_by power
decreasing_by simp only [greatestPower] at *; omega

/-- The rounded significand times or over a rounded power of ten. -/
def assemble (negative : Bool) (significand : Nat) (exponent : Int) : Option Binary64 :=
  match Binary64.ofFraction? negative significand 1 with
  | none => none
  | some x =>
    if exponent < 0 then divideByPower x exponent.natAbs
    else if exponent ≤ greatestPower then (Binary64.ofNat? (Nat.pow 10 exponent.natAbs)).bind x.mul?
    else if x.isZero then some x
    else none

def Parts.toBinary? (parts : Parts) : Option Binary64 :=
  let (significand, beyond) := accumulate 0 parts.whole
  let places := parts.places.getD []
  let (significand, unused) := accumulate significand places
  let start : Int := beyond.length - (places.length - unused.length : Nat)
  match parts.exponent with
  | none => assemble parts.negative significand start
  | some (below, row) =>
    let exponent := Numeral.valueOf row
    if exponent < Nat.pow 2 31 then
      assemble parts.negative significand (if below then start - exponent else start + exponent)
    else if below ∨ significand = 0 then some (Binary64.zero parts.negative)
    else none

def Parts.toNumber? (parts : Parts) : Option Number :=
  let value := Numeral.valueOf parts.whole
  let whole := parts.places = none ∧ parts.exponent = none
  if whole ∧ !parts.negative ∧ value < UInt64.size then some (.integer value)
  else if whole ∧ parts.negative ∧ 0 < value ∧ value ≤ Nat.pow 2 63 then
    some (.integer (-(value : Int)))
  else parts.toBinary?.map .float

end Json.Number

end Rollup
