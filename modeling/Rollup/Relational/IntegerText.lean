import Rollup.Amount
import Rollup.Text.Numeral

/-!
Texts that stand for integers where a column of integers is written or compared: decimal numerals
with or without places and an exponent, hexadecimal numerals and binary ones. A single underscore
may stand between two digits, and spaces may stand before any numeral and after a decimal one. The
integer and its places are each kept in 64 signed bits, and a half is rounded away from zero.
-/
namespace Rollup

namespace IntegerText

def isSpace (c : Char) : Bool :=
  c = ' ' || (9 ≤ c.toNat && c.toNat ≤ 13)

/-- The digits at the start of a text and what follows them. An underscore behind a digit has to
stand before another one. -/
def digits? (isDigit : Char → Bool) : List Char → Option (List Char × List Char)
  | [] => some ([], [])
  | c :: '_' :: rest =>
    if isDigit c then
      if rest.head?.any isDigit then
        (digits? isDigit rest).map fun (row, rest) => (c :: row, rest)
      else none
    else some ([], c :: '_' :: rest)
  | c :: rest =>
    if isDigit c then (digits? isDigit rest).map fun (row, rest) => (c :: row, rest)
    else some ([], c :: rest)

structure Decimal where
  negative : Bool
  whole : List Char
  places : List Char
deriving DecidableEq, Repr

namespace Decimal

def hasDigits (decimal : Decimal) : Bool :=
  decimal.whole ≠ [] || decimal.places ≠ []

def integer (decimal : Decimal) : Int :=
  let magnitude := Numeral.valueOf decimal.whole
  if decimal.negative then -magnitude else magnitude

/-- Reads a numeral at the start of a text and gives what follows it. A point needs a digit on one
of its sides. -/
def read? (text : List Char) : Option (Decimal × List Char) := do
  let (negative, text) := match text with
    | '-' :: row => (true, row)
    | '+' :: row => (false, row)
    | row => (false, row)
  let (whole, rest) ← digits? Char.isDigit text
  match rest with
  | '.' :: rest => do
    let (places, rest) ← digits? Char.isDigit rest
    if whole = [] ∧ places = [] then none else some (⟨negative, whole, places⟩, rest)
  | rest => some (⟨negative, whole, []⟩, rest)

/-- Whether a text may end in this way behind a numeral. Spaces are enough where the digits are
missing. -/
def mayEnd (decimal : Decimal) (rest : List Char) : Bool :=
  if rest = [] then decimal.hasDigits else rest.all isSpace

/-- The places as an integer, with their number. A digit is passed over where the integer would
leave 64 signed bits. -/
def fraction (decimal : Decimal) : Nat × Nat :=
  decimal.places.foldl (fun (value, count) c =>
    let next := 10 * value + Numeral.digitValue c
    if next ≤ Amount.greatest then (next, count + 1) else (value, count)) (0, 0)

end Decimal

/-- The first digit of a fraction and the place behind the point where it stands; ten is left as it
is. -/
def leading (value : Nat) (place : Int) : Nat × Int :=
  if 10 < value then leading (value / 10) (place - 1) else (value, place)

def round? (negative : Bool) (whole : Int) (value : Nat) (count : Int) : Option Int64 :=
  let (first, place) := leading value count
  let up := if place = 1 ∧ 5 ≤ first then 1 else 0
  Amount.ofInt? (if negative then whole - up else whole + up)

/-- Moves digits behind the point until the integer is zero. Only the last one moved is kept as the
fraction. -/
def lower : Nat → Int → Nat → Int × Nat
  | 0, whole, value => (whole, value)
  | steps + 1, whole, value =>
    if whole = 0 then (whole, value)
    else lower steps (whole.tdiv 10) (whole.tmod 10).natAbs

/-- Splits a fraction before its last places, so many of them. The power of ten that splits it is
kept in 64 signed bits. -/
def split (value places : Nat) : Int × Nat :=
  if places ≤ 19 then
    let power := Int.bmod (Int.pow 10 places) UInt64.size
    ((value : Int).tdiv power, ((value : Int).tmod power).toNat)
  else (0, 0)

/-- Moves places of a fraction before the point, and gives what is left of it. -/
def raise? (negative : Bool) (whole : Int) (value count exponent : Nat) : Option (Int × Nat) := do
  let grown ← Amount.ofInt? (if whole = 0 then 0 else whole * Int.pow 10 exponent)
  let (moved, left) :=
    if exponent < count then split value (count - exponent)
    else ((value * Nat.pow 10 (exponent - count) : Nat), 0)
  let moved ← Amount.ofInt? moved
  let sum ← Amount.ofInt?
    (if negative then grown.toInt - moved.toInt else grown.toInt + moved.toInt)
  some (sum.toInt, left)

/-- The integer that stands behind the mark of an exponent. It has no places and fits 16 signed
bits. -/
def exponent? (text : List Char) : Option Int := do
  let (decimal, rest) ← Decimal.read? text
  let value := decimal.integer
  if decimal.places = [] ∧ decimal.mayEnd rest ∧ Int16.minValue.toInt ≤ value ∧
      value ≤ Int16.maxValue.toInt then some value
  else none

/-- The integer nearest to a numeral whose exponent has been read. -/
def scale? (decimal : Decimal) (whole exponent : Int) : Option Int64 :=
  let (value, count) := decimal.fraction
  if exponent < 0 then
    let (whole, value) := lower exponent.natAbs whole value
    round? decimal.negative whole value 1
  else do
    let (whole, left) ← raise? decimal.negative whole value count exponent.natAbs
    round? decimal.negative whole left (count - exponent)

/-- The integer of a decimal numeral. Its digits before the point have to fit by themselves. -/
def decimal? (text : List Char) : Option Int64 := do
  let (decimal, rest) ← Decimal.read? text
  let whole ← Amount.ofInt? decimal.integer
  if decimal.mayEnd rest then
    let (value, count) := decimal.fraction
    round? decimal.negative whole.toInt value count
  else
    match rest with
    | mark :: row =>
      if decimal.hasDigits ∧ (mark = 'e' ∨ mark = 'E') then do
        let exponent ← exponent? row
        scale? decimal whole.toInt exponent
      else none
    | [] => none

def based? (base : Nat) (text : List Char) : Option Int64 :=
  match digits? (fun c => (Numeral.hexValue? c).any (· < base)) text with
  | some (first :: row, []) =>
    Amount.ofInt? (((first :: row).filterMap Numeral.hexValue?).foldl
      (fun value digit => base * value + digit) 0 : Nat)
  | _ => none

def value? (text : List Char) : Option Int64 :=
  match text.dropWhile isSpace with
  | '0' :: mark :: row =>
    if mark = 'x' ∨ mark = 'X' then based? 16 row
    else if mark = 'b' ∨ mark = 'B' then based? 2 row
    else decimal? ('0' :: mark :: row)
  | text => decimal? text

end IntegerText

end Rollup
