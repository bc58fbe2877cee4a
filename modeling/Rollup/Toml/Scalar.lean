import Rollup.Settings.Tree
import Rollup.Toml.Moment

/-!
Bare values of a TOML text: switches, integers in four bases, numbers with a point or an exponent,
and dates and times, which stand for their written forms. Single underscores may stand between
digits. A sign `+` may precede any number; the number after it may have a sign of its own.
-/
namespace Rollup

namespace Toml

/-- The digits in a row that may have single underscores between them. -/
def spacedDigits? (isDigit : Char → Bool) : List Char → Option (List Char)
  | [] => none
  | [c] => if isDigit c then some [c] else none
  | c :: '_' :: rest =>
    if isDigit c then (spacedDigits? isDigit rest).map (c :: ·) else none
  | c :: rest => if isDigit c then (spacedDigits? isDigit rest).map (c :: ·) else none

def spanRow (text : List Char) : List Char × List Char :=
  text.span fun c => c.isDigit || c = '_'

def row? (text : List Char) : Option (List Char × List Char) :=
  let (row, rest) := spanRow text
  (spacedDigits? Char.isDigit row).map fun digits => (digits, rest)

/-- Whether a row of decimal digits starts as a number does: a zero stands alone. -/
def startsWell (digits : List Char) : Bool :=
  digits.head? ≠ some '0' || digits.length = 1

def based? (base : Nat) (text : List Char) : Option Setting := do
  let row ← spacedDigits? (fun c => (Numeral.hexValue? c).any (· < base)) text
  let digits := row.filterMap Numeral.hexValue?
  let value := digits.foldl (fun value digit => base * value + digit) 0
  (Amount.ofInt? value).map .integer

/-- The number nearest to `± digits · 10 ^ power`, if it is within the range of binary numbers. -/
def floating? (negative : Bool) (digits : List Char) (power : Int) : Option Setting :=
  let value := Numeral.valueOf digits
  let reach := power + digits.length
  let number :=
    if value = 0 ∨ reach < -330 then some (Binary64.zero negative)
    else if 700 < reach ∧ 310 < power + (Numeral.digits value).length then none
    else Binary64.ofDecimal? negative value power
  number.map fun number => .floating (.finite number)

/-- The part after the mark of an exponent: an optional sign and digits up to the end. -/
def exponent? (text : List Char) : Option Int :=
  let (negative, text) := match text with
    | '-' :: rest => (true, rest)
    | '+' :: rest => (false, rest)
    | rest => (false, rest)
  match row? text with
  | some (digits, []) =>
    let value : Int := Numeral.valueOf digits
    some (if negative then -value else value)
  | _ => none

def decimal? (negative : Bool) (text : List Char) : Option Setting := do
  let (whole, rest) ← row? text
  if startsWell whole then
    let (places, rest) ← match rest with
      | '.' :: rest => (row? rest).map fun (places, rest) => (some places, rest)
      | rest => some (none, rest)
    match places, rest with
    | none, [] =>
      let value : Int := Numeral.valueOf whole
      (Amount.ofInt? (if negative then -value else value)).map .integer
    | some places, [] => floating? negative (whole ++ places) (-(places.length : Int))
    | places, mark :: rest =>
      if mark = 'e' ∨ mark = 'E' then
        let places := places.getD []
        let exponent ← exponent? rest
        floating? negative (whole ++ places) (exponent - places.length)
      else none
  else none

def number? (text : List Char) : Option Setting :=
  match text with
  | '0' :: 'x' :: row => based? 16 row
  | '0' :: 'o' :: row => based? 8 row
  | '0' :: 'b' :: row => based? 2 row
  | '-' :: row =>
    if row = ['i', 'n', 'f'] then some (.floating (.infinite true))
    else if row = ['n', 'a', 'n'] then some (.floating .notANumber)
    else decimal? true row
  | row =>
    if row = ['i', 'n', 'f'] then some (.floating (.infinite false))
    else if row = ['n', 'a', 'n'] then some (.floating .notANumber)
    else decimal? false row

def bare? (text : List Char) : Option Setting :=
  if text = ['t', 'r', 'u', 'e'] then some (.bool true)
  else if text = ['f', 'a', 'l', 's', 'e'] then some (.bool false)
  else
    match text with
    | '+' :: rest => number? rest
    | text => (number? text).or ((Moment.read? text).map fun moment => .text moment.render)

end Toml

end Rollup
