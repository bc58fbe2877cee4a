import Rollup.Calendar
import Rollup.Text.Numeral

/-!
Dates and times of a TOML text: a date, a time of day, or both of them with or without an offset.
They have one written form, with `T` between date and time and no zeros at the end of the fraction
of a second.
-/
namespace Rollup

namespace Toml

structure Clock where
  hour : Nat
  minute : Nat
  second : Nat
  nanosecond : Nat
deriving DecidableEq, Repr

inductive Offset
  | zero
  | ahead (hours : Int) (minutes : Nat)
deriving DecidableEq, Repr

structure Moment where
  date : Option Date
  clock : Option Clock
  offset : Option Offset
deriving DecidableEq, Repr

namespace Moment

def number? (width : Nat) (text : List Char) : Option (Nat × List Char) :=
  let row := text.take width
  if row.length = width ∧ row.all Char.isDigit then some (Numeral.valueOf row, text.drop width)
  else none

def after? (c : Char) : List Char → Option (List Char)
  | first :: rest => if first = c then some rest else none
  | [] => none

/-- A date at the start of a text. Any month may have 31 days. -/
def date? (text : List Char) : Option (Date × List Char) := do
  let (year, rest) ← number? 4 text
  let (month, rest) ← (after? '-' rest).bind (number? 2)
  let (day, rest) ← (after? '-' rest).bind (number? 2)
  if 1 ≤ month ∧ month ≤ 12 ∧ 1 ≤ day ∧ day ≤ 31 then some (⟨year, month, day⟩, rest) else none

/-- The nanoseconds of the digits behind the point of a second. Digits after the ninth do not
count. -/
def nanoseconds (row : List Char) : Nat :=
  Numeral.valueOf ((row ++ List.replicate 9 '0').take 9)

def fraction? : List Char → Option (Nat × List Char)
  | '.' :: rest =>
    let row := rest.takeWhile Char.isDigit
    if row = [] then none else some (nanoseconds row, rest.dropWhile Char.isDigit)
  | rest => some (0, rest)

/-- A time of day at the start of a text. The day may have a 25th hour. -/
def clock? (text : List Char) : Option (Clock × List Char) := do
  let (hour, rest) ← number? 2 text
  let (minute, rest) ← (after? ':' rest).bind (number? 2)
  let (second, rest) ← (after? ':' rest).bind (number? 2)
  let (nanosecond, rest) ← fraction? rest
  if hour ≤ 24 ∧ minute ≤ 59 ∧ second ≤ 59 then some (⟨hour, minute, second, nanosecond⟩, rest)
  else none

/-- The offset in the rest of a text. An offset below an hour counts as ahead. -/
def offset? : List Char → Option (Option Offset)
  | [] => some none
  | sign :: rest =>
    if sign = 'Z' ∨ sign = 'z' then if rest = [] then some (some .zero) else none
    else if sign = '+' ∨ sign = '-' then do
      let (hours, rest) ← number? 2 rest
      let (minutes, rest) ← (after? ':' rest).bind (number? 2)
      if rest = [] then some (some (.ahead (if sign = '-' then -hours else hours) minutes))
      else none
    else none

/-- Reads a date, a time or both. Only a date with a time has an offset. -/
def read? (text : List Char) : Option Moment :=
  if text[2]? = some ':' then do
    let (clock, rest) ← clock? text
    if rest = [] then some ⟨none, some clock, none⟩ else none
  else do
    let (date, rest) ← date? text
    match rest with
    | [] => some ⟨some date, none, none⟩
    | c :: rest =>
      if c = 'T' ∨ c = 't' ∨ c = ' ' then do
        let (clock, rest) ← clock? rest
        let offset ← offset? rest
        some ⟨some date, some clock, offset⟩
      else none

def padded (width n : Nat) : List Char :=
  List.replicate (width - (Numeral.digits n).length) '0' ++ Numeral.digits n

def writeDate (date : Date) : List Char :=
  padded 4 date.year.toNat ++ '-' :: padded 2 date.month ++ '-' :: padded 2 date.day

def writeClock (clock : Clock) : List Char :=
  let fraction := ((padded 9 clock.nanosecond).reverse.dropWhile (· = '0')).reverse
  padded 2 clock.hour ++ ':' :: padded 2 clock.minute ++ ':' :: padded 2 clock.second ++
    if fraction = [] then [] else '.' :: fraction

def writeOffset : Offset → List Char
  | .zero => ['Z']
  | .ahead hours minutes =>
    (if hours < 0 then '-' else '+') :: padded 2 hours.natAbs ++ ':' :: padded 2 minutes

def render (moment : Moment) : String :=
  let date := (moment.date.map writeDate).getD []
  let between := if moment.date.isSome ∧ moment.clock.isSome then ['T'] else []
  let clock := (moment.clock.map writeClock).getD []
  let offset := (moment.offset.map writeOffset).getD []
  String.ofList (date ++ between ++ clock ++ offset)

end Moment

end Toml

end Rollup
