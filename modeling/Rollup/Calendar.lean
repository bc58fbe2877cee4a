/-!
The proleptic Gregorian calendar with a year zero, and the count of days since 1970-01-01. Main
statement: `mem_yearOf`, the year found for a day holds that day.
-/
namespace Rollup

structure Date where
  year : Int
  month : Nat
  day : Nat
deriving DecidableEq, Repr

namespace Date

def isLeap (year : Int) : Bool :=
  year % 4 == 0 && (year % 100 != 0 || year % 400 == 0)

def monthLengths (year : Int) : List Nat :=
  [31, if isLeap year then 29 else 28, 31, 30, 31, 30, 31, 31, 30, 31, 30, 31]

def valid (date : Date) : Bool :=
  1 ≤ date.month && 1 ≤ date.day &&
    match (monthLengths date.year)[date.month - 1]? with
    | some length => date.day ≤ length
    | none => false

/-- Days from the first day of year zero to the first day of a year: 365 for each year between,
and one more for each leap year. -/
def yearStart (year : Int) : Int :=
  365 * year + (year + 3) / 4 - (year + 99) / 100 + (year + 399) / 400

/-- Days from the first day of year zero to 1970-01-01. -/
def epoch : Int := 719528

/-- Days since 1970-01-01, negative before it. -/
def dayNumber (date : Date) : Int :=
  let before : Nat := ((monthLengths date.year).take (date.month - 1)).foldl (· + ·) 0
  yearStart date.year + before + (date.day - 1 : Nat) - epoch

/-- The month, counted from the given one, and the day, counted from one, of a day of the year
counted from zero. -/
def monthAndDay (month : Nat) : List Nat → Nat → Nat × Nat
  | [], day => (month, day + 1)
  | length :: rest, day =>
    if day < length then (month, day + 1) else monthAndDay (month + 1) rest (day - length)

/-- The year that holds a day counted from the first day of year zero. The mean length of a year
gives the year or a neighbour. -/
def yearOf (day : Int) : Int :=
  let guess := day * 400 / 146097
  if day < yearStart guess then guess - 1
  else if day < yearStart (guess + 1) then guess
  else guess + 1

def ofDayNumber (number : Int) : Date :=
  let day := number + epoch
  let year := yearOf day
  let (month, dayOfMonth) := monthAndDay 1 (monthLengths year) (day - yearStart year).toNat
  ⟨year, month, dayOfMonth⟩

/-- The digits of the date in the order year, month, day, read as one number; it carries the sign
of the year. -/
def stamp (date : Date) : Int :=
  let rest : Int := date.month * 100 + date.day
  if date.year < 0 then date.year * 10000 - rest else date.year * 10000 + rest

theorem mem_yearOf (day : Int) :
    yearStart (yearOf day) ≤ day ∧ day < yearStart (yearOf day + 1) := by
  unfold yearOf
  dsimp only
  by_cases before : day < yearStart (day * 400 / 146097)
  · rw [if_pos before, Int.sub_add_cancel]
    refine ⟨?_, before⟩
    simp only [yearStart]
    omega
  · rw [if_neg before]
    by_cases within : day < yearStart (day * 400 / 146097 + 1)
    · rw [if_pos within]
      exact ⟨Int.not_lt.1 before, within⟩
    · rw [if_neg within]
      refine ⟨Int.not_lt.1 within, ?_⟩
      simp only [yearStart]
      omega

end Date

end Rollup
