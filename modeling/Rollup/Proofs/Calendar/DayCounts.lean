import Rollup.Calendar
import Mathlib

/-!
Dates and the count of days since 1970-01-01. Main statements: `ofDayNumber_dayNumber` and
`dayNumber_ofDayNumber`, dates of the calendar and counts of days lead to each other, and
`dayNumber_next`, the count goes up by one from each date to the next, across the ends of months and
years.
-/
namespace Rollup.Date

theorem sum_monthLengths (year : Int) :
    yearStart year + (monthLengths year).sum = yearStart (year + 1) := by
  have leap : isLeap year = true ↔ year % 4 = 0 ∧ (year % 100 ≠ 0 ∨ year % 400 = 0) := by
    simp [isLeap]
  simp only [yearStart, monthLengths, leap]
  split <;> simp only [List.sum_cons, List.sum_nil] <;> omega

theorem yearStart_strictMono : StrictMono yearStart := by
  refine strictMono_int_of_lt_succ fun year => ?_
  simp only [yearStart]
  omega

theorem yearOf_eq {day year : Int} (start : yearStart year ≤ day)
    (within : day < yearStart (year + 1)) : yearOf day = year := by
  obtain ⟨low, high⟩ := mem_yearOf day
  have below := yearStart_strictMono.lt_iff_lt.1 (Int.lt_of_le_of_lt low within)
  have above := yearStart_strictMono.lt_iff_lt.1 (Int.lt_of_le_of_lt start high)
  omega

/-- By induction on the months: a day of the month `k` places on is found there. -/
theorem monthAndDay_eq {lengths : List Nat} {k length day : Nat} (month : Nat)
    (at_ : lengths[k]? = some length) (within : day < length) :
    monthAndDay month lengths ((lengths.take k).sum + day) = (month + k, day + 1) := by
  induction lengths generalizing k month with
  | nil => contradiction
  | cons first rest ih =>
    cases k with
    | zero =>
      obtain rfl : first = length := Option.some.inj at_
      rw [List.take_zero, List.sum_nil, Nat.zero_add, monthAndDay, if_pos within]
      rfl
    | succ k =>
      have passed : ¬ first + (rest.take k).sum + day < first := by omega
      have left : first + (rest.take k).sum + day - first = (rest.take k).sum + day := by omega
      rw [List.take_succ_cons, List.sum_cons, monthAndDay, if_neg passed, left,
        ih (month + 1) at_, Nat.add_right_comm, Nat.add_assoc]

theorem exists_month {lengths : List Nat} {day : Nat} (within : day < lengths.sum) :
    ∃ k length rest, lengths[k]? = some length ∧ rest < length ∧
      (lengths.take k).sum + rest = day := by
  induction lengths generalizing day with
  | nil => contradiction
  | cons first others ih =>
    by_cases here : day < first
    · exact ⟨0, first, day, rfl, here, Nat.zero_add day⟩
    · rw [List.sum_cons] at within
      obtain ⟨k, length, rest, at_, inside, sum⟩ := @ih (day - first) (by omega)
      refine ⟨k + 1, length, rest, at_, inside, ?_⟩
      rw [List.take_succ_cons, List.sum_cons]
      omega

theorem valid_iff {date : Date} : date.valid = true ↔ 1 ≤ date.month ∧ 1 ≤ date.day ∧
    ∃ length, (monthLengths date.year)[date.month - 1]? = some length ∧ date.day ≤ length := by
  rw [valid]
  cases (monthLengths date.year)[date.month - 1]? <;> simp [and_assoc]

theorem dayNumber_eq (date : Date) : date.dayNumber = yearStart date.year +
    ((monthLengths date.year).take (date.month - 1)).sum + (date.day - 1 : Nat) - epoch := by
  rw [dayNumber, List.sum_eq_foldl]

/-- The days of a month come before the next month. -/
theorem sum_take_month {lengths : List Nat} {k length : Nat} (at_ : lengths[k]? = some length) :
    (lengths.take (k + 1)).sum = (lengths.take k).sum + length := by
  rw [List.take_add_one, at_, Option.toList_some, List.sum_append, List.sum_singleton]

theorem mem_year {date : Date} (valid : date.valid = true) :
    yearStart date.year ≤ date.dayNumber + epoch ∧
      date.dayNumber + epoch < yearStart (date.year + 1) := by
  obtain ⟨-, first, length, at_, last⟩ := valid_iff.1 valid
  have months := sum_take_month at_
  have whole := (List.take_sublist (date.month - 1 + 1) (monthLengths date.year)).sum_le_sum
    fun _ _ => Nat.zero_le _
  have year := sum_monthLengths date.year
  rw [dayNumber_eq]
  omega

theorem yearOf_dayNumber {date : Date} (valid : date.valid = true) :
    yearOf (date.dayNumber + epoch) = date.year :=
  yearOf_eq (mem_year valid).1 (mem_year valid).2

theorem ofDayNumber_dayNumber {date : Date} (valid : date.valid = true) :
    ofDayNumber date.dayNumber = date := by
  obtain ⟨month, first, length, at_, last⟩ := valid_iff.1 valid
  have inYear : (date.dayNumber + epoch - yearStart date.year).toNat =
      ((monthLengths date.year).take (date.month - 1)).sum + (date.day - 1) := by
    rw [dayNumber_eq]
    omega
  have parts := monthAndDay_eq 1 at_ (by omega : date.day - 1 < length)
  rw [ofDayNumber]
  simp only [yearOf_dayNumber valid, inYear, parts]
  rw [Nat.add_sub_cancel' month, Nat.sub_add_cancel first]

theorem dayNumber_injective {date other : Date} (valid : date.valid = true)
    (otherValid : other.valid = true) (same : date.dayNumber = other.dayNumber) : date = other := by
  rw [← ofDayNumber_dayNumber valid, same, ofDayNumber_dayNumber otherValid]

theorem dayNumber_ofDayNumber (number : Int) :
    (ofDayNumber number).valid = true ∧ (ofDayNumber number).dayNumber = number := by
  obtain ⟨low, high⟩ := mem_yearOf (number + epoch)
  have year := sum_monthLengths (yearOf (number + epoch))
  obtain ⟨k, length, rest, at_, inside, sum⟩ :=
    @exists_month (monthLengths (yearOf (number + epoch)))
      (number + epoch - yearStart (yearOf (number + epoch))).toNat (by omega)
  have date : ofDayNumber number = ⟨yearOf (number + epoch), 1 + k, rest + 1⟩ := by
    rw [ofDayNumber]
    simp only [← sum, monthAndDay_eq 1 at_ inside]
  rw [date, valid_iff, dayNumber_eq]
  simp only [Nat.add_sub_cancel_left, Nat.add_sub_cancel]
  exact ⟨⟨by omega, by omega, length, at_, inside⟩, by omega⟩

/-- The date after a date: the next day of the month, or else the first day of the next month, which
may be in the next year. -/
def next (date : Date) : Date :=
  if (monthLengths date.year)[date.month - 1]? ≠ some date.day then
    { date with day := date.day + 1 }
  else if date.month < 12 then ⟨date.year, date.month + 1, 1⟩
  else ⟨date.year + 1, 1, 1⟩

theorem monthLengths_pos {year : Int} {length : Nat} (mem : length ∈ monthLengths year) :
    1 ≤ length := by
  have all : ∀ length ∈ monthLengths year, 1 ≤ length := by
    simp only [monthLengths]
    split <;> decide
  exact all length mem

theorem valid_first (year : Int) {month : Nat} (first : 1 ≤ month) (last : month ≤ 12) :
    (⟨year, month, 1⟩ : Date).valid = true := by
  have inside : month - 1 < (monthLengths year).length := Nat.sub_one_lt_of_le first last
  exact valid_iff.2 ⟨first, Nat.le_refl 1, _, List.getElem?_eq_getElem inside,
    monthLengths_pos (List.getElem_mem inside)⟩

theorem dayNumber_next {date : Date} (valid : date.valid = true) :
    date.next.valid = true ∧ date.next.dayNumber = date.dayNumber + 1 := by
  obtain ⟨month, first, length, at_, last⟩ := valid_iff.1 valid
  have inYear : date.month - 1 < 12 := (List.getElem?_eq_some_iff.1 at_).1
  rw [next]
  split
  · next more =>
    have room : date.day ≠ length := fun same => more (same ▸ at_)
    refine ⟨valid_iff.2 ⟨month, by simp, length, at_, by simp; omega⟩, ?_⟩
    rw [dayNumber_eq, dayNumber_eq]
    simp only
    omega
  · next full =>
    obtain rfl : length = date.day := Option.some.inj (at_.symm.trans (not_not.1 full))
    have months := sum_take_month at_
    split
    · next later =>
      refine ⟨valid_first date.year (by omega) later, ?_⟩
      rw [dayNumber_eq, dayNumber_eq]
      simp only [Nat.add_sub_cancel, Nat.sub_add_cancel month] at *
      omega
    · next december =>
      refine ⟨valid_first (date.year + 1) (by decide) (by decide), ?_⟩
      have year := sum_monthLengths date.year
      have whole : (monthLengths date.year).take (date.month - 1 + 1) = monthLengths date.year :=
        List.take_of_length_le (by change 12 ≤ _; omega)
      rw [whole] at months
      rw [dayNumber_eq, dayNumber_eq]
      simp only [Nat.sub_self, List.take_zero, List.sum_nil]
      omega

theorem next_ofDayNumber (number : Int) :
    (ofDayNumber number).next = ofDayNumber (number + 1) := by
  obtain ⟨valid, counted⟩ := dayNumber_ofDayNumber number
  obtain ⟨nextValid, nextCounted⟩ := dayNumber_next valid
  rw [← ofDayNumber_dayNumber nextValid, nextCounted, counted]

end Rollup.Date
