import Rollup.Proofs.Bucket.CalendarDays
import Rollup.Proofs.Calendar.DayCounts

/-!
Partitions of days. From 1970 on, days are grouped by their count since 1970-01-01, so many to a
group, and a partition is the stamp of the first day of its group (`ofDay_stamp`). Stamps stand in
the order of the days (`stamp_le_stamp_iff`). Main statement: `days_are_grouped`.
-/
namespace Rollup

namespace Date

/-- A date of the calendar from 1970-01-01 to 9999-12-31. -/
structure Covered (date : Date) : Prop where
  valid : date.valid = true
  first : 1970 ≤ date.year
  last : date.year ≤ 9999

variable {date other : Date}

theorem year_iff_dayNumber (valid : date.valid = true) : 1970 ≤ date.year ↔ 0 ≤ date.dayNumber := by
  have start : yearStart 1970 = epoch := rfl
  obtain ⟨low, high⟩ := mem_year valid
  have early := yearStart_strictMono.le_iff_le (a := 1970) (b := date.year)
  have late := yearStart_strictMono.le_iff_le (a := date.year + 1) (b := 1970)
  omega

theorem year_le_year (valid : date.valid = true) (otherValid : other.valid = true)
    (before : date.dayNumber ≤ other.dayNumber) : date.year ≤ other.year := by
  obtain ⟨low, -⟩ := mem_year valid
  obtain ⟨-, high⟩ := mem_year otherValid
  have years := yearStart_strictMono.lt_iff_lt.1
    (by omega : yearStart date.year < yearStart (other.year + 1))
  omega

theorem Covered.of_dayNumber (covered : other.Covered) {number : Int} (first : 0 ≤ number)
    (last : number ≤ other.dayNumber) : (ofDayNumber number).Covered := by
  obtain ⟨valid, counted⟩ := dayNumber_ofDayNumber number
  refine ⟨valid, (year_iff_dayNumber valid).2 (by rwa [counted]), ?_⟩
  exact Int.le_trans (year_le_year valid covered.valid (by rwa [counted])) covered.last

theorem stamp_lt_stamp_next (valid : date.valid = true) (positive : 0 ≤ date.year) :
    date.stamp < date.next.stamp := by
  obtain ⟨month, day⟩ := bounds_of_valid valid
  have inMonth : date.month * 100 + date.day < 10000 := by omega
  rw [next]
  split
  · simp only [stamp, if_neg (Int.not_lt.2 positive)]
    omega
  · split
    · simp only [stamp, if_neg (Int.not_lt.2 positive)]
      omega
    · simp only [stamp, if_neg (Int.not_lt.2 positive),
        if_neg (Int.not_lt.2 (Int.le_add_one positive))]
      omega

theorem stamp_strictMono : StrictMono fun number : Nat => (ofDayNumber number).stamp := by
  refine strictMono_nat_of_lt_succ fun number => ?_
  obtain ⟨valid, counted⟩ := dayNumber_ofDayNumber number
  have year := (year_iff_dayNumber valid).2 (by rw [counted]; exact Int.natCast_nonneg number)
  have step := stamp_lt_stamp_next valid (by omega)
  rwa [next_ofDayNumber] at step

theorem Covered.eq_ofDayNumber (covered : date.Covered) :
    ∃ number : Nat, date.dayNumber = number ∧ ofDayNumber number = date := by
  have positive := (year_iff_dayNumber covered.valid).1 covered.first
  refine ⟨date.dayNumber.toNat, (Int.toNat_of_nonneg positive).symm, ?_⟩
  rw [Int.toNat_of_nonneg positive, ofDayNumber_dayNumber covered.valid]

theorem stamp_le_stamp_iff (covered : date.Covered) (otherCovered : other.Covered) :
    date.stamp ≤ other.stamp ↔ date.dayNumber ≤ other.dayNumber := by
  obtain ⟨number, counted, rfl⟩ := covered.eq_ofDayNumber
  obtain ⟨otherNumber, otherCounted, rfl⟩ := otherCovered.eq_ofDayNumber
  rw [counted, otherCounted, Int.ofNat_le]
  exact stamp_strictMono.le_iff_le

theorem Covered.granularity_stamp (covered : date.Covered) :
    Bucket.granularity date.stamp = .ok .day := by
  obtain ⟨month, day⟩ := bounds_of_valid covered.valid
  have first := covered.first
  have last := covered.last
  rw [Bucket.granularity_eq_ok_iff, stamp, if_neg (by omega)]
  simp only [Granularity.least]
  omega

end Date

namespace Partition

open Date

variable {date other : Date}

/-- The first day of the group of a day. -/
def firstOf (step : Nat) (date : Date) : Date :=
  ofDayNumber (step * (date.dayNumber / step))

variable {step : Nat}

theorem dayNumber_firstOf (step : Nat) (date : Date) :
    (firstOf step date).dayNumber = step * (date.dayNumber / step) :=
  (dayNumber_ofDayNumber _).2

theorem mem_group (positive : 0 < step) (date : Date) :
    (firstOf step date).dayNumber ≤ date.dayNumber ∧
      date.dayNumber < (firstOf step date).dayNumber + step := by
  have parts := Int.mul_ediv_add_emod date.dayNumber step
  have rest := Int.emod_nonneg date.dayNumber (Int.natCast_ne_zero.2 (Nat.ne_of_gt positive))
  have small := Int.emod_lt_of_pos date.dayNumber (Int.natCast_pos.2 positive)
  rw [dayNumber_firstOf]
  omega

theorem covered_firstOf (positive : 0 < step) (covered : date.Covered) :
    (firstOf step date).Covered := by
  have first := (year_iff_dayNumber covered.valid).1 covered.first
  have last := (mem_group positive date).1
  rw [dayNumber_firstOf] at last
  exact covered.of_dayNumber (Int.mul_nonneg (Int.natCast_nonneg _)
    (Int.ediv_nonneg first (Int.natCast_nonneg _))) last

theorem firstOf_eq_iff (positive : 0 < step) :
    firstOf step date = firstOf step other ↔ date.dayNumber / step = other.dayNumber / step := by
  refine ⟨fun same => ?_, fun same => by rw [firstOf, firstOf, same]⟩
  have counts := congrArg dayNumber same
  rw [dayNumber_firstOf, dayNumber_firstOf] at counts
  exact Int.eq_of_mul_eq_mul_left (Int.natCast_ne_zero.2 (Nat.ne_of_gt positive)) counts

/-- The partition of a day is the stamp of the first day of its group. -/
theorem ofDay_stamp (covered : date.Covered) (dayStep : Nat) :
    ofDay date.stamp dayStep = .ok (firstOf (max dayStep 1) date).stamp := by
  have found := (dateOf?_eq_some_iff covered.granularity_stamp).2 ⟨covered.valid, rfl⟩
  rw [ofDay, found]
  simp only
  by_cases single : dayStep ≤ 1
  · rw [if_pos single, Nat.max_eq_right single, firstOf, Nat.cast_one, Int.ediv_one, Int.one_mul,
      ofDayNumber_dayNumber covered.valid]
  · have positive : 0 < dayStep := by omega
    have first : date.dayNumber - date.dayNumber % dayStep =
        dayStep * (date.dayNumber / dayStep) := by
      have parts := Int.mul_ediv_add_emod date.dayNumber dayStep
      omega
    have start := (year_iff_dayNumber (covered_firstOf positive covered).valid).1
      (covered_firstOf positive covered).first
    rw [dayNumber_firstOf] at start
    have early : firstDay < 0 := by decide
    rw [if_neg single, if_neg (by omega), first, Nat.max_eq_left (by omega), firstOf]

/-- A bucket and its hour lie on the same day. -/
theorem dayOf_toHour {bucket hour : Int} {g : Granularity}
    (wide : Bucket.granularity bucket = .ok g) (h : Bucket.toHour bucket = .ok hour) :
    Bucket.dayOf hour .hour = Bucket.dayOf bucket g := by
  have day := Bucket.toDay_of_toHour h
  rw [Bucket.toDay_eq_ok_iff.2 ⟨g, wide, rfl⟩] at day
  obtain ⟨own, wideHour, same⟩ := Bucket.toDay_eq_ok_iff.1 day
  cases wideHour.symm.trans (Bucket.granularity_of_toHour h)
  exact same

/-- Days are grouped by their count since 1970-01-01, which goes up by one from date to date. From
1970 to 9999 every day has a partition: it is the first day of its group, so it is not later than
the day and less than a step before it; days share a partition exactly if their counts have the same
quotient by the step; and later days have later partitions or the same. A minute, its hour and its
day have the same partition. -/
theorem days_are_grouped (dayStep : Nat) :
    let step := max dayStep 1
    ((⟨1970, 1, 1⟩ : Date).dayNumber = 0 ∧ ∀ date : Date, date.valid = true →
      date.next.valid = true ∧ date.next.dayNumber = date.dayNumber + 1) ∧
    (∀ date : Date, date.Covered → ∃ first : Date, first.Covered ∧
      ofDay date.stamp dayStep = .ok first.stamp ∧
      first.dayNumber = step * (date.dayNumber / step) ∧
      first.dayNumber ≤ date.dayNumber ∧ date.dayNumber < first.dayNumber + step) ∧
    (∀ date other : Date, date.Covered → other.Covered →
      (ofDay date.stamp dayStep = ofDay other.stamp dayStep ↔
        date.dayNumber / step = other.dayNumber / step)) ∧
    (∀ (date other : Date) (partition otherPartition : Int), date.Covered → other.Covered →
      date.dayNumber ≤ other.dayNumber → ofDay date.stamp dayStep = .ok partition →
      ofDay other.stamp dayStep = .ok otherPartition → partition ≤ otherPartition) ∧
    ∀ bucket, Bucket.granularity bucket = .ok .minute → ∃ hour day,
      Bucket.toHour bucket = .ok hour ∧ Bucket.toDay bucket = .ok day ∧
      ofDay (Bucket.dayOf bucket .minute) dayStep = ofDay (Bucket.dayOf hour .hour) dayStep ∧
      ofDay (Bucket.dayOf bucket .minute) dayStep = ofDay (Bucket.dayOf day .day) dayStep := by
  intro step
  have positive : 0 < step := Nat.lt_of_lt_of_le Nat.one_pos (Nat.le_max_right dayStep 1)
  refine ⟨⟨rfl, fun date => dayNumber_next⟩, fun date covered => ?_,
    fun date other covered otherCovered => ?_, ?_, fun bucket wide => ?_⟩
  · exact ⟨firstOf step date, covered_firstOf positive covered, ofDay_stamp covered dayStep,
      dayNumber_firstOf step date, mem_group positive date⟩
  · rw [ofDay_stamp covered, ofDay_stamp otherCovered, ← firstOf_eq_iff positive, Except.ok.injEq]
    refine ⟨fun same => ?_, fun same => congrArg stamp same⟩
    have first := covered_firstOf positive covered
    have otherFirst := covered_firstOf positive otherCovered
    refine dayNumber_injective first.valid otherFirst.valid (Int.le_antisymm ?_ ?_)
    · exact (stamp_le_stamp_iff first otherFirst).1 (Int.le_of_eq same)
    · exact (stamp_le_stamp_iff otherFirst first).1 (Int.le_of_eq same.symm)
  · intro date other partition otherPartition covered otherCovered before found otherFound
    cases (ofDay_stamp covered dayStep).symm.trans found
    cases (ofDay_stamp otherCovered dayStep).symm.trans otherFound
    rw [stamp_le_stamp_iff (covered_firstOf positive covered)
      (covered_firstOf positive otherCovered), dayNumber_firstOf, dayNumber_firstOf]
    exact Int.mul_le_mul_of_nonneg_left (Int.ediv_le_ediv (Int.natCast_pos.2 positive) before)
      (Int.natCast_nonneg _)
  · have hour : Bucket.toHour bucket = .ok (bucket.tdiv 100) :=
      Bucket.toHour_eq_ok_iff.2 (.inl ⟨wide, rfl⟩)
    exact ⟨_, _, hour, Bucket.toDay_eq_ok_iff.2 ⟨.minute, wide, rfl⟩,
      by rw [dayOf_toHour wide hour], rfl⟩

/-- In groups of seven, a Wednesday in March belongs to the leap day before it. -/
theorem days_are_grouped_leap_day :
    let date : Date := ⟨2024, 3, 6⟩
    date.Covered ∧ ofDay 20240306 7 = .ok 20240229 ∧ date.dayNumber / 7 = 2826 ∧
      (⟨2024, 2, 29⟩ : Date).next = ⟨2024, 3, 1⟩ ∧
      ∃ first : Date, first.stamp = 20240229 ∧ first.dayNumber = 7 * (date.dayNumber / 7) := by
  intro date
  have covered : date.Covered := ⟨by decide, by decide, by decide⟩
  obtain ⟨-, grouped, -⟩ := days_are_grouped 7
  obtain ⟨first, -, found, counted, -⟩ := grouped date covered
  have stamp : date.stamp = 20240306 := by decide
  have computed : ofDay 20240306 7 = .ok 20240229 := by decide +kernel
  rw [stamp, computed] at found
  exact ⟨covered, computed, by decide, by decide, first, (Except.ok.inj found).symm, counted⟩

end Partition

end Rollup
