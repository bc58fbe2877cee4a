import Rollup.Proofs.Bucket.DayPartitions
import Rollup.Proofs.Bucket.PhysicalNames
import Rollup.Relational.Adapter

/-!
The days that dates can take. Days are read with years of at most four digits, and a partition is
found by going back from a day by less than a step. That leaves the range of dates only from a day
before 1970, whose group may start before the first date there is (`Overreaches`). Main statement:
`names_settle_iff`, in all other cases a physical name is given or the time bucket refused.
-/
namespace Rollup

/-- An outcome that is a value or the refusal of a time bucket. -/
def Outcome.Settles {α : Type} (outcome : Outcome α) : Prop :=
  (∃ value, outcome = .ok value) ∨ ∃ bucket, outcome = .error (.error (.timeBucket bucket))

namespace Outcome

variable {α β γ : Type}

theorem settles_ok (value : α) : Settles (.ok value : Outcome α) :=
  .inl ⟨value, rfl⟩

theorem settles_timeBucket (bucket : Int) :
    Settles (.error (.error (.timeBucket bucket)) : Outcome α) :=
  .inr ⟨bucket, rfl⟩

theorem not_settles_crash (crash : Crash) : ¬ Settles (.error (.crash crash) : Outcome α) := by
  rintro (⟨value, eq⟩ | ⟨bucket, eq⟩) <;> cases eq

theorem settles_error_iff (failure : Failure) :
    Settles (.error failure : Outcome α) ↔ Settles (.error failure : Outcome β) := by
  simp [Settles]

theorem settles_map_iff {x : Outcome α} {f : α → β} : Settles (x.map f) ↔ Settles x := by
  cases x with
  | error failure => exact settles_error_iff failure
  | ok a => exact iff_of_true (settles_ok _) (settles_ok _)

end Outcome

namespace Partition

open Date

/-- The last day that a date can take: 31 December of the year 262142. -/
def lastDay : Int :=
  Date.dayNumber ⟨262142, 12, 31⟩

def InRange (number : Int) : Prop :=
  firstDay ≤ number ∧ number ≤ lastDay

instance (number : Int) : Decidable (InRange number) :=
  inferInstanceAs (Decidable (firstDay ≤ number ∧ number ≤ lastDay))

/-- The day lies before 1970, and there are fewer days from the first date of all to 1970 than a
group has. -/
structure Overreaches (day : Int) (dayStep : Nat) : Prop where
  early : ∃ date, dateOf? day = some date ∧ date.year < 1970
  wide : -firstDay < dayStep

variable {day : Int} {dayStep : Nat} {date : Date}

/-- A day that is read as a date is one of the calendar, with a year of at most four digits. -/
theorem valid_of_dateOf? (read : dateOf? day = some date) :
    date.valid = true ∧ 0 ≤ date.year ∧ date.year < 10000 := by
  rw [dateOf?] at read
  split at read
  · contradiction
  simp only [dateOfDigits?] at read
  split at read
  · next fits =>
    obtain ⟨-, -, -, valid⟩ := fits
    obtain rfl := Option.some.inj read
    have digits : ∀ c ∈ (Numeral.digits day.toNat).take 4, c.isDigit = true :=
      fun c mem => Numeral.isDigit_of_mem_digits (List.mem_of_mem_take mem)
    have below := Numeral.valueOf_lt digits
    have short : 10 ^ ((Numeral.digits day.toNat).take 4).length ≤ 10 ^ 4 :=
      Nat.pow_le_pow_right (by decide) (List.length_take_le 4 _)
    exact ⟨valid, Int.natCast_nonneg _, Int.ofNat_lt.2 (Nat.lt_of_lt_of_le below short)⟩
  · contradiction

theorem dayNumber_of_dateOf? (read : dateOf? day = some date) :
    -epoch ≤ date.dayNumber ∧ date.dayNumber ≤ lastDay := by
  obtain ⟨valid, first, last⟩ := valid_of_dateOf? read
  obtain ⟨low, high⟩ := mem_year valid
  have start := yearStart_strictMono.monotone first
  have stop := yearStart_strictMono.monotone (Int.add_one_le_iff.2 last)
  have zero : yearStart 0 = 0 := rfl
  have end_ : yearStart 10000 = 3652425 := rfl
  have counted : epoch = 719528 := rfl
  have late : lastDay = 95026236 := rfl
  omega

/-- The days of the last step before 1970 are one group. -/
theorem dayNumber_firstOf_of_neg {step : Nat} (early : date.dayNumber < 0)
    (near : -date.dayNumber ≤ step) : (firstOf step date).dayNumber = -step := by
  have next : (date.dayNumber + step) / step = 0 := Int.ediv_eq_zero_of_lt (by omega) (by omega)
  rw [Int.add_ediv_of_dvd_right (Int.dvd_refl _), Int.ediv_self (by omega)] at next
  rw [dayNumber_firstOf, eq_neg_of_add_eq_zero_left next, Int.mul_neg_one]

/-- Going back to the first day of a group leaves the range of dates only from a day before 1970 and
with a step of more days than there are from the first date to 1970. -/
theorem inRange_firstOf_iff {step : Nat} (positive : 0 < step) (first : -epoch ≤ date.dayNumber)
    (last : date.dayNumber ≤ lastDay) :
    InRange (firstOf step date).dayNumber ↔ ¬ (date.dayNumber < 0 ∧ -firstDay < step) := by
  obtain ⟨low, high⟩ := mem_group positive date
  have counted : epoch = 719528 := rfl
  have start : firstDay = -96465292 := rfl
  have stop : lastDay = 95026236 := rfl
  rw [InRange]
  by_cases early : date.dayNumber < 0
  · by_cases near : -date.dayNumber ≤ step
    · rw [dayNumber_firstOf_of_neg early near]
      omega
    · -- from the year zero on, a step that does not reach 1970 ends far inside the range
      omega
  · have later : 0 ≤ (firstOf step date).dayNumber := by
      rw [dayNumber_firstOf]
      exact Int.mul_nonneg (Int.natCast_nonneg _)
        (Int.ediv_nonneg (Int.not_lt.1 early) (Int.natCast_nonneg _))
    omega

theorem inRange_firstOf_iff_of_dateOf? (read : dateOf? day = some date) (positive : 0 < dayStep) :
    InRange (firstOf dayStep date).dayNumber ↔ ¬ Overreaches day dayStep := by
  obtain ⟨first, last⟩ := dayNumber_of_dateOf? read
  have since := year_iff_dayNumber (valid_of_dateOf? read).1
  rw [inRange_firstOf_iff positive first last, not_iff_not]
  constructor
  · rintro ⟨early, wide⟩
    exact ⟨⟨date, read, by omega⟩, wide⟩
  · rintro ⟨⟨own, same, early⟩, wide⟩
    obtain rfl := Option.some.inj (read.symm.trans same)
    exact ⟨by omega, wide⟩

theorem sub_emod_eq_firstOf (step : Nat) (date : Date) :
    date.dayNumber - date.dayNumber % step = (firstOf step date).dayNumber := by
  have parts := Int.mul_ediv_add_emod date.dayNumber step
  rw [dayNumber_firstOf]
  omega

theorem ofDay_of_dateOf? (read : dateOf? day = some date) (shared : 1 < dayStep) :
    ofDay day dayStep =
      if (firstOf dayStep date).dayNumber < firstDay then .error (.crash .dateOutOfRange)
      else .ok (firstOf dayStep date).stamp := by
  have found : ofDayNumber (firstOf dayStep date).dayNumber = firstOf dayStep date :=
    ofDayNumber_dayNumber (dayNumber_ofDayNumber _).1
  rw [ofDay, read]
  simp only [if_neg (Nat.not_le.2 shared), sub_emod_eq_firstOf, found]

theorem settles_ofDay_iff : (ofDay day dayStep).Settles ↔ ¬ Overreaches day dayStep := by
  cases read : dateOf? day with
  | none =>
    rw [ofDay, read]
    refine iff_of_true (Outcome.settles_timeBucket day) ?_
    rintro ⟨⟨date, found, -⟩, -⟩
    rw [read] at found
    contradiction
  | some date =>
    by_cases shared : 1 < dayStep
    · have inside := (mem_group (Nat.zero_lt_of_lt shared) date).1
      have last := (dayNumber_of_dateOf? read).2
      rw [← inRange_firstOf_iff_of_dateOf? read (Nat.zero_lt_of_lt shared),
        ofDay_of_dateOf? read shared, InRange]
      split
      · exact iff_of_false (Outcome.not_settles_crash _) (by omega)
      · exact iff_of_true (Outcome.settles_ok _) (by omega)
    · have single : ofDay day dayStep = .ok day := by
        rw [ofDay, read]
        exact if_pos (Nat.not_lt.1 shared)
      have far : 1 < -firstDay := by decide
      rw [single]
      refine iff_of_true (Outcome.settles_ok day) fun beyond => ?_
      have wide := beyond.wide
      omega

/-- What needs the granularity of a bucket and then the partition of its day. -/
theorem settles_bind_granularity_iff {α : Type} {bucket : Int} {next : Granularity → Outcome α}
    (rests : ∀ g, (next g).Settles ↔ (ofDay (Bucket.dayOf bucket g) dayStep).Settles) :
    Outcome.Settles (Outcome.ofExcept (Bucket.granularity bucket) >>= next) ↔
      ∀ day, Bucket.toDay bucket = .ok day → ¬ Overreaches day dayStep := by
  cases width : Bucket.granularity bucket with
  | error error =>
    rw [Bucket.eq_of_granularity_error width, Bucket.toDay, width]
    refine iff_of_true (Outcome.settles_timeBucket bucket) fun day cut => ?_
    contradiction
  | ok g =>
    change (next g).Settles ↔ _
    rw [rests, settles_ofDay_iff, Bucket.toDay, width]
    refine ⟨fun inside day cut => ?_, fun inside => inside _ rfl⟩
    obtain rfl := Except.ok.inj cut
    exact inside

theorem settles_physicalName_iff {metric : String} {g : Granularity} {bucket : Int} :
    (physicalName metric g bucket dayStep).Settles ↔
      (ofDay (Bucket.dayOf bucket g) dayStep).Settles := by
  rw [physicalName, Except.bind_ok_eq_map, Outcome.settles_map_iff]

theorem settles_ofRequest_iff {metrics : List String} {bucket : Int} :
    (PhysicalNames.ofRequest metrics bucket dayStep).Settles ↔ metrics = [] ∨
      ∀ day, Bucket.toDay bucket = .ok day → ¬ Overreaches day dayStep := by
  by_cases none : metrics = []
  · subst none
    refine iff_of_true ?_ (.inl rfl)
    rw [PhysicalNames.ofRequest]
    cases width : Bucket.granularity bucket with
    | error error =>
      rw [Bucket.eq_of_granularity_error width]
      exact Outcome.settles_timeBucket bucket
    | ok g => exact Outcome.settles_ok _
  · rw [or_iff_right none]
    apply settles_bind_granularity_iff
    intro g
    rw [Except.bind_ok_eq_map, Outcome.settles_map_iff,
      Except.mapM_eq_map PhysicalNames.pair_eq none, Outcome.settles_map_iff]

theorem settles_tableName_iff {adapter : Relational} {metric : String} {bucket : Int64} :
    (adapter.tableName metric bucket).Settles ↔ ∀ day, Bucket.toDay bucket.toInt = .ok day →
      ¬ Overreaches day adapter.context.dayStep := by
  apply settles_bind_granularity_iff
  intro g
  rw [Except.bind_ok_eq_map, Outcome.settles_map_iff, settles_physicalName_iff]

/-- A physical name is given or a time bucket refused, whatever the metric, the granularity, the
bucket and the day step, unless the day overreaches: it lies before 1970 and a group has more days
than there are from the first date of all to 1970. The same holds of the names of a request and of
the name of a table. Only two dates are met on the way: that of the day itself is always in the
range of dates, and that of the first day of its group is unless the day overreaches. -/
theorem names_settle_iff (dayStep : Nat) :
    (∀ metric g bucket, (physicalName metric g bucket dayStep).Settles ↔
      ¬ Overreaches (Bucket.dayOf bucket g) dayStep) ∧
    (∀ metrics bucket, (PhysicalNames.ofRequest metrics bucket dayStep).Settles ↔
      metrics = [] ∨ ∀ day, Bucket.toDay bucket = .ok day → ¬ Overreaches day dayStep) ∧
    (∀ (adapter : Relational) metric (bucket : Int64), adapter.context.dayStep = dayStep →
      ((adapter.tableName metric bucket).Settles ↔
        ∀ day, Bucket.toDay bucket.toInt = .ok day → ¬ Overreaches day dayStep)) ∧
    ∀ day date, dateOf? day = some date → InRange date.dayNumber ∧ (1 < dayStep →
      (InRange (date.dayNumber - date.dayNumber % dayStep) ↔ ¬ Overreaches day dayStep)) := by
  refine ⟨fun metric g bucket => settles_physicalName_iff.trans settles_ofDay_iff,
    fun metrics bucket => settles_ofRequest_iff, ?_, fun day date read => ?_⟩
  · rintro adapter metric bucket rfl
    exact settles_tableName_iff
  · obtain ⟨first, last⟩ := dayNumber_of_dateOf? read
    have early : firstDay ≤ -epoch := by decide
    refine ⟨⟨Int.le_trans early first, last⟩, fun shared => ?_⟩
    rw [sub_emod_eq_firstOf]
    exact inRange_firstOf_iff_of_dateOf? read (Nat.zero_lt_of_lt shared)

/-- The greatest step that can be taken back from the eve of 1970, to the first date of all. -/
theorem names_settle_iff_first_date :
    let catalog : Catalog := ⟨⟨[.ofKind "m" .sum]⟩, (Metadata.empty none).add (.ofKind "m" .sum)⟩
    let adapter : Relational := ⟨(Context.ofCatalog catalog).withDayStep 96465292, ""⟩
    physicalName "m" .day 19691231 96465292 = .ok "m_day--2621430101" ∧
      (physicalName "m" .day 19691231 96465292).Settles ∧
      (PhysicalNames.ofRequest ["m"] 19691231 96465292).Settles ∧
      (adapter.tableName "m" 19691231).Settles ∧
      InRange (-1) ∧ InRange (-1 - -1 % 96465292) := by
  intro catalog adapter
  have inside (day : Int) : ¬ Overreaches day 96465292 :=
    fun beyond => absurd beyond.wide (by decide)
  obtain ⟨named, requested, tabled, dated⟩ := names_settle_iff 96465292
  have step : adapter.context.dayStep = 96465292 := Nat.max_eq_left (by decide)
  have eve : dateOf? 19691231 = some ⟨1969, 12, 31⟩ := by decide +kernel
  obtain ⟨own, first⟩ := dated 19691231 _ eve
  exact ⟨by decide +kernel, (named _ _ _).2 (inside _),
    (requested _ _).2 (.inr fun day _ => inside day),
    (tabled adapter _ _ step).2 fun day _ => inside day, own, (first (by decide)).2 (inside _)⟩

/-- With the greatest step there is, the group of the eve of 1970 starts before the first date, and
the subtraction ends the run. -/
theorem names_leave_calendar :
    let catalog : Catalog := ⟨⟨[.ofKind "m" .sum]⟩, (Metadata.empty none).add (.ofKind "m" .sum)⟩
    let adapter : Relational := ⟨(Context.ofCatalog catalog).withDayStep 4294967295, ""⟩
    physicalName "m" .day 19691231 4294967295 = .error (.crash .dateOutOfRange) ∧
      PhysicalNames.ofRequest ["m"] 19691231 4294967295 = .error (.crash .dateOutOfRange) ∧
      adapter.tableName "m" 19691231 = .error (.crash .dateOutOfRange) ∧
      ¬ (physicalName "m" .day 19691231 4294967295).Settles ∧
      ¬ InRange (-1 - -1 % 4294967295) := by
  intro catalog adapter
  have step : adapter.context.dayStep = 4294967295 := Nat.max_eq_left (by decide)
  have crashed : physicalName "m" .day 19691231 4294967295 = .error (.crash .dateOutOfRange) := by
    rfl
  refine ⟨crashed, by rfl, ?_, ?_, by decide⟩
  · rw [Relational.tableName, step]
    rfl
  · rw [crashed]
    exact Outcome.not_settles_crash _

end Partition

end Rollup
