import Rollup.Proofs.Outcome
import Rollup.Record.Basic
import Mathlib.Tactic.NormNum

/-!
Coarser buckets. A bucket of a granularity is a number of that many digits
(`granularity_eq_ok_iff`). Two digits less make the hour of a minute, and two less again the day of
an hour, so the way from a bucket to its day may pass through its hour (`toDay_of_toHour`). Main
statement: `buckets_coarsen`, hours and days are reached by cutting digits off (`Coarsens`), and
nothing but buckets has them.
-/
namespace Rollup

namespace Granularity

def width : Granularity → Nat
  | minute => 12
  | hour => 10
  | day => 8

def least : Granularity → Int
  | minute => 100000000000
  | hour => 1000000000
  | day => 10000000

end Granularity

namespace Bucket

variable {bucket hour day : Int} {g : Granularity}

theorem granularity_eq_ok_iff_width : granularity bucket = .ok g ↔
    0 < bucket ∧ (Numeral.digits bucket.toNat).length = g.width := by
  rw [granularity]
  by_cases positive : bucket ≤ 0
  · simp [positive]
  · rw [if_neg positive, and_iff_right (Int.not_le.1 positive)]
    split <;> cases g <;> simp_all [Granularity.width]

theorem length_digits_eq_iff {n k : Nat} (positive : 0 < k) :
    (Numeral.digits n).length = k + 1 ↔ 10 ^ k ≤ n ∧ n < 10 * 10 ^ k := by
  have short := Nat.length_toDigits_le_iff (n := n) (by decide : 1 < 10) positive
  have long := Nat.length_toDigits_le_iff (n := n) (by decide : 1 < 10) (Nat.succ_pos k)
  rw [Nat.pow_succ] at long
  rw [Numeral.digits]
  omega

theorem granularity_eq_ok_iff :
    granularity bucket = .ok g ↔ g.least ≤ bucket ∧ bucket < 10 * g.least := by
  have minute := @length_digits_eq_iff bucket.toNat 11 (by decide)
  have hour := @length_digits_eq_iff bucket.toNat 9 (by decide)
  have day := @length_digits_eq_iff bucket.toNat 7 (by decide)
  norm_num at minute hour day
  rw [granularity_eq_ok_iff_width]
  cases g <;> simp only [Granularity.width, Granularity.least, minute, hour, day] <;> omega

theorem eq_of_granularity_error {error : Error} (h : granularity bucket = .error error) :
    error = .timeBucket bucket := by
  rw [granularity] at h
  repeat' split at h
  all_goals cases h
  all_goals rfl

/-- A bucket has room to spare in 64 bits. -/
theorem toInt_ofInt (h : granularity bucket = .ok g) : (Int64.ofInt bucket).toInt = bucket := by
  have range := granularity_eq_ok_iff.1 h
  apply Int64.toInt_ofInt_of_le <;> cases g <;> simp only [Granularity.least] at range <;> omega

/-- Buckets are positive, so cutting digits off is a plain division. -/
theorem tdiv_eq (h : granularity bucket = .ok g) (n : Int) : bucket.tdiv n = bucket / n := by
  have positive := (granularity_eq_ok_iff_width.1 h).1
  exact Int.tdiv_eq_ediv_of_nonneg (Int.le_of_lt positive)

theorem toHour_eq_ok_iff : toHour bucket = .ok hour ↔
    granularity bucket = .ok .minute ∧ bucket.tdiv 100 = hour ∨
      granularity bucket = .ok .hour ∧ bucket = hour := by
  rw [toHour, Except.bind_eq_ok_iff]
  constructor
  · rintro ⟨g, wide, h⟩
    cases g with
    | minute => exact .inl ⟨wide, Except.ok.inj h⟩
    | hour => exact .inr ⟨wide, Except.ok.inj h⟩
    | day => contradiction
  · rintro (⟨wide, rfl⟩ | ⟨wide, rfl⟩)
    · exact ⟨.minute, wide, rfl⟩
    · exact ⟨.hour, wide, rfl⟩

theorem toDay_eq_ok_iff :
    toDay bucket = .ok day ↔ ∃ g, granularity bucket = .ok g ∧ dayOf bucket g = day := by
  rw [toDay, Except.bind_eq_ok_iff]
  simp only [Except.ok.injEq]

theorem granularity_of_toHour (h : toHour bucket = .ok hour) : granularity hour = .ok .hour := by
  rcases toHour_eq_ok_iff.1 h with ⟨wide, rfl⟩ | ⟨wide, rfl⟩
  · have range := granularity_eq_ok_iff.1 wide
    rw [granularity_eq_ok_iff, tdiv_eq wide]
    simp only [Granularity.least] at *
    omega
  · exact wide

theorem granularity_of_toDay (h : toDay bucket = .ok day) : granularity day = .ok .day := by
  obtain ⟨g, wide, rfl⟩ := toDay_eq_ok_iff.1 h
  have range := granularity_eq_ok_iff.1 wide
  rw [granularity_eq_ok_iff]
  cases g <;> simp only [Granularity.least, dayOf, tdiv_eq wide] at * <;> omega

/-- Buckets of one hour are of one day. -/
theorem toDay_of_toHour (h : toHour bucket = .ok hour) : toDay hour = toDay bucket := by
  have wideHour := granularity_of_toHour h
  rcases toHour_eq_ok_iff.1 h with ⟨wide, rfl⟩ | ⟨wide, rfl⟩
  · have day : dayOf (bucket.tdiv 100) .hour = dayOf bucket .minute := by
      rw [dayOf, dayOf, tdiv_eq wideHour, tdiv_eq wide, tdiv_eq wide]
      omega
    rw [toDay, toDay, wideHour, wide, Except.ok_bind, Except.ok_bind, day]
  · rfl

/-- What it means to coarsen buckets to a granularity: a bucket that is as fine or finer is cut down
to the digits of that granularity, and any other number is refused. What comes out is a bucket of
the granularity, on which nothing is left to do, and the order within one granularity is kept. -/
structure Coarsens (target : Granularity) (coarsen : Int → Except Error Int) : Prop where
  eq_ok_iff : ∀ bucket coarse, coarsen bucket = .ok coarse ↔ ∃ g, granularity bucket = .ok g ∧
    target.width ≤ g.width ∧ bucket / 10 ^ (g.width - target.width) = coarse
  refused : ∀ bucket error, coarsen bucket = .error error → error = .timeBucket bucket
  lands : ∀ bucket coarse, coarsen bucket = .ok coarse → granularity coarse = .ok target
  idempotent : ∀ bucket coarse, coarsen bucket = .ok coarse → coarsen coarse = .ok coarse
  monotone : ∀ bucket other g coarse otherCoarse, granularity bucket = .ok g →
    granularity other = .ok g → bucket ≤ other → coarsen bucket = .ok coarse →
    coarsen other = .ok otherCoarse → coarse ≤ otherCoarse

theorem granularity_cut {target : Granularity} (wide : granularity bucket = .ok g)
    (finer : target.width ≤ g.width) :
    granularity (bucket / 10 ^ (g.width - target.width)) = .ok target := by
  rw [granularity_eq_ok_iff] at wide ⊢
  cases g <;> cases target <;> simp only [Granularity.width, Granularity.least] at * <;> omega

/-- Which digits are kept, and how other numbers are refused, decides everything else. -/
theorem coarsens_of_eq_ok_iff {target : Granularity} {coarsen : Int → Except Error Int}
    (cuts : ∀ bucket coarse, coarsen bucket = .ok coarse ↔ ∃ g, granularity bucket = .ok g ∧
      target.width ≤ g.width ∧ bucket / 10 ^ (g.width - target.width) = coarse)
    (refused : ∀ bucket error, coarsen bucket = .error error → error = .timeBucket bucket) :
    Coarsens target coarsen := by
  have lands : ∀ bucket coarse, coarsen bucket = .ok coarse → granularity coarse = .ok target := by
    intro bucket coarse h
    obtain ⟨g, wide, finer, rfl⟩ := (cuts bucket coarse).1 h
    exact granularity_cut wide finer
  refine ⟨cuts, refused, lands, fun bucket coarse h => ?_, ?_⟩
  · refine (cuts coarse coarse).2 ⟨target, lands bucket coarse h, Nat.le_refl _, ?_⟩
    rw [Nat.sub_self, Int.pow_zero, Int.ediv_one]
  · intro bucket other g coarse otherCoarse wide otherWide below h otherH
    obtain ⟨own, same, -, rfl⟩ := (cuts bucket coarse).1 h
    obtain ⟨otherOwn, otherSame, -, rfl⟩ := (cuts other otherCoarse).1 otherH
    cases wide.symm.trans same
    cases otherWide.symm.trans otherSame
    exact Int.ediv_le_ediv (Int.pow_pos (by decide)) below

theorem coarsens_toHour : Coarsens .hour toHour := by
  refine coarsens_of_eq_ok_iff (fun bucket coarse => ?_) fun bucket error h => ?_
  · rw [toHour_eq_ok_iff]
    constructor
    · rintro (⟨wide, rfl⟩ | ⟨wide, rfl⟩)
      · exact ⟨.minute, wide, by decide, (tdiv_eq wide 100).symm⟩
      · exact ⟨.hour, wide, by decide, Int.ediv_one bucket⟩
    · rintro ⟨g, wide, finer, rfl⟩
      cases g with
      | minute => exact .inl ⟨wide, tdiv_eq wide 100⟩
      | hour => exact .inr ⟨wide, (Int.ediv_one bucket).symm⟩
      | day => exact absurd finer (by decide)
  · rw [toHour] at h
    cases wide : granularity bucket with
    | error own =>
      rw [wide] at h
      cases h
      exact eq_of_granularity_error wide
    | ok g =>
      rw [wide, Except.ok_bind] at h
      cases g <;> cases h
      rfl

theorem coarsens_toDay : Coarsens .day toDay := by
  refine coarsens_of_eq_ok_iff (fun bucket coarse => ?_) fun bucket error h => ?_
  · rw [toDay_eq_ok_iff]
    refine exists_congr fun g => and_congr_right fun wide => ?_
    cases g with
    | minute => simp [dayOf, tdiv_eq wide, Granularity.width]
    | hour => simp [dayOf, tdiv_eq wide, Granularity.width]
    | day => simp [dayOf, Granularity.width]
  · rw [toDay] at h
    cases wide : granularity bucket with
    | error own =>
      rw [wide] at h
      cases h
      exact eq_of_granularity_error wide
    | ok g =>
      rw [wide] at h
      contradiction

/-- The width of a number tells whether it is a bucket and of which granularity. Coarsening to hours
takes minutes and hours, coarsening to days takes every bucket, and a day may be reached by way of
the hour. -/
theorem buckets_coarsen :
    (∀ bucket : Int,
      (granularity bucket = .ok .day ↔ 10 ^ 7 ≤ bucket ∧ bucket < 10 ^ 8) ∧
      (granularity bucket = .ok .hour ↔ 10 ^ 9 ≤ bucket ∧ bucket < 10 ^ 10) ∧
      (granularity bucket = .ok .minute ↔ 10 ^ 11 ≤ bucket ∧ bucket < 10 ^ 12) ∧
      ((∀ g, granularity bucket ≠ .ok g) → granularity bucket = .error (.timeBucket bucket))) ∧
    (∀ bucket, (∃ hour, toHour bucket = .ok hour) ↔
      granularity bucket = .ok .minute ∨ granularity bucket = .ok .hour) ∧
    (∀ bucket, (∃ day, toDay bucket = .ok day) ↔ ∃ g, granularity bucket = .ok g) ∧
    Coarsens .hour toHour ∧ Coarsens .day toDay ∧
    ∀ bucket hour, toHour bucket = .ok hour → toDay hour = toDay bucket := by
  refine ⟨fun bucket => ⟨granularity_eq_ok_iff, granularity_eq_ok_iff, granularity_eq_ok_iff,
    fun none => ?_⟩, fun bucket => ?_, fun bucket => ?_, coarsens_toHour, coarsens_toDay,
    fun bucket hour => toDay_of_toHour⟩
  · cases wide : granularity bucket with
    | ok g => exact absurd wide (none g)
    | error error => rw [eq_of_granularity_error wide]
  · simp only [toHour_eq_ok_iff, exists_or, exists_and_left, exists_eq', and_true]
  · simp only [toDay_eq_ok_iff]
    exact ⟨fun ⟨_, g, wide, _⟩ => ⟨g, wide⟩, fun ⟨g, wide⟩ => ⟨_, g, wide, rfl⟩⟩

/-- A minute before noon, its hour and its day. -/
theorem buckets_coarsen_minute :
    toHour 202401011159 = .ok 2024010111 ∧ toDay 2024010111 = toDay 202401011159 ∧
      toDay 202401011159 = .ok 20240101 ∧ granularity 20240101 = .ok .day := by
  obtain ⟨-, -, -, -, days, through⟩ := buckets_coarsen
  have hour : toHour 202401011159 = .ok 2024010111 := by decide +kernel
  have day : toDay 202401011159 = .ok 20240101 := by decide +kernel
  exact ⟨hour, through _ _ hour, day, days.lands _ _ day⟩

end Bucket

namespace Record.Key

variable {key hour day : Key}

theorem toHour_eq_ok_iff : key.toHour = .ok hour ↔
    ∃ bucket, Bucket.toHour key.bucket.toInt = .ok bucket ∧
      { key with bucket := Int64.ofInt bucket } = hour :=
  Except.map_eq_ok_iff

theorem toDay_eq_ok_iff : key.toDay = .ok day ↔
    ∃ bucket, Bucket.toDay key.bucket.toInt = .ok bucket ∧
      { key with bucket := Int64.ofInt bucket } = day :=
  Except.map_eq_ok_iff

theorem exists_toHour (h : Bucket.granularity key.bucket.toInt = .ok .minute) :
    ∃ hour, key.toHour = .ok hour :=
  ⟨_, toHour_eq_ok_iff.2 ⟨_, Bucket.toHour_eq_ok_iff.2 (.inl ⟨h, rfl⟩), rfl⟩⟩

theorem toDay_of_toHour (h : key.toHour = .ok hour) : hour.toDay = key.toDay := by
  obtain ⟨bucket, cut, rfl⟩ := toHour_eq_ok_iff.1 h
  rw [toDay, toDay, Bucket.toInt_ofInt (Bucket.granularity_of_toHour cut),
    Bucket.toDay_of_toHour cut]

theorem granularity_of_toDay (h : key.toDay = .ok day) :
    Bucket.granularity day.bucket.toInt = .ok .day := by
  obtain ⟨bucket, cut, rfl⟩ := toDay_eq_ok_iff.1 h
  have wide := Bucket.granularity_of_toDay cut
  rw [Bucket.toInt_ofInt wide, wide]

end Record.Key

end Rollup
