import Rollup.Bucket.Partition
import Rollup.Proofs.Bucket.Coarsening
import Rollup.Proofs.Text.Numerals
import Mathlib.Data.Nat.Digits.Defs
import Mathlib.Tactic.NormNum

/-!
Days of eight digits as dates. Main statement: `dateOf?_eq_some_iff`, reading such a day gives the
one date that is stamped with it, if the date is in the calendar.
-/
namespace Rollup

theorem Numeral.digitValue_lt {c : Char} (h : c.isDigit = true) : digitValue c < 10 := by
  simp only [Char.isDigit, Bool.and_eq_true, decide_eq_true_eq, ge_iff_le,
    UInt32.le_iff_toNat_le] at h
  have high : c.toNat ≤ 57 := h.2
  rw [digitValue]
  omega

theorem Numeral.valueOf_append (row more : List Char) :
    valueOf (row ++ more) = valueOf row * 10 ^ more.length + valueOf more := by
  simp only [valueOf_eq_ofDigits, List.reverse_append, List.map_append, Nat.ofDigits_append,
    List.length_map, List.length_reverse]
  rw [Nat.add_comm, Nat.mul_comm]

theorem Numeral.valueOf_lt {row : List Char} (h : ∀ c ∈ row, c.isDigit = true) :
    valueOf row < 10 ^ row.length := by
  rw [valueOf_eq_ofDigits]
  have bound : Nat.ofDigits 10 (row.reverse.map digitValue) <
      10 ^ (row.reverse.map digitValue).length := by
    apply Nat.ofDigits_lt_base_pow_length (by decide)
    intro value mem
    obtain ⟨c, listed, rfl⟩ := List.mem_map.1 mem
    exact digitValue_lt (h c (List.mem_reverse.1 listed))
  simpa using bound

namespace Date

theorem bounds_of_valid {date : Date} (h : date.valid = true) :
    date.month < 100 ∧ date.day < 100 := by
  simp only [valid, Bool.and_eq_true, decide_eq_true_eq] at h
  obtain ⟨⟨-, -⟩, within⟩ := h
  split at within
  · next length found =>
    obtain ⟨inYear, rfl⟩ := List.getElem?_eq_some_iff.1 found
    have months : (monthLengths date.year).length = 12 := rfl
    have long : ∀ length ∈ monthLengths date.year, length ≤ 31 := by
      simp only [monthLengths]
      split <;> decide
    have short := long _ (List.getElem_mem inYear)
    have days := of_decide_eq_true within
    omega
  · contradiction

end Date

namespace Partition

/-- The date that the digits of a day spell out, be it in the calendar or not. -/
def spelled (day : Int) : Date :=
  ⟨day / 10000, (day / 100 % 100).toNat, (day % 100).toNat⟩

theorem cut_digits {n : Nat} (width : (Numeral.digits n).length = 8) :
    Numeral.valueOf ((Numeral.digits n).take 4) = n / 10000 ∧
      Numeral.valueOf (((Numeral.digits n).drop 4).take 2) = n / 100 % 100 ∧
      Numeral.valueOf (((Numeral.digits n).drop 6).take 2) = n % 100 := by
  have total := Numeral.valueOf_digits n
  have digits (k : Nat) : ∀ c ∈ ((Numeral.digits n).drop k).take 2, c.isDigit = true :=
    fun c mem => Numeral.isDigit_of_mem_digits (List.mem_of_mem_drop (List.mem_of_mem_take mem))
  generalize Numeral.digits n = row at *
  have month := Numeral.valueOf_lt (digits 4)
  have day := Numeral.valueOf_lt (digits 6)
  have parts : row = row.take 4 ++ ((row.drop 4).take 2 ++ (row.drop 6).take 2) := by
    have rest : (row.drop 6).take 2 = (row.drop 4).drop 2 := by
      rw [List.drop_drop, List.take_of_length_le (by simp [width])]
    rw [rest, List.take_append_drop, List.take_append_drop]
  rw [parts, Numeral.valueOf_append, Numeral.valueOf_append] at total
  simp only [List.length_append, List.length_take, List.length_drop, width] at total month day
  norm_num at total month day
  omega

theorem dateOf?_eq {day : Int} (wide : Bucket.granularity day = .ok .day) :
    dateOf? day = if (spelled day).valid then some (spelled day) else none := by
  obtain ⟨positive, width⟩ := Bucket.granularity_eq_ok_iff_width.1 wide
  replace width : (Numeral.digits day.toNat).length = 8 := width
  obtain ⟨year, month, dayOfMonth⟩ := cut_digits width
  have whole : (day.toNat : Int) = day := Int.toNat_of_nonneg (Int.le_of_lt positive)
  have same : (⟨Numeral.valueOf ((Numeral.digits day.toNat).take 4),
      Numeral.valueOf (((Numeral.digits day.toNat).drop 4).take 2),
      Numeral.valueOf (((Numeral.digits day.toNat).drop 6).take 2)⟩ : Date) = spelled day := by
    rw [year, month, dayOfMonth, spelled, Date.mk.injEq]
    omega
  have someMonth : ((Numeral.digits day.toNat).drop 4).take 2 ≠ [] := by
    rw [← List.length_pos_iff, List.length_take, List.length_drop, width]
    decide
  have someDay : ((Numeral.digits day.toNat).drop 6).take 2 ≠ [] := by
    rw [← List.length_pos_iff, List.length_take, List.length_drop, width]
    decide
  rw [dateOf?, if_neg (by omega), dateOfDigits?]
  simp only [same, width, someMonth, someDay, ne_eq, not_false_eq_true, true_and, Nat.le_refl]

theorem stamp_spelled {day : Int} (positive : 0 < day) : (spelled day).stamp = day := by
  have year : ¬ (spelled day).year < 0 := by
    simp only [spelled]
    omega
  rw [Date.stamp, if_neg year]
  simp only [spelled]
  omega

theorem spelled_stamp {date : Date} (valid : date.valid = true) (positive : 0 < date.stamp) :
    spelled date.stamp = date := by
  obtain ⟨month, day⟩ := Date.bounds_of_valid valid
  obtain ⟨year, monthOfYear, dayOfMonth⟩ := date
  simp only [Date.stamp] at *
  split at positive
  · omega
  · next later =>
    rw [if_neg later, spelled, Date.mk.injEq]
    omega

/-- A day of eight digits spells out the date in the calendar whose stamp it is. -/
theorem dateOf?_eq_some_iff {day : Int} (wide : Bucket.granularity day = .ok .day) {date : Date} :
    dateOf? day = some date ↔ date.valid = true ∧ date.stamp = day := by
  have positive := (Bucket.granularity_eq_ok_iff_width.1 wide).1
  rw [dateOf?_eq wide]
  constructor
  · intro h
    split at h
    · next valid =>
      obtain rfl := Option.some.inj h
      exact ⟨valid, stamp_spelled positive⟩
    · contradiction
  · rintro ⟨valid, rfl⟩
    rw [spelled_stamp valid positive, if_pos valid]

end Partition

end Rollup
