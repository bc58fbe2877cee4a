import Rollup.Text.Blank
import Rollup.Text.Numeral
import Mathlib.Data.List.Induction
import Mathlib.Data.Nat.Digits.Defs

/-!
Numerals read back as the numbers they were written for, over all integers. Their characters are
digits and a minus sign, so they hold no blanks and none of the usual separators. What is read
without having been written is described by a grammar: an optional sign, then digits that denote
their value in base ten (`unsigned?_eq_some_iff`, `signed?_eq_some_iff`).
-/
namespace Rollup.Numeral

theorem isDigit_of_mem_digits {n : Nat} {c : Char} (h : c ∈ digits n) : c.isDigit = true :=
  Nat.isDigit_of_mem_toDigits (by decide) (Nat.le_refl 10) h

theorem digits_ne_nil (n : Nat) : digits n ≠ [] :=
  Nat.toDigits_ne_nil

theorem valueOf_append_singleton (row : List Char) (c : Char) :
    valueOf (row ++ [c]) = 10 * valueOf row + digitValue c := by
  simp [valueOf]

theorem digitValue_digitChar {n : Nat} (h : n < 10) : digitValue n.digitChar = n :=
  Nat.toNat_digitChar_sub_48_of_lt_ten h

theorem valueOf_digits (n : Nat) : valueOf (digits n) = n := by
  induction n using Nat.strongRecOn with
  | ind n ih =>
    rw [digits, Nat.toDigits_eq_if (by decide)]
    split
    · next small => simp [valueOf, digitValue_digitChar small]
    · next large =>
      have shorter := ih (n / 10) (by omega)
      rw [digits] at shorter
      rw [valueOf_append_singleton, shorter, digitValue_digitChar (Nat.mod_lt n (by decide))]
      omega

theorem magnitude?_digits (n : Nat) : magnitude? (digits n) = some n := by
  have all : (digits n).all Char.isDigit = true :=
    List.all_eq_true.2 fun _ mem => isDigit_of_mem_digits mem
  rw [magnitude?, if_pos ⟨digits_ne_nil n, all⟩, valueOf_digits]

theorem digits_eq_cons (n : Nat) : ∃ c row, digits n = c :: row ∧ c.isDigit = true := by
  cases h : digits n with
  | nil => exact absurd h (digits_ne_nil n)
  | cons c row => exact ⟨c, row, rfl, isDigit_of_mem_digits (h ▸ List.mem_cons_self)⟩

theorem unsigned?_digits (n : Nat) : unsigned? (digits n) = some n := by
  obtain ⟨c, row, eq, digit⟩ := digits_eq_cons n
  have read := magnitude?_digits n
  rw [eq] at read ⊢
  unfold unsigned?
  split
  · next plus =>
    obtain ⟨rfl, rfl⟩ := List.cons.inj plus
    exact absurd digit (by decide)
  · exact read

theorem signed?_write (n : Int) : signed? (write n) = some n := by
  cases n with
  | ofNat n =>
    obtain ⟨c, row, eq, digit⟩ := digits_eq_cons n
    have read := unsigned?_digits n
    rw [write, eq] at *
    unfold signed?
    split
    · next minus =>
      obtain ⟨rfl, rfl⟩ := List.cons.inj minus
      exact absurd digit (by decide)
    · simp [read]
  | negSucc n =>
    simp only [write, signed?, magnitude?_digits]
    rfl

theorem write_ne_nil (n : Int) : write n ≠ [] := by
  cases n with
  | ofNat n => exact digits_ne_nil n
  | negSucc n => exact List.cons_ne_nil _ _

theorem write_injective {m n : Int} (h : write m = write n) : m = n := by
  have read := signed?_write m
  rw [h, signed?_write] at read
  exact (Option.some.inj read).symm

theorem valueOf_eq_ofDigits (row : List Char) :
    valueOf row = Nat.ofDigits 10 (row.reverse.map digitValue) := by
  induction row using List.reverseRecOn with
  | nil => rfl
  | append_singleton row c ih =>
    rw [valueOf_append_singleton, ih, List.reverse_concat, List.map_cons, Nat.ofDigits_cons]
    exact Nat.add_comm ..

/-- A row of one or more digits and the number that it denotes in base ten. -/
structure Denotes (row : List Char) (n : Nat) : Prop where
  nonempty : row ≠ []
  digits : ∀ c ∈ row, c.isDigit = true
  value : Nat.ofDigits 10 (row.reverse.map digitValue) = n

theorem magnitude?_eq_some_iff {row : List Char} {n : Nat} :
    magnitude? row = some n ↔ Denotes row n := by
  rw [magnitude?]
  constructor
  · intro h
    split at h
    · next form =>
      cases h
      exact ⟨form.1, List.all_eq_true.1 form.2, (valueOf_eq_ofDigits row).symm⟩
    · contradiction
  · rintro ⟨nonempty, digits, rfl⟩
    rw [if_pos ⟨nonempty, List.all_eq_true.2 digits⟩, valueOf_eq_ofDigits]

theorem Denotes.ne_cons {row : List Char} {n : Nat} (h : Denotes row n) {c : Char}
    (sign : c.isDigit = false) (rest : List Char) : row ≠ c :: rest := by
  rintro rfl
  exact Bool.eq_false_iff.1 sign (h.digits c List.mem_cons_self)

inductive Unsigned : List Char → Nat → Prop
  | bare {row : List Char} {n : Nat} : Denotes row n → Unsigned row n
  | plus {row : List Char} {n : Nat} : Denotes row n → Unsigned ('+' :: row) n

inductive Signed : List Char → Int → Prop
  | unsigned {row : List Char} {n : Nat} : Unsigned row n → Signed row n
  | minus {row : List Char} {n : Nat} : Denotes row n → Signed ('-' :: row) (-n)

theorem unsigned?_eq_some_iff {row : List Char} {n : Nat} :
    unsigned? row = some n ↔ Unsigned row n := by
  constructor
  · intro h
    unfold unsigned? at h
    split at h
    · exact .plus (magnitude?_eq_some_iff.1 h)
    · exact .bare (magnitude?_eq_some_iff.1 h)
  · intro h
    cases h with
    | plus denotes => exact magnitude?_eq_some_iff.2 denotes
    | bare denotes =>
      unfold unsigned?
      split
      · next rest => exact absurd rfl (denotes.ne_cons (by decide) rest)
      · exact magnitude?_eq_some_iff.2 denotes

theorem Unsigned.ne_minus {row : List Char} {n : Nat} (h : Unsigned row n) (rest : List Char) :
    row ≠ '-' :: rest := by
  cases h with
  | bare denotes => exact denotes.ne_cons (by decide) rest
  | plus => simp

theorem signed?_minus (row : List Char) :
    signed? ('-' :: row) = (magnitude? row).map fun (n : Nat) => -(n : Int) := by
  rw [signed?]
  cases magnitude? row <;> rfl

theorem signed?_of_ne {row : List Char} (h : ∀ rest, row ≠ '-' :: rest) :
    signed? row = (unsigned? row).map Int.ofNat := by
  unfold signed?
  split
  · next rest => exact absurd rfl (h rest)
  · rfl

theorem signed?_eq_some_iff {row : List Char} {n : Int} : signed? row = some n ↔ Signed row n := by
  constructor
  · intro h
    by_cases minus : ∃ rest, row = '-' :: rest
    · obtain ⟨rest, rfl⟩ := minus
      rw [signed?_minus] at h
      obtain ⟨m, read, rfl⟩ := Option.map_eq_some_iff.1 h
      exact .minus (magnitude?_eq_some_iff.1 read)
    · rw [signed?_of_ne fun rest eq => minus ⟨rest, eq⟩] at h
      obtain ⟨m, read, rfl⟩ := Option.map_eq_some_iff.1 h
      exact .unsigned (unsigned?_eq_some_iff.1 read)
  · intro h
    cases h with
    | minus denotes => rw [signed?_minus, magnitude?_eq_some_iff.2 denotes, Option.map_some]
    | unsigned read =>
      rw [signed?_of_ne read.ne_minus, unsigned?_eq_some_iff.2 read, Option.map_some,
        Int.ofNat_eq_natCast]

def IsNumeralChar (c : Char) : Prop :=
  c.isDigit = true ∨ c = '-'

instance : DecidablePred IsNumeralChar := fun c =>
  inferInstanceAs (Decidable (c.isDigit = true ∨ c = '-'))

theorem IsNumeralChar.ne {c d : Char} (h : IsNumeralChar c) (other : ¬ IsNumeralChar d) : c ≠ d :=
  fun same => other (same ▸ h)

theorem isNumeralChar_of_mem_digits {n : Nat} {c : Char} (h : c ∈ digits n) : IsNumeralChar c :=
  .inl (isDigit_of_mem_digits h)

theorem isNumeralChar_of_mem_write {n : Int} {c : Char} (h : c ∈ write n) : IsNumeralChar c := by
  cases n with
  | ofNat n => exact isNumeralChar_of_mem_digits h
  | negSucc n =>
    rcases List.mem_cons.1 h with rfl | h
    · exact .inr rfl
    · exact isNumeralChar_of_mem_digits h

theorem not_isBlank_of_isNumeralChar {c : Char} (h : IsNumeralChar c) : Text.isBlank c = false := by
  rcases h with digit | rfl
  · simp only [Char.isDigit, Bool.and_eq_true, decide_eq_true_eq, ge_iff_le,
      UInt32.le_iff_toNat_le] at digit
    have low : 48 ≤ c.toNat := digit.1
    have high : c.toNat ≤ 57 := digit.2
    simp [Text.isBlank, Text.blankRanges]
    omega
  · decide

end Rollup.Numeral
