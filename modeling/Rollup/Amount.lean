/-!
Signed 64-bit amounts. Adding never wraps around: a sum that does not fit stops at the nearer
limit. Main statement: `toInt_add`, addition is integer addition followed by one clamp.
-/
namespace Rollup.Amount

def least : Int := -9223372036854775808

def greatest : Int := 9223372036854775807

/-- The nearest integer that fits into 64 signed bits. -/
def clamp (n : Int) : Int :=
  max least (min n greatest)

def ofClamped (n : Int) : Int64 :=
  Int64.ofInt (clamp n)

/-- The amount with this value, when there is one. -/
def ofInt? (n : Int) : Option Int64 :=
  if least ≤ n ∧ n ≤ greatest then some (Int64.ofInt n) else none

def add (a b : Int64) : Int64 :=
  ofClamped (a.toInt + b.toInt)

/-- The sum from left to right, stopping at a limit whenever one is reached. -/
def total (amounts : List Int64) : Int64 :=
  amounts.foldl add 0

theorem least_le_toInt (a : Int64) : least ≤ a.toInt := a.le_toInt

theorem toInt_le_greatest (a : Int64) : a.toInt ≤ greatest := by
  have := a.toInt_lt
  simp only [greatest]
  omega

theorem toInt_ofClamped (n : Int) : (ofClamped n).toInt = clamp n := by
  refine Int64.toInt_ofInt_of_le ?_ ?_ <;> simp only [clamp, least, greatest] <;> omega

theorem toInt_add (a b : Int64) : (add a b).toInt = clamp (a.toInt + b.toInt) :=
  toInt_ofClamped _

theorem clamp_of_mem {n : Int} (low : least ≤ n) (high : n ≤ greatest) : clamp n = n := by
  simp only [clamp]
  omega

theorem ofInt?_toInt (a : Int64) : ofInt? a.toInt = some a := by
  simp [ofInt?, least_le_toInt, toInt_le_greatest]

theorem toInt_of_ofInt? {n : Int} {a : Int64} (h : ofInt? n = some a) : a.toInt = n := by
  simp only [ofInt?] at h
  split at h
  · next range =>
    obtain rfl := Option.some.inj h
    simp only [least, greatest] at range
    exact Int64.toInt_ofInt_of_le range.1 (by omega)
  · contradiction

theorem ofInt?_eq_some_iff {n : Int} {a : Int64} : ofInt? n = some a ↔ a.toInt = n :=
  ⟨toInt_of_ofInt?, fun eq => eq ▸ ofInt?_toInt a⟩

end Rollup.Amount
