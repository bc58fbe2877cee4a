import Rollup.Amount
import Mathlib

/-!
Sums that stop at a limit. As long as no amount is negative, only the upper limit can be reached,
and then it does not matter where in a sum the limit is applied: `clamp_add_clamp` makes addition
associative, and `toInt_total` replaces a running sum by one clamp of the exact sum. Quotients need
no limit: between two amounts they are amounts themselves (`exists_quotient`).
-/
namespace Rollup.Amount

@[simp] theorem clamp_zero : clamp 0 = 0 := rfl

theorem clamp_nonneg {n : Int} (h : 0 ≤ n) : 0 ≤ clamp n := by
  simp only [clamp, least, greatest]
  omega

theorem clamp_of_nonneg {n : Int} (h : 0 ≤ n) : clamp n = min n greatest := by
  simp only [clamp, least, greatest]
  omega

theorem clamp_eq_self {n : Int} (nonneg : 0 ≤ n) (high : n ≤ greatest) : clamp n = n := by
  rw [clamp_of_nonneg nonneg, Int.min_eq_left high]

theorem clamp_le_clamp {m n : Int} (h : m ≤ n) : clamp m ≤ clamp n := by
  simp only [clamp]
  omega

theorem clamp_eq_zero_iff {n : Int} : clamp n = 0 ↔ n = 0 := by
  simp only [clamp, least, greatest]
  omega

theorem nonneg_iff {a : Int64} : 0 ≤ a ↔ 0 ≤ a.toInt := by
  rw [Int64.le_iff_toInt_le, Int64.toInt_zero]

theorem add_nonneg {a b : Int64} (ha : 0 ≤ a) (hb : 0 ≤ b) : 0 ≤ add a b := by
  rw [nonneg_iff] at ha hb ⊢
  rw [toInt_add]
  exact clamp_nonneg (Int.add_nonneg ha hb)

theorem clamp_toInt (a : Int64) : clamp a.toInt = a.toInt :=
  clamp_of_mem (least_le_toInt a) (toInt_le_greatest a)

/-- Of two limits on the way to a sum the outer one is enough. -/
theorem clamp_add_clamp {m n : Int} (hm : 0 ≤ m) (hn : 0 ≤ n) :
    clamp (clamp m + clamp n) = clamp (m + n) := by
  simp only [clamp, least, greatest]
  omega

theorem toInt_add_of_clamp {a b : Int64} {m n : Int} (ha : a.toInt = clamp m)
    (hb : b.toInt = clamp n) (hm : 0 ≤ m) (hn : 0 ≤ n) : (add a b).toInt = clamp (m + n) := by
  rw [toInt_add, ha, hb, clamp_add_clamp hm hn]

theorem zero_add (a : Int64) : add 0 a = a := by
  apply Int64.toInt_inj.1
  rw [toInt_add, Int64.toInt_zero, Int.zero_add, clamp_toInt]

theorem add_zero (a : Int64) : add a 0 = a := by
  apply Int64.toInt_inj.1
  rw [toInt_add, Int64.toInt_zero, Int.add_zero, clamp_toInt]

theorem add_comm (a b : Int64) : add a b = add b a := by
  rw [add, Int.add_comm, add]

theorem toInt_add_of_nonneg {a b : Int64} (ha : 0 ≤ a) (hb : 0 ≤ b) :
    (add a b).toInt = min (a.toInt + b.toInt) greatest := by
  rw [nonneg_iff] at ha hb
  rw [toInt_add, clamp_of_nonneg (Int.add_nonneg ha hb)]

/-- With negative amounts a sum could stop at one limit and then come back from it. -/
theorem add_assoc {a b c : Int64} (ha : 0 ≤ a) (hb : 0 ≤ b) (hc : 0 ≤ c) :
    add (add a b) c = add a (add b c) := by
  rw [nonneg_iff] at ha hb hc
  apply Int64.toInt_inj.1
  rw [toInt_add_of_clamp (toInt_add a b) (clamp_toInt c).symm (Int.add_nonneg ha hb) hc,
    toInt_add_of_clamp (clamp_toInt a).symm (toInt_add b c) ha (Int.add_nonneg hb hc),
    Int.add_assoc]

theorem sum_map_nonneg {α : Type} {items : List α} {part : α → Int}
    (h : ∀ item ∈ items, 0 ≤ part item) : 0 ≤ (items.map part).sum := by
  induction items with
  | nil => simp
  | cons item rest ih =>
    have head := h item (by simp)
    have tail := ih fun other mem => h other (by simp [mem])
    rw [List.map_cons, List.sum_cons]
    omega

theorem toInt_foldl_add {amounts : List Int64} (h : ∀ a ∈ amounts, 0 ≤ a.toInt) {start : Int64}
    {exact : Int} (hstart : start.toInt = clamp exact) (hexact : 0 ≤ exact) :
    (amounts.foldl add start).toInt = clamp (exact + (amounts.map Int64.toInt).sum) := by
  induction amounts generalizing start exact with
  | nil => simp [hstart]
  | cons a rest ih =>
    have head := h a (by simp)
    have step := toInt_add_of_clamp hstart (clamp_toInt a).symm hexact head
    rw [List.foldl_cons, ih (fun b hb => h b (by simp [hb])) step (by omega), List.map_cons,
      List.sum_cons, Int.add_assoc]

/-- A running sum of amounts that are not negative is their exact sum, clamped once. -/
theorem toInt_total {amounts : List Int64} (h : ∀ a ∈ amounts, 0 ≤ a.toInt) :
    (total amounts).toInt = clamp (amounts.map Int64.toInt).sum := by
  have start : (0 : Int64).toInt = clamp 0 := rfl
  rw [total, toInt_foldl_add h start (Int.le_refl 0), Int.zero_add]

/-- A quotient that lies between two amounts is an amount, namely the exact one rounded down. -/
theorem exists_quotient {n d : Int} (nonneg : 0 ≤ n) (positive : 0 < d) {low high : Int64}
    (above : low.toInt * d ≤ n) (below : n ≤ high.toInt * d) :
    ∃ quotient : Int64, ofInt? (n.tdiv d) = some quotient ∧ quotient.toInt = n / d ∧
      low.toInt ≤ quotient.toInt ∧ quotient.toInt ≤ high.toInt := by
  have above : low.toInt ≤ n / d := (Int.le_ediv_iff_mul_le positive).2 above
  have below : n / d ≤ high.toInt := Int.ediv_le_of_le_mul positive below
  have fits : ofInt? (n / d) = some (Int64.ofInt (n / d)) :=
    if_pos ⟨Int.le_trans (least_le_toInt low) above, Int.le_trans below (toInt_le_greatest high)⟩
  have rounded := toInt_of_ofInt? fits
  rw [Int.tdiv_eq_ediv_of_nonneg nonneg]
  exact ⟨_, fits, rounded, rounded.symm ▸ above, rounded.symm ▸ below⟩

end Rollup.Amount
