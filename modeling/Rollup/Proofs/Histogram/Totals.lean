import Rollup.Proofs.Histogram.Codec

/-!
Sums over histograms without negative counts. The total is the exact sum of the counts with one
limit at the end (`Counted.toInt_total`), wherever the running sum or a count on the way stopped.
Appending adds the counts of every key and the totals: `append_adds`.
-/
namespace Rollup.Histogram

/-- The sum of all counts, without a limit. -/
def exactTotal (entries : List (UInt64 × Int64)) : Int :=
  (entries.map (·.2.toInt)).sum

theorem exactTotal_cons (key : UInt64) (count : Int64) (rest : List (UInt64 × Int64)) :
    exactTotal ((key, count) :: rest) = count.toInt + exactTotal rest :=
  List.sum_cons

theorem exactTotal_nonneg {entries : List (UInt64 × Int64)} (h : ∀ entry ∈ entries, 0 ≤ entry.2) :
    0 ≤ exactTotal entries :=
  Amount.sum_map_nonneg fun entry mem => Amount.nonneg_iff.1 (h entry mem)

/-- The total is the exact sum unless that is too great for an amount. -/
theorem Counted.toInt_total {histogram : Histogram} (counted : histogram.Counted) :
    histogram.total.toInt = min (exactTotal histogram.entries) Amount.greatest := by
  have nonneg : ∀ count ∈ histogram.counts, 0 ≤ count.toInt :=
    List.forall_mem_map.2 fun entry mem => Amount.nonneg_iff.1 (counted entry mem)
  have sum : (histogram.counts.map Int64.toInt).sum = exactTotal histogram.entries := by
    rw [counts, List.map_map]
    rfl
  rw [total, Amount.toInt_total nonneg, sum, Amount.clamp_of_nonneg (exactTotal_nonneg counted)]

/-- Adding to one count adds as much to the exact sum, except beyond the limit: where the count
stops, the sum is past the limit too. -/
theorem clamp_exactTotal_alterEntries {entries : List (UInt64 × Int64)}
    (h : ∀ entry ∈ entries, 0 ≤ entry.2) (key : UInt64) {delta : Int64} (nonneg : 0 ≤ delta) :
    Amount.clamp (exactTotal (alterEntries key (fun count => Amount.add (count.getD 0) delta)
      entries)) = Amount.clamp (exactTotal entries + delta.toInt) := by
  rw [Amount.nonneg_iff] at nonneg
  induction entries with
  | nil => simp [alterEntries, exactTotal, Amount.zero_add]
  | cons head rest ih =>
    obtain ⟨k, count⟩ := head
    have first : 0 ≤ count.toInt := Amount.nonneg_iff.1 (h (k, count) List.mem_cons_self)
    have others := fun entry mem => h entry (List.mem_cons_of_mem (k, count) mem)
    have later : 0 ≤ exactTotal rest := exactTotal_nonneg others
    simp only [alterEntries]
    split
    · rw [exactTotal_cons, Option.getD_none, Amount.zero_add, Int.add_comm]
    · split
      · rw [exactTotal_cons, exactTotal_cons, Option.getD_some, Amount.toInt_add]
        simp only [Amount.clamp, Amount.least, Amount.greatest]
        omega
      · have rest := ih others
        rw [exactTotal_cons, exactTotal_cons]
        simp only [Amount.clamp, Amount.least, Amount.greatest] at rest ⊢
        omega

theorem Counted.clamp_exactTotal_increment {histogram : Histogram} (counted : histogram.Counted)
    (key : UInt64) {delta : Int64} (nonneg : 0 ≤ delta) :
    Amount.clamp (exactTotal (histogram.increment key delta).entries) =
      Amount.clamp (exactTotal histogram.entries + delta.toInt) :=
  clamp_exactTotal_alterEntries counted key nonneg

/-- By induction on the entries added: the limit may be applied behind each of them. -/
theorem Counted.clamp_exactTotal_foldl {entries : List (UInt64 × Int64)}
    (h : ∀ entry ∈ entries, 0 ≤ entry.2) {histogram : Histogram} (counted : histogram.Counted) :
    Amount.clamp (exactTotal
      (entries.foldl (fun sum (key, count) => sum.increment key count) histogram).entries) =
      Amount.clamp (exactTotal histogram.entries + exactTotal entries) := by
  induction entries generalizing histogram with
  | nil => simp [exactTotal]
  | cons head rest ih =>
    obtain ⟨key, count⟩ := head
    have first : 0 ≤ count := h (key, count) List.mem_cons_self
    have others := fun entry mem => h entry (List.mem_cons_of_mem (key, count) mem)
    have next : (histogram.increment key count).Counted := counted.increment key first
    have before := exactTotal_nonneg counted
    have later := exactTotal_nonneg others
    calc Amount.clamp (exactTotal (rest.foldl (fun sum (key, count) => sum.increment key count)
          (histogram.increment key count)).entries)
      _ = Amount.clamp (exactTotal (histogram.increment key count).entries + exactTotal rest) :=
        ih others next
      _ = Amount.clamp (Amount.clamp (exactTotal (histogram.increment key count).entries) +
            Amount.clamp (exactTotal rest)) :=
        (Amount.clamp_add_clamp (exactTotal_nonneg next) later).symm
      _ = Amount.clamp (exactTotal histogram.entries + count.toInt + exactTotal rest) := by
        rw [counted.clamp_exactTotal_increment key first,
          Amount.clamp_add_clamp (Int.add_nonneg before (Amount.nonneg_iff.1 first)) later]
      _ = Amount.clamp (exactTotal histogram.entries + exactTotal ((key, count) :: rest)) := by
        rw [exactTotal_cons, Int.add_assoc]

section Append

variable {a b c : Histogram}

theorem Counted.count_nonneg (counted : a.Counted) (key : UInt64) : 0 ≤ a.count key := by
  rw [count]
  cases held : a.get? key with
  | none => decide
  | some found => exact counted (key, found) (mem_entries_iff.2 held)

theorem Counted.toInt_total_append (ha : a.Counted) (hb : b.Counted) :
    (a.append b).total.toInt =
      min (exactTotal a.entries + exactTotal b.entries) Amount.greatest := by
  have sum := Int.add_nonneg (exactTotal_nonneg ha) (exactTotal_nonneg hb)
  rw [(ha.append hb).toInt_total, ← Amount.clamp_of_nonneg (exactTotal_nonneg (ha.append hb)),
    ← Amount.clamp_of_nonneg sum]
  exact ha.clamp_exactTotal_foldl hb

theorem contains_append (a b : Histogram) (key : UInt64) :
    (a.append b).contains key = (a.contains key || b.contains key) := by
  rw [contains, get?_append, contains, contains]
  cases a.get? key <;> cases b.get? key <;> rfl

theorem count_append (a b : Histogram) (key : UInt64) :
    (a.append b).count key = Amount.add (a.count key) (b.count key) := by
  rw [count, get?_append, count, count]
  cases a.get? key <;> cases b.get? key <;> simp [Amount.zero_add, Amount.add_zero]

/-- Histograms with the same keys and the same counts are equal. A key may be there with a count of
zero, so the counts alone do not tell. -/
theorem eq_of_count (keys : ∀ key, a.contains key = b.contains key)
    (counts : ∀ key, a.count key = b.count key) : a = b := by
  apply eq_of_get?
  intro key
  have keys := keys key
  have counts := counts key
  simp only [contains, count] at keys counts
  cases left : a.get? key <;> cases right : b.get? key <;> simp_all

theorem append_comm (a b : Histogram) : a.append b = b.append a := by
  refine eq_of_count (fun key => ?_) fun key => ?_
  · rw [contains_append, contains_append, Bool.or_comm]
  · rw [count_append, count_append, Amount.add_comm]

theorem Counted.append_assoc (ha : a.Counted) (hb : b.Counted) (hc : c.Counted) :
    (a.append b).append c = a.append (b.append c) := by
  refine eq_of_count (fun key => ?_) fun key => ?_
  · simp only [contains_append, Bool.or_assoc]
  · simp only [count_append]
    exact Amount.add_assoc (ha.count_nonneg key) (hb.count_nonneg key) (hc.count_nonneg key)

/-- Appending keeps the keys of both histograms and adds up their counts, each with the limit of an
amount. Without negative counts it does not matter which is appended to which and in what grouping,
and the total adds up with the same limit, as if the exact sum of all counts were limited once. -/
theorem append_adds (ha : a.Counted) (hb : b.Counted) (hc : c.Counted) :
    (a.append b).Counted ∧
    (∀ key, (a.append b).contains key = (a.contains key || b.contains key)) ∧
    (∀ key, ((a.append b).count key).toInt =
      min ((a.count key).toInt + (b.count key).toInt) Amount.greatest) ∧
    a.append b = b.append a ∧
    (a.append b).append c = a.append (b.append c) ∧
    a.append empty = a ∧ empty.append a = a ∧
    (a.append b).total.toInt = min (a.total.toInt + b.total.toInt) Amount.greatest ∧
    (a.append b).total.toInt =
      min (exactTotal a.entries + exactTotal b.entries) Amount.greatest ∧
    a.total.toInt = min (exactTotal a.entries) Amount.greatest := by
  have once := ha.toInt_total_append hb
  have low := And.intro (exactTotal_nonneg ha) (exactTotal_nonneg hb)
  refine ⟨ha.append hb, contains_append a b, fun key => ?_, append_comm a b, ha.append_assoc hb hc,
    append_empty a, empty_append a, ?_, once, ha.toInt_total⟩
  · rw [count_append, Amount.toInt_add_of_nonneg (ha.count_nonneg key) (hb.count_nonneg key)]
  · rw [once, ha.toInt_total, hb.toInt_total]
    simp only [Amount.greatest]
    omega

/-- One count is at the limit, so the sum stops inside that bucket and again across buckets. -/
theorem append_adds_past_limit :
    let a := ofList [(1, 9223372036854775807), (2, 3)]
    let b := ofList [(1, 1), (7, 0)]
    let c := ofList [(2, 4)]
    (a.append b).append c = ofList [(1, 9223372036854775807), (2, 7), (7, 0)] ∧
      (a.append b).append c = a.append (b.append c) ∧
      (a.append b).total.toInt = min (a.total.toInt + b.total.toInt) Amount.greatest ∧
      a.total.toInt + b.total.toInt = 9223372036854775808 := by
  intro a b c
  have ha : a.Counted := counted_ofList (by simp)
  have hb : b.Counted := counted_ofList (by simp)
  have hc : c.Counted := counted_ofList (by simp)
  obtain ⟨-, -, -, -, grouping, -, -, total, -⟩ := append_adds ha hb hc
  exact ⟨by decide +kernel, grouping, total, by decide +kernel⟩

end Append

end Rollup.Histogram
