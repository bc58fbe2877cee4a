import Rollup.Proofs.Percentile.OrderStatistics

/-!
Values that were really observed. A record that observed values counts only the buckets of these
(`Accounts.exists_observed`), so its percentiles can be calculated, and each is the lower bound of
the bucket of an observation. Main statement: `merged_values_observed`, this outlives a merge of
records with buckets of one width. Merging does not look at the width: buckets of another one would
be taken for others.
-/
namespace Rollup

namespace Percentile

variable {precision : UInt32} {feeds : List Feed} {percentile : Percentile}

theorem Accounts.exists_observed (accounts : percentile.Accounts precision feeds)
    {entry : UInt64 × Int64} (mem : entry ∈ percentile.dataset.entries) :
    ∃ value, .observed value ∈ feeds ∧ entry.1 = bucketOf precision value := by
  obtain ⟨bucket, count⟩ := entry
  rw [Histogram.mem_entries_iff, accounts.2, Histogram.tally] at mem
  split at mem
  · contradiction
  · next hit =>
    obtain ⟨feed, listed, fell⟩ :=
      List.mem_filterMap.1 (List.count_pos_iff.1 (Nat.pos_of_ne_zero hit))
    cases feed <;> simp only [Feed.bucket?, reduceCtorEq, Option.some.injEq] at fell
    case observed value =>
      exact ⟨value, listed, UInt64.toNat_inj.1 (fell.symm.trans (toNat_bucketOf _ value).symm)⟩

theorem exists_bounds {entries : List (UInt64 × Int64)}
    (h : ∀ entry ∈ entries, ∃ bound, lowerBound precision entry.1 = .ok bound) (before : Int)
    (roofs : List Int) : ∃ found, bounds precision entries before roofs = .ok found := by
  induction entries generalizing before roofs with
  | nil => exact ⟨[], rfl⟩
  | cons entry rest ih =>
    obtain ⟨bucket, count⟩ := entry
    obtain ⟨bound, lower⟩ := h _ List.mem_cons_self
    obtain ⟨later, found⟩ := ih (fun e mem => h e (List.mem_cons_of_mem _ mem))
      (before + count.toInt) (roofs.dropWhile (· ≤ before + count.toInt))
    simp only at lower
    rw [bounds, lower, found]
    split <;> exact ⟨_, rfl⟩

/-- Only buckets that a value fell into are counted, and their lower bounds do not overflow. -/
theorem exists_calculate (accounts : percentile.Accounts precision feeds) :
    ∃ derived, percentile.calculate = .ok derived := by
  have lower : ∀ entry ∈ percentile.dataset.entries,
      ∃ bound, lowerBound percentile.precision entry.1 = .ok bound := by
    intro entry mem
    obtain ⟨value, -, same⟩ := accounts.exists_observed mem
    exact ⟨_, by rw [accounts.1, same, lowerBound_bucketOf]⟩
  rw [calculate]
  split
  · exact ⟨_, rfl⟩
  · obtain ⟨found, eq⟩ := exists_bounds lower 0
      (percentile.ranks.map (roof percentile.dataset.total.toInt))
    exact ⟨_, Except.bind_eq_ok_iff.2 ⟨found, eq, rfl⟩⟩

theorem Accounts.exists_floorOf (accounts : percentile.Accounts precision feeds)
    {derived : Percentile} (calculated : percentile.calculate = .ok derived) {index : UInt64}
    {amount : Int64} (shown : derived.values.get? index = some amount) :
    ∃ value, .observed value ∈ feeds ∧ amount = floorOf precision value := by
  obtain ⟨entry, mem, lower⟩ := exists_of_calculate calculated shown
  obtain ⟨value, listed, same⟩ := accounts.exists_observed mem
  rw [accounts.1, same, lowerBound_bucketOf] at lower
  exact ⟨value, listed, (Except.ok.inj lower).symm⟩

/-- A floor that fits was not clamped. -/
theorem toInt_floorOf_of_lt {value : UInt64}
    (low : (floorOf precision value).toInt < Amount.greatest) :
    (floorOf precision value).toInt =
      (precision.toNat * (value.toNat / precision.toNat) : Nat) := by
  rw [toInt_floorOf] at low ⊢
  omega

theorem dvd_floorOf {value : UInt64} (low : (floorOf precision value).toInt < Amount.greatest) :
    (precision.toNat : Int) ∣ (floorOf precision value).toInt := by
  rw [toInt_floorOf_of_lt low, Int.natCast_dvd_natCast]
  exact Nat.dvd_mul_right _ _

theorem mem_bucket_of_floorOf (positive : 1 ≤ precision) {value : UInt64}
    (low : (floorOf precision value).toInt < Amount.greatest) :
    (floorOf precision value).toInt ≤ value.toNat ∧
      value.toNat < (floorOf precision value).toInt + precision.toNat := by
  have width : 0 < precision.toNat := UInt32.le_iff_toNat_le.1 positive
  have parts := Nat.div_add_mod value.toNat precision.toNat
  have rest := Nat.mod_lt value.toNat width
  rw [toInt_floorOf_of_lt low]
  omega

/-- The width of the buckets of a record that is made with a precision. -/
def width (precision : UInt32) : UInt32 :=
  if precision = 0 then 1 else precision

theorem one_le_width (precision : UInt32) : 1 ≤ width precision := by
  rw [width, UInt32.le_iff_toNat_le]
  split
  · exact Nat.le_refl _
  · next nonzero =>
    refine Nat.pos_of_ne_zero fun zero => nonzero ?_
    exact UInt32.toNat_inj.1 zero

theorem empty_width (precision : UInt32) (ranks : List Int32) :
    empty (width precision) ranks = empty precision ranks := by
  simp only [empty, width]
  split <;> simp_all

/-- A record that observed nothing may have buckets of any width. -/
theorem Accounts.merge {other : Percentile} {otherPrecision : UInt32} {others : List Feed}
    (accounts : percentile.Accounts precision feeds)
    (otherAccounts : other.Accounts otherPrecision others)
    (alike : others ≠ [] → precision = otherPrecision) :
    (percentile.merge other).Accounts precision (feeds ++ others) := by
  by_cases idle : others = []
  · subst idle
    refine ⟨accounts.1, fun bucket => ?_⟩
    have none : other.dataset.get? bucket = none := otherAccounts.2 bucket
    rw [Percentile.merge, Histogram.get?_append, none, Option.merge_none_right, accounts.2,
      List.append_nil]
  · obtain rfl := alike idle
    exact accounts_merge accounts otherAccounts

end Percentile

open Percentile

theorem Shard.observed_record (precision : UInt32) (key : Record.Key) (ranks : List Int32)
    (values : List UInt64) :
    ∃ percentile : Percentile,
      (Shard.mk key ranks (values.map .observed)).record .percentile precision =
        .ok ⟨key, .percentile percentile⟩ ∧
      percentile.Accounts (width precision) (values.map .observed) := by
  obtain ⟨percentile, made, accounts, -⟩ :=
    Shard.percentile_record (one_le_width precision) key ranks values
  refine ⟨percentile, ?_, accounts⟩
  rw [← made]
  simp only [Shard.record, Record.empty, Measure.empty, empty_width]

/-- Two records of one width are merged. What is then calculated are lower bounds of buckets, as
long as they fit, and each of these buckets holds a value that one of the two observed. -/
theorem merged_values_observed {precision otherPrecision : UInt32} (key otherKey : Record.Key)
    (ranks otherRanks : List Int32) {values others : List UInt64}
    (alike : others ≠ [] → width precision = width otherPrecision) :
    ∃ record other merged : Record, ∃ derived : Percentile,
      (Shard.mk key ranks (values.map .observed)).record .percentile precision = .ok record ∧
      (Shard.mk otherKey otherRanks (others.map .observed)).record .percentile otherPrecision =
        .ok other ∧
      record.combine other = .ok merged ∧ merged.calculate = .ok ⟨key, .percentile derived⟩ ∧
      derived.precision = width precision ∧
      ∀ index amount, derived.values.get? index = some amount → amount.toInt < Amount.greatest →
        (derived.precision.toNat : Int) ∣ amount.toInt ∧
        ∃ value ∈ values ++ others, amount.toInt ≤ value.toNat ∧
          value.toNat < amount.toInt + derived.precision.toNat := by
  obtain ⟨own, made, accounts⟩ := Shard.observed_record precision key ranks values
  obtain ⟨taken, madeOther, accountsOther⟩ :=
    Shard.observed_record otherPrecision otherKey otherRanks others
  have all := accounts.merge accountsOther fun some => alike (by simpa using some)
  obtain ⟨derived, calculated⟩ := exists_calculate all
  have kept : derived.precision = width precision := by
    rw [eq_of_calculate calculated]
    exact all.1
  refine ⟨_, _, ⟨key, .percentile (own.merge taken)⟩, derived, made, madeOther, rfl, ?_, kept, ?_⟩
  · simp only [Record.calculate, Measure.calculate, calculated]
    rfl
  · intro index amount shown low
    obtain ⟨value, mem, rfl⟩ := all.exists_floorOf calculated shown
    rw [← List.map_append, List.mem_map] at mem
    obtain ⟨_, listed, same⟩ := mem
    cases same
    rw [kept]
    exact ⟨dvd_floorOf low, value, listed, mem_bucket_of_floorOf (one_le_width precision) low⟩

/-- The median of three values that two records with buckets of ten observed. -/
theorem merged_values_observed_tens :
    let key : Record.Key := ⟨"a", none, 202401011200⟩
    ∃ record other merged : Record, ∃ derived : Percentile,
      (Shard.mk key [50, 99] ([31, 7].map .observed)).record .percentile 10 = .ok record ∧
      (Shard.mk key [] ([12].map .observed)).record .percentile 10 = .ok other ∧
      record.combine other = .ok merged ∧ merged.calculate = .ok ⟨key, .percentile derived⟩ ∧
      derived.values.get? 0 = some 10 ∧
      ∃ value ∈ ([31, 7, 12] : List UInt64), 10 ≤ value.toNat ∧ value.toNat < 20 := by
  intro key
  obtain ⟨record, other, merged, derived, made, madeOther, combined, calculated, kept, values⟩ :=
    @merged_values_observed 10 10 key key [50, 99] [] [31, 7] [12] fun _ => rfl
  have run : (do
      let record ← (Shard.mk key [50, 99] ([31, 7].map .observed)).record .percentile 10
      let other ← (Shard.mk key [] ([12].map .observed)).record .percentile 10
      let merged ← record.combine other
      merged.calculate) = Except.ok ⟨key, .percentile
        ⟨10, .ofList [(0, 1), (1, 1), (3, 1)], .ofList [(0, 10), (1, 30)], [50, 99]⟩⟩ := by
    decide +kernel
  rw [made, Except.ok_bind, madeOther, Except.ok_bind, combined] at run
  cases calculated.symm.trans run
  obtain ⟨-, value, mem, above, below⟩ := values 0 10 (by decide) (by decide)
  exact ⟨record, other, merged, _, made, madeOther, combined, calculated, by decide, value, mem,
    by simpa using above, by simpa using below⟩

/-- A bucket that stands for 100 where values are counted one by one stands for 1000 in buckets of
ten; nothing like that was observed. With buckets of two, the greatest value is not even a bucket
any more, and the calculation crashes. -/
theorem merged_widths_mislead :
    let key : Record.Key := ⟨"a", none, 202401011200⟩
    let calculated (precision : UInt32) (value : UInt64) : Outcome Record := do
      let record ← (Shard.mk key [50, 99] [.observed 5]).record .percentile precision
      let other ← (Shard.mk key [50, 99] [.observed value]).record .percentile 1
      let merged ← record.combine other
      merged.calculate
    calculated 10 100 = .ok ⟨key, .percentile
        ⟨10, .ofList [(0, 1), (100, 1)], .ofList [(0, 0), (1, 1000)], [50, 99]⟩⟩ ∧
      calculated 2 18446744073709551615 = .error (.crash .bucketOverflow) := by
  decide +kernel

end Rollup
