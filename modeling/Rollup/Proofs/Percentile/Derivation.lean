import Rollup.Proofs.Histogram.Totals
import Rollup.Proofs.Percentile.RankOrder

/-!
Percentiles of any histogram without negative counts, buckets that count nothing and ranks in any
order included. The derivation is described by exact sums: the walk answers a roof at the least key
whose count, with all counts before it, comes up to the roof (`reachedAt_eq_some_iff`), and it
answers no roof above the sum of all counts (`exists_reachedAt_iff`). Main statement:
`exact_percentiles`.
-/
namespace Rollup

namespace Histogram

/-- The sum of the counts under the keys up to a key, without a limit. -/
def cumulative (entries : List (UInt64 × Int64)) (key : UInt64) : Int :=
  ((entries.filter (·.1 ≤ key)).map (·.2.toInt)).sum

theorem cumulative_cons_of_le {first key : UInt64} (h : first ≤ key) (count : Int64)
    (rest : List (UInt64 × Int64)) :
    cumulative ((first, count) :: rest) key = count.toInt + cumulative rest key := by
  rw [cumulative, List.filter_cons_of_pos (by simpa using h), List.map_cons, List.sum_cons]
  rfl

theorem cumulative_eq_zero {entries : List (UInt64 × Int64)} {key : UInt64}
    (above : ∀ entry ∈ entries, key < entry.1) : cumulative entries key = 0 := by
  have none : entries.filter (·.1 ≤ key) = [] :=
    List.filter_eq_nil_iff.2 fun entry mem => by simpa using above entry mem
  rw [cumulative, none]
  rfl

theorem cumulative_cons_self {first : UInt64} {count : Int64} {rest : List (UInt64 × Int64)}
    (above : ∀ entry ∈ rest, first < entry.1) :
    cumulative ((first, count) :: rest) first = count.toInt := by
  rw [cumulative_cons_of_le (UInt64.le_refl first), cumulative_eq_zero above, Int.add_zero]

end Histogram

namespace Percentile

open Histogram

section Walk

variable {entries : List (UInt64 × Int64)} {before roof : Int}

/-- Behind an entry that does not come up to the roof, the same keys come up to it as before. -/
theorem comes_cons_iff {first key : UInt64} {count : Int64}
    (above : ∀ entry ∈ entries, first < entry.1) (short : ¬ roof ≤ before + count.toInt) :
    (key ∈ ((first, count) :: entries).map (·.1) ∧
        roof ≤ before + cumulative ((first, count) :: entries) key) ↔
      key ∈ entries.map (·.1) ∧ roof ≤ before + count.toInt + cumulative entries key := by
  have later {key : UInt64} (mem : key ∈ entries.map (·.1)) : cumulative ((first, count) :: entries)
      key = count.toInt + cumulative entries key := by
    obtain ⟨entry, listed, rfl⟩ := List.mem_map.1 mem
    exact cumulative_cons_of_le (UInt64.le_of_lt (above entry listed)) ..
  constructor
  · rintro ⟨mem, comes⟩
    rcases List.mem_cons.1 mem with rfl | mem
    · exact absurd (cumulative_cons_self above ▸ comes) short
    · rw [later mem] at comes
      exact ⟨mem, by omega⟩
  · rintro ⟨mem, comes⟩
    refine ⟨List.mem_cons_of_mem _ mem, ?_⟩
    rw [later mem]
    omega

/-- The walk stops at the least key at which the counts come up to the roof, by induction on the
entries. -/
theorem reachedAt_eq_some_iff (ascending : entries.Pairwise fun a b => a.1 < b.1)
    {bucket : UInt64} :
    reachedAt entries before roof = some bucket ↔
      IsLeast {key | key ∈ entries.map (·.1) ∧ roof ≤ before + cumulative entries key} bucket := by
  induction entries generalizing before with
  | nil => simp [reachedAt, IsLeast]
  | cons head rest ih =>
    obtain ⟨first, count⟩ := head
    have above : ∀ entry ∈ rest, first < entry.1 := fun entry mem =>
      List.rel_of_pairwise_cons ascending mem
    rw [reachedAt]
    by_cases reached : roof ≤ before + count.toInt
    · rw [if_pos reached, Option.some.injEq]
      have least : IsLeast {key | key ∈ ((first, count) :: rest).map (·.1) ∧
          roof ≤ before + cumulative ((first, count) :: rest) key} first := by
        refine ⟨⟨List.mem_cons_self, (cumulative_cons_self above).symm ▸ reached⟩, ?_⟩
        rintro key ⟨listed, -⟩
        rcases List.mem_cons.1 listed with rfl | mem
        · exact UInt64.le_refl _
        · obtain ⟨entry, later, rfl⟩ := List.mem_map.1 mem
          exact UInt64.le_of_lt (above entry later)
      constructor
      · rintro rfl
        exact least
      · intro other
        exact UInt64.le_antisymm (least.2 other.1) (other.2 least.1)
    · rw [if_neg reached, ih ascending.of_cons]
      simp only [comes_cons_iff above reached]

theorem exists_reachedAt_iff (nonneg : ∀ entry ∈ entries, 0 ≤ entry.2) :
    (∃ bucket, reachedAt entries before roof = some bucket) ↔
      entries ≠ [] ∧ roof ≤ before + exactTotal entries := by
  induction entries generalizing before with
  | nil => simp [reachedAt]
  | cons head rest ih =>
    obtain ⟨first, count⟩ := head
    have others : ∀ entry ∈ rest, 0 ≤ entry.2 := fun entry mem =>
      nonneg entry (List.mem_cons_of_mem _ mem)
    have positive := exactTotal_nonneg others
    rw [reachedAt, exactTotal_cons]
    by_cases reached : roof ≤ before + count.toInt
    · rw [if_pos reached]
      exact ⟨fun _ => ⟨List.cons_ne_nil _ _, by omega⟩, fun _ => ⟨first, rfl⟩⟩
    · rw [if_neg reached, ih others, ← Int.add_assoc]
      constructor
      · rintro ⟨-, comes⟩
        exact ⟨List.cons_ne_nil _ _, comes⟩
      · rintro ⟨-, comes⟩
        refine ⟨?_, comes⟩
        rintro rfl
        exact reached (comes.trans_eq (Int.add_zero _))

end Walk

theorem toInt_boundOf (precision : UInt32) (bucket : UInt64) :
    (boundOf precision bucket).toInt =
      min ((bucket.toNat * precision.toNat : Nat) : Int) Amount.greatest := by
  rw [boundOf, Amount.toInt_ofClamped]
  simp only [Amount.clamp, Amount.least, Amount.greatest]
  omega

/-- The greatest roof of the ranks up to a position. -/
def peak? (percentile : Percentile) (index : Nat) : Option Int :=
  if index < percentile.ranks.length then
    ((percentile.ranks.take (index + 1)).map (roof percentile.dataset.total.toInt)).max?
  else none

/-- All observations together come up to the greatest roof at a position. -/
def Reached (percentile : Percentile) (index : Nat) : Prop :=
  ∃ peak, percentile.peak? index = some peak ∧ peak ≤ exactTotal percentile.dataset.entries

/-- The least key at which the observations come up to the greatest roof at a position. -/
def BucketAt (percentile : Percentile) (index : Nat) (bucket : UInt64) : Prop :=
  ∃ peak, percentile.peak? index = some peak ∧
    IsLeast {key | key ∈ percentile.dataset.keys ∧
      peak ≤ cumulative percentile.dataset.entries key} bucket

section Buckets

variable {percentile : Percentile}

theorem getElem?_peaks (percentile : Percentile) (index : Nat) :
    (peaks (percentile.ranks.map (roof percentile.dataset.total.toInt)))[index]? =
      percentile.peak? index := by
  ext peak
  rw [getElem?_peaks_eq_some_iff, List.length_map, ← List.map_take, peak?]
  split
  · next inside => rw [List.max?_eq_some_iff, and_iff_right inside]
  · next outside => simp [outside]

theorem getElem?_answering_eq_some_iff {index : Nat} {bucket : UInt64} :
    percentile.answering[index]? = some bucket ↔ percentile.BucketAt index bucket := by
  rw [getElem?_answering, getElem?_peaks, Option.bind_eq_some_iff]
  refine exists_congr fun peak => and_congr_right fun _ => ?_
  rw [reachedAt_eq_some_iff percentile.dataset.ascending]
  simp only [Int.zero_add]
  rfl

theorem mem_answering_iff {bucket : UInt64} :
    bucket ∈ percentile.answering ↔ ∃ index, percentile.BucketAt index bucket := by
  simp only [List.mem_iff_getElem?, getElem?_answering_eq_some_iff]

/-- A position whose greatest roof is reached has a bucket, empty ones being passed over. -/
theorem exists_bucketAt_iff (counted : percentile.dataset.Counted)
    (some : percentile.dataset.total ≠ 0) {index : Nat} :
    (∃ bucket, percentile.BucketAt index bucket) ↔ percentile.Reached index := by
  have entries : percentile.dataset.entries ≠ [] := by
    intro none
    rw [Histogram.total, Histogram.counts, none] at some
    exact some rfl
  simp only [← getElem?_answering_eq_some_iff, getElem?_answering, getElem?_peaks,
    Option.bind_eq_some_iff]
  rw [exists_comm]
  refine exists_congr fun peak => ?_
  rw [exists_and_left, exists_reachedAt_iff counted, Int.zero_add, and_iff_right entries]

theorem lt_length_answering_iff {index : Nat} :
    index < percentile.answering.length ↔ ∃ bucket, percentile.BucketAt index bucket := by
  simp only [← getElem?_answering_eq_some_iff, List.getElem?_eq_some_iff]
  exact ⟨fun inside => ⟨_, inside, rfl⟩, fun ⟨_, inside, _⟩ => inside⟩

/-- It is a bucket that answers a rank, not just any bucket, whose lower bound may overflow. -/
theorem calculate_eq_error_iff (some : percentile.dataset.total ≠ 0) {failure : Failure} :
    percentile.calculate = .error failure ↔
      failure = .crash .bucketOverflow ∧ ∃ index bucket, percentile.BucketAt index bucket ∧
        UInt64.size ≤ bucket.toNat * percentile.precision.toNat := by
  rw [calculate_eq, if_neg some]
  split
  · next fits =>
    constructor
    · intro none
      contradiction
    · rintro ⟨-, index, bucket, answers, overflows⟩
      exact absurd (fits bucket (mem_answering_iff.2 ⟨index, answers⟩)) (Nat.not_lt.2 overflows)
  · next misfit =>
    rw [Except.error.injEq]
    constructor
    · rintro rfl
      simp only [not_forall, Nat.not_lt] at misfit
      obtain ⟨bucket, mem, overflows⟩ := misfit
      obtain ⟨index, answers⟩ := mem_answering_iff.1 mem
      exact ⟨rfl, index, bucket, answers, overflows⟩
    · rintro ⟨rfl, -⟩
      rfl

end Buckets

/-- Let the roof of a position be the greatest one of the ranks up to there, each rank's share of
the total, which is the exact sum of the counts or the greatest amount. Unless the total is zero the
positions whose roof is within the exact sum are the first ones, and they have a value: the lower
bound of the least key at which the counts come up to the roof. Deriving fails only if one of these
bounds overflows, and values from before leave no trace. Positions are kept as 64-bit keys, and no
list of ranks in memory is longer than there are such keys. -/
theorem exact_percentiles {percentile : Percentile} (counted : percentile.dataset.Counted)
    (addressable : percentile.ranks.length ≤ UInt64.size) :
    percentile.dataset.total.toInt =
      min (exactTotal percentile.dataset.entries) Amount.greatest ∧
    (∀ values, ({ percentile with values := values } : Percentile).calculate =
      percentile.calculate) ∧
    (percentile.dataset.total = 0 →
      percentile.calculate = .ok { percentile with values := .empty }) ∧
    (percentile.dataset.total ≠ 0 →
      (∀ index, percentile.Reached index ↔ ∃ bucket, percentile.BucketAt index bucket) ∧
      (∀ earlier index, earlier ≤ index → percentile.Reached index →
        percentile.Reached earlier) ∧
      (∀ failure, percentile.calculate = .error failure ↔
        failure = .crash .bucketOverflow ∧ ∃ index bucket, percentile.BucketAt index bucket ∧
          UInt64.size ≤ bucket.toNat * percentile.precision.toNat) ∧
      ∀ derived, percentile.calculate = .ok derived →
        derived = { percentile with values := derived.values } ∧
        (∀ index, derived.values.contains index = true ↔ percentile.Reached index.toNat) ∧
        ∀ index bucket, percentile.BucketAt index.toNat bucket → ∃ bound,
          derived.values.get? index = some bound ∧ bound.toInt =
            min ((bucket.toNat * percentile.precision.toNat : Nat) : Int) Amount.greatest) := by
  refine ⟨counted.toInt_total, fun _ => rfl, fun zero => ?_, fun some => ?_⟩
  · rw [calculate_eq, if_pos zero]
  have reached (index : Nat) : index < percentile.answering.length ↔ percentile.Reached index := by
    rw [lt_length_answering_iff, exists_bucketAt_iff counted some]
  refine ⟨fun index => (exists_bucketAt_iff counted some).symm, fun earlier index before => ?_,
    fun failure => calculate_eq_error_iff some, fun derived calculated => ?_⟩
  · rw [← reached, ← reached]
    exact Nat.lt_of_le_of_lt before
  have get := get?_of_calculate some addressable calculated
  refine ⟨eq_of_calculate calculated, fun index => ?_, fun index bucket answers => ?_⟩
  · rw [contains, get, Option.isSome_map, Option.isSome_iff_exists,
      ← exists_bucketAt_iff counted some]
    exact exists_congr fun bucket => getElem?_answering_eq_some_iff
  · refine ⟨boundOf percentile.precision bucket, ?_, toInt_boundOf ..⟩
    rw [get, getElem?_answering_eq_some_iff.2 answers, Option.map_some]

/-- Ranks below zero and above a hundred, an empty bucket, and a last bucket so high that its lower
bound is clamped at width one and overflows at width three. -/
theorem exact_percentiles_unordered :
    let dataset := Histogram.ofList [(1, 2), (3, 0), (7, 3), (9223372036854775808, 5)]
    let narrow : Percentile := ⟨1, dataset, .ofList [(9, 9)], [50, -20, 20, 100, 200, 10]⟩
    let wide : Percentile := { narrow with precision := 3 }
    narrow.Reached 3 ∧ ¬ narrow.Reached 4 ∧ wide.calculate = .error (.crash .bucketOverflow) ∧
      narrow.calculate = .ok { narrow with
        values := .ofList [(0, 7), (1, 7), (2, 7), (3, 9223372036854775807)] } := by
  intro dataset narrow wide
  have counted : dataset.Counted := Histogram.counted_ofList (by simp)
  have some : dataset.total ≠ 0 := by decide +kernel
  have calculated : narrow.calculate = .ok { narrow with
      values := .ofList [(0, 7), (1, 7), (2, 7), (3, 9223372036854775807)] } := by decide +kernel
  obtain ⟨-, -, -, derived⟩ := @exact_percentiles narrow counted (by decide)
  obtain ⟨buckets, -, -, values⟩ := derived some
  obtain ⟨-, present, bounds⟩ := values _ calculated
  have reached : narrow.Reached 3 := (present 3).1 (by decide +kernel)
  have unreached : ¬ narrow.Reached 4 := fun reached =>
    absurd ((present 4).2 reached) (by decide +kernel)
  obtain ⟨bucket, answers⟩ := (buckets 3).1 reached
  obtain ⟨bound, shown, least⟩ := bounds 3 bucket answers
  have last : bound = 9223372036854775807 := by
    apply Option.some.inj
    rw [← shown]
    decide +kernel
  have high : 9223372036854775807 ≤ bucket.toNat := by
    rw [last] at least
    have width : narrow.precision.toNat = 1 := rfl
    have greatest : (9223372036854775807 : Int64).toInt = 9223372036854775807 := by decide +kernel
    rw [width, greatest] at least
    omega
  have anyWidth (percentile : Percentile) (precision : UInt32) (index : Nat) :
      percentile.BucketAt index bucket →
        ({ percentile with precision := precision } : Percentile).BucketAt index bucket := id
  obtain ⟨-, -, -, derived⟩ := @exact_percentiles wide counted (by decide)
  obtain ⟨-, -, fails, -⟩ := derived some
  refine ⟨reached, unreached, (fails _).2 ⟨rfl, 3, bucket, anyWidth narrow 3 3 answers, ?_⟩,
    calculated⟩
  have three : wide.precision.toNat = 3 := rfl
  rw [three, UInt64.size]
  omega

end Percentile

end Rollup
