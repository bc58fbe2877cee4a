import Rollup.Proofs.Percentile.Cursor
import Rollup.Proofs.Record.Sharding
import Mathlib

/-!
Percentiles as order statistics. The buckets of a histogram, each repeated as often as it was hit,
are the buckets of the sorted observations; so the bucket at which the count comes up to a roof is
the bucket of the observation at that place of the sorted list.
-/
namespace Rollup.Percentile

/-- The k-th smallest of some values, counted from one. -/
def orderStatistic? (values : List UInt64) (k : Nat) : Option UInt64 :=
  (values.mergeSort (· ≤ ·))[k - 1]?

/-- Every bucket as often as its count says. -/
def expand (entries : List (UInt64 × Int64)) : List UInt64 :=
  entries.flatMap fun (bucket, count) => List.replicate count.toInt.toNat bucket

theorem expand_cons (bucket : UInt64) (count : Int64) (rest : List (UInt64 × Int64)) :
    expand ((bucket, count) :: rest) =
      List.replicate count.toInt.toNat bucket ++ expand rest :=
  List.flatMap_cons

/-- With no empty bucket, the walk comes up to a roof at that place of the repeated buckets; a roof
below one is reached at the first of them. -/
theorem reachedAt_eq_getElem? {entries : List (UInt64 × Int64)}
    (positive : ∀ e ∈ entries, 0 < e.2.toInt) (before roof : Int) :
    reachedAt entries before roof = (expand entries)[(max 1 (roof - before)).toNat - 1]? := by
  induction entries generalizing before with
  | nil => rfl
  | cons head rest ih =>
    obtain ⟨bucket, count⟩ := head
    have some : 0 < count.toInt := positive (bucket, count) List.mem_cons_self
    rw [expand_cons, reachedAt, List.getElem?_append, List.length_replicate]
    by_cases reached : roof ≤ before + count.toInt
    · rw [if_pos reached, if_pos (by omega), List.getElem?_replicate, if_pos (by omega)]
    · have others := ih fun e mem => positive e (List.mem_cons_of_mem _ mem)
      rw [if_neg reached, if_neg (by omega), others]
      congr 1
      omega

theorem mem_expand {entries : List (UInt64 × Int64)} {bucket : UInt64}
    (h : bucket ∈ expand entries) : ∃ e ∈ entries, e.1 = bucket := by
  obtain ⟨e, mem, h⟩ := List.mem_flatMap.1 h
  exact ⟨e, mem, (List.eq_of_mem_replicate h).symm⟩

theorem expand_sorted {entries : List (UInt64 × Int64)}
    (ascending : entries.Pairwise fun a b => a.1 < b.1) : (expand entries).Pairwise (· ≤ ·) := by
  induction entries with
  | nil => exact .nil
  | cons head rest ih =>
    obtain ⟨bucket, count⟩ := head
    rw [expand_cons, List.pairwise_append]
    refine ⟨List.pairwise_replicate.2 (.inr (UInt64.le_refl bucket)), ih ascending.of_cons, ?_⟩
    intro a ha b hb
    obtain ⟨e, mem, rfl⟩ := mem_expand hb
    rw [List.eq_of_mem_replicate ha]
    exact UInt64.le_of_lt (List.rel_of_pairwise_cons ascending mem)

theorem count_expand {entries : List (UInt64 × Int64)}
    (ascending : entries.Pairwise fun a b => a.1 < b.1) (bucket : UInt64) :
    (expand entries).count bucket = ((entries.lookup bucket).map (·.toInt.toNat)).getD 0 := by
  induction entries with
  | nil => rfl
  | cons head rest ih =>
    obtain ⟨k, count⟩ := head
    rw [expand_cons, List.count_append, List.count_replicate, ih ascending.of_cons]
    by_cases same : bucket = k
    · subst same
      have absent : rest.lookup bucket = none := Histogram.lookup_eq_none_of_lt fun e mem =>
        List.rel_of_pairwise_cons ascending mem
      simp [absent]
    · rw [Histogram.lookup_cons_of_ne same]
      simp [Ne.symm same]

theorem length_expand {entries : List (UInt64 × Int64)}
    (nonneg : ∀ e ∈ entries, 0 ≤ e.2.toInt) :
    ((expand entries).length : Int) = (entries.map fun e => e.2.toInt).sum := by
  induction entries with
  | nil => rfl
  | cons head rest ih =>
    have first := nonneg head List.mem_cons_self
    have others := ih fun e mem => nonneg e (List.mem_cons_of_mem _ mem)
    rw [expand_cons, List.length_append, List.length_replicate, List.map_cons, List.sum_cons,
      ← others]
    omega

def bucketOf (precision : UInt32) (value : UInt64) : UInt64 :=
  UInt64.ofNat (value.toNat / precision.toNat)

theorem toNat_bucketOf (precision : UInt32) (value : UInt64) :
    (bucketOf precision value).toNat = value.toNat / precision.toNat :=
  UInt64.toNat_ofNat_of_lt' (Nat.lt_of_le_of_lt (Nat.div_le_self ..) value.toNat_lt)

theorem bucketOf_le_bucketOf (precision : UInt32) {a b : UInt64} (h : a ≤ b) :
    bucketOf precision a ≤ bucketOf precision b := by
  rw [UInt64.le_iff_toNat_le, toNat_bucketOf, toNat_bucketOf]
  exact Nat.div_le_div_right (UInt64.le_iff_toNat_le.1 h)

/-- The lower bound of the bucket of a value, at most the greatest amount. -/
def floorOf (precision : UInt32) (value : UInt64) : Int64 :=
  Amount.ofClamped ((value.toNat / precision.toNat * precision.toNat : Nat) : Int)

theorem toInt_floorOf (precision : UInt32) (value : UInt64) :
    (floorOf precision value).toInt =
      min ((precision.toNat * (value.toNat / precision.toNat) : Nat) : Int) Amount.greatest := by
  have nonneg := Int.natCast_nonneg (precision.toNat * (value.toNat / precision.toNat))
  rw [floorOf, Amount.toInt_ofClamped, Nat.mul_comm]
  simp only [Amount.clamp, Amount.least, Amount.greatest]
  omega

/-- A bucket's lower bound is not above the values in it, so it never overflows. -/
theorem lowerBound_bucketOf (precision : UInt32) (value : UInt64) :
    lowerBound precision (bucketOf precision value) = .ok (floorOf precision value) := by
  have fits : value.toNat / precision.toNat * precision.toNat < UInt64.size :=
    Nat.lt_of_le_of_lt (Nat.div_mul_le_self ..) value.toNat_lt
  simp only [lowerBound, toNat_bucketOf, if_pos fits, floorOf]

section Observed

variable {precision : UInt32} {values : List UInt64} {percentile : Percentile}

/-- The dataset counts, for each bucket, the values in it; there are too few of them to reach the
limit. -/
theorem Accounts.get?_eq (h : percentile.Accounts precision (values.map .observed))
    (bucket : UInt64) :
    percentile.dataset.get? bucket =
      Histogram.tally ((values.map (bucketOf precision)).count bucket) := by
  have buckets : (values.map Feed.observed).filterMap (Feed.bucket? precision) =
      (values.map (bucketOf precision)).map UInt64.toNat := by
    rw [List.filterMap_map, List.map_map, ← List.filterMap_eq_map]
    congr 1
    funext value
    exact congrArg some (toNat_bucketOf precision value).symm
  rw [h.2 bucket, buckets, List.count_map_of_injective _ UInt64.toNat fun _ _ => UInt64.toNat_inj.1]

theorem toInt_ofClamped_count (few : values.length < 2 ^ 63) (bucket : UInt64) :
    (Amount.ofClamped ((values.map (bucketOf precision)).count bucket)).toInt =
      (values.map (bucketOf precision)).count bucket := by
  have bound : (values.map (bucketOf precision)).count bucket ≤ values.length := by
    rw [← List.length_map (bucketOf precision)]
    exact List.count_le_length
  rw [Amount.toInt_ofClamped]
  exact Amount.clamp_of_mem (by simp only [Amount.least]; omega)
    (by simp only [Amount.greatest]; omega)

theorem Accounts.count_pos (h : percentile.Accounts precision (values.map .observed))
    (few : values.length < 2 ^ 63) : ∀ e ∈ percentile.dataset.entries, 0 < e.2.toInt := by
  rintro ⟨bucket, count⟩ mem
  rw [Histogram.mem_entries_iff, h.get?_eq, Histogram.tally] at mem
  split at mem
  · contradiction
  · next some =>
    cases mem
    rw [toInt_ofClamped_count few]
    omega

theorem Accounts.expand_perm (h : percentile.Accounts precision (values.map .observed))
    (few : values.length < 2 ^ 63) :
    (expand percentile.dataset.entries).Perm (values.map (bucketOf precision)) := by
  rw [List.perm_iff_count]
  intro bucket
  have found := h.get?_eq bucket
  rw [Histogram.get?] at found
  rw [count_expand percentile.dataset.ascending, found, Histogram.tally]
  split
  · next none => simp [none]
  · have exact := @toInt_ofClamped_count precision values few bucket
    simp only [Option.map_some, Option.getD_some, exact, Int.toNat_natCast]

/-- The repeated buckets are the buckets of the sorted values. -/
theorem Accounts.expand_eq (h : percentile.Accounts precision (values.map .observed))
    (few : values.length < 2 ^ 63) :
    expand percentile.dataset.entries =
      (values.mergeSort (· ≤ ·)).map (bucketOf precision) := by
  have sorted : (values.mergeSort (· ≤ ·)).Pairwise (· ≤ ·) := by
    have sorted := @List.pairwise_mergeSort UInt64 (fun a b => decide (a ≤ b))
      (fun a b c => by simpa using UInt64.le_trans) (fun a b => by simpa using UInt64.le_total a b)
      values
    simpa using sorted
  refine List.Perm.eq_of_pairwise (fun a b _ _ => UInt64.le_antisymm)
    (expand_sorted percentile.dataset.ascending)
    (List.pairwise_map.2 (sorted.imp (bucketOf_le_bucketOf precision))) ?_
  exact (h.expand_perm few).trans ((List.mergeSort_perm values _).symm.map _)

theorem Accounts.toInt_total (h : percentile.Accounts precision (values.map .observed))
    (few : values.length < 2 ^ 63) : percentile.dataset.total.toInt = values.length := by
  have positive := h.count_pos few
  have nonneg : ∀ count ∈ percentile.dataset.counts, 0 ≤ count.toInt := by
    intro count mem
    obtain ⟨e, entry, rfl⟩ := List.mem_map.1 mem
    exact Int.le_of_lt (positive e entry)
  have sum : (percentile.dataset.counts.map Int64.toInt).sum = values.length := by
    rw [Histogram.counts, List.map_map]
    have length := length_expand fun e mem => Int.le_of_lt (positive e mem)
    rw [(h.expand_perm few).length_eq, List.length_map] at length
    exact length.symm
  rw [Histogram.total, Amount.toInt_total nonneg, sum]
  exact Amount.clamp_of_mem (by simp only [Amount.least]; omega)
    (by simp only [Amount.greatest]; omega)

/-- The place in the sorted list at which a rank is reached, counted from one: the rank's share of
all values, a half rounded up, but at least the first place. -/
def place (n : Nat) (rank : Int32) : Nat :=
  max 1 ((n * rank.toInt.toNat + 50) / 100)

theorem roof_eq {n : Nat} {rank : Int32} (low : 0 ≤ rank.toInt) :
    roof n rank = ((n * rank.toInt.toNat + 50) / 100 : Nat) := by
  have same : (n : Int) * rank.toInt + 50 = (n * rank.toInt.toNat + 50 : Nat) := by
    rw [Int.natCast_add, Int.natCast_mul, Int.toNat_of_nonneg low]
    rfl
  rw [roof, same]
  exact Int.ofNat_tdiv _ 100

theorem place_le {n : Nat} (some : 0 < n) {rank : Int32} (high : rank.toInt ≤ 100) :
    place n rank ≤ n := by
  have share : n * rank.toInt.toNat ≤ n * 100 := Nat.mul_le_mul_left n (by omega)
  simp only [place]
  omega

/-- The roof of a rank is reached in the bucket of the value at the rank's place. -/
theorem Accounts.reachedAt_roof (h : percentile.Accounts precision (values.map .observed))
    (few : values.length < 2 ^ 63) {rank : Int32} (low : 0 ≤ rank.toInt) :
    reachedAt percentile.dataset.entries 0 (roof values.length rank) =
      (orderStatistic? values (place values.length rank)).map (bucketOf precision) := by
  rw [reachedAt_eq_getElem? (h.count_pos few), h.expand_eq few, List.getElem?_map, roof_eq low]
  simp only [orderStatistic?, place]
  congr 2
  omega

theorem exists_orderStatistic {n : Nat} (some : 0 < n) (length : values.length = n) {rank : Int32}
    (high : rank.toInt ≤ 100) : ∃ value, orderStatistic? values (place n rank) = .some value := by
  have bound := place_le some high
  have first : 1 ≤ place n rank := Nat.le_max_left ..
  refine ⟨_, List.getElem?_eq_getElem ?_⟩
  rw [List.length_mergeSort]
  omega

end Observed

section Table

theorem nodup_keys_zipIdx {counts : List Int64} {start : Nat}
    (addressable : start + counts.length ≤ UInt64.size) :
    (((counts.zipIdx start).map fun (count, index) => (UInt64.ofNat index, count)).map
      (·.1)).Nodup := by
  rw [List.map_map]
  have keys : (counts.zipIdx start).map
      ((·.1) ∘ fun (count, index) => (UInt64.ofNat index, count)) =
        (List.range' start counts.length).map UInt64.ofNat := by
    rw [← List.zipIdx_map_snd start counts, List.map_map]
    rfl
  rw [keys]
  have distinct : (List.range' start counts.length).Nodup := List.nodup_range'
  apply List.pairwise_map.2 (distinct.imp_of_mem _)
  intro a b ha hb different same
  have bound (i : Nat) (mem : i ∈ List.range' start counts.length) : i < UInt64.size := by
    have := List.mem_range'_1.1 mem
    omega
  refine different ?_
  rw [← UInt64.toNat_ofNat_of_lt' (bound a ha), same, UInt64.toNat_ofNat_of_lt' (bound b hb)]

theorem lookup_zipIdx {counts : List Int64} {start : Nat}
    (addressable : start + counts.length ≤ UInt64.size) (index : UInt64) :
    ((counts.zipIdx start).map fun (count, index) => (UInt64.ofNat index, count)).lookup index =
      if start ≤ index.toNat then counts[index.toNat - start]? else none := by
  induction counts generalizing start with
  | nil => simp
  | cons count rest ih =>
    rw [List.length_cons] at addressable
    have toNat : (UInt64.ofNat start).toNat = start := UInt64.toNat_ofNat_of_lt' (by omega)
    rw [List.zipIdx_cons, List.map_cons]
    by_cases same : index = UInt64.ofNat start
    · rw [same, List.lookup_cons_self, toNat]
      simp
    · have different : index.toNat ≠ start := fun eq =>
        same (UInt64.toNat_inj.1 (eq.trans toNat.symm))
      rw [Histogram.lookup_cons_of_ne same, ih (by omega)]
      by_cases later : start + 1 ≤ index.toNat
      · rw [if_pos later, if_pos (by omega), ← Nat.sub_sub, List.getElem?_cons, if_neg (by omega)]
      · rw [if_neg later, if_neg (by omega)]

/-- As long as 64 bits count its positions, a table answers like the list that it was made of. -/
theorem get?_table {counts : List Int64} (addressable : counts.length ≤ UInt64.size)
    (index : UInt64) : (table counts).get? index = counts[index.toNat]? := by
  have keys : 0 + counts.length ≤ UInt64.size := by omega
  rw [table, Histogram.get?_ofList (nodup_keys_zipIdx keys), lookup_zipIdx keys]
  simp

end Table

theorem roof_le_roof {total : Int} (nonneg : 0 ≤ total) {a b : Int32} (h : a.toInt ≤ b.toInt) :
    roof total a ≤ roof total b := by
  have share : total * a.toInt ≤ total * b.toInt := Int.mul_le_mul_of_nonneg_left h nonneg
  exact Int.tdiv_le_tdiv (by decide) (by omega)

/-- Where only items behind all others have no image, images stand where their items do. -/
theorem getElem?_filterMap_of_pairwise {α β : Type} {f : α → Option β} {items : List α}
    (h : items.Pairwise fun a b => f a = none → f b = none) (i : Nat) :
    (items.filterMap f)[i]? = items[i]?.bind f := by
  induction items generalizing i with
  | nil => simp
  | cons item rest ih =>
    cases found : f item with
    | none =>
      have later : ∀ other ∈ rest, f other = none := fun other mem =>
        List.rel_of_pairwise_cons h mem found
      rw [List.filterMap_cons_none found, List.filterMap_eq_nil_iff.2 later]
      cases i with
      | zero => exact found.symm
      | succ i =>
        rw [List.getElem?_cons_succ, List.getElem?_nil, eq_comm, Option.bind_eq_none_iff]
        exact fun other at_ => later other (List.mem_of_getElem? at_)
    | some image =>
      rw [List.filterMap_cons_some found]
      cases i with
      | zero => exact found.symm
      | succ i => exact ih h.of_cons i

def statistics (values : List UInt64) (ranks : List Int32) : List UInt64 :=
  ranks.filterMap fun rank => orderStatistic? values (place values.length rank)

theorem getElem?_statistics {values : List UInt64} (some : values ≠ []) {ranks : List Int32}
    (high : ∀ rank ∈ ranks, rank.toInt ≤ 100) (i : Nat) :
    (statistics values ranks)[i]? =
      ranks[i]?.bind fun rank => orderStatistic? values (place values.length rank) := by
  refine getElem?_filterMap_of_pairwise ?_ i
  refine List.pairwise_of_forall_mem_list fun rank mem _ _ none => ?_
  obtain ⟨value, found⟩ := exists_orderStatistic (List.length_pos_iff.2 some) rfl (high rank mem)
  cases none.symm.trans found

/-- Every rank is answered by the bucket of its order statistic. -/
theorem Accounts.calculate_eq {precision : UInt32} {values : List UInt64} {percentile : Percentile}
    (h : percentile.Accounts precision (values.map .observed)) (some : values ≠ [])
    (few : values.length < 2 ^ 63)
    (ascending : percentile.ranks.Pairwise fun a b => a.toInt ≤ b.toInt)
    (low : ∀ rank ∈ percentile.ranks, 0 ≤ rank.toInt) :
    percentile.calculate = .ok { percentile with
      values := table ((statistics values percentile.ranks).map (floorOf precision)) } := by
  have total := h.toInt_total few
  have nonzero : percentile.dataset.total ≠ 0 := by
    intro zero
    rw [zero] at total
    exact some (List.length_eq_zero_iff.1 (Int.ofNat_inj.1 total.symm))
  let roofs := percentile.ranks.map (roof values.length)
  have sorted : roofs.Pairwise (· ≤ ·) :=
    List.pairwise_map.2 (ascending.imp (roof_le_roof (Int.natCast_nonneg _)))
  have buckets : roofs.filterMap (reachedAt percentile.dataset.entries 0) =
      (statistics values percentile.ranks).map (bucketOf precision) := by
    rw [List.filterMap_map, statistics, List.map_filterMap]
    exact List.filterMap_congr fun rank mem => h.reachedAt_roof few (low rank mem)
  have found : bounds percentile.precision percentile.dataset.entries 0 roofs =
      .ok ((statistics values percentile.ranks).map (floorOf precision)) := by
    rw [bounds_eq _ _ _ sorted, buckets, h.1, List.mapM_map]
    exact Except.mapM_eq_ok fun value _ => lowerBound_bucketOf precision value
  rw [calculate, if_neg nonzero]
  simp only [total]
  rw [found]
  rfl

end Percentile

open Percentile

theorem Shard.percentile_record {precision : UInt32} (positive : 1 ≤ precision) (key : Record.Key)
    (ranks : List Int32) (values : List UInt64) :
    ∃ percentile : Percentile,
      (Shard.mk key ranks (values.map .observed)).record .percentile precision =
        .ok ⟨key, .percentile percentile⟩ ∧
      percentile.Accounts precision (values.map .observed) ∧ percentile.ranks = ranks := by
  have admits : ∀ feed ∈ values.map Feed.observed, Kind.percentile.Admits feed := by
    intro feed mem
    obtain ⟨value, _, rfl⟩ := List.mem_map.1 mem
    trivial
  obtain ⟨⟨own, measure⟩, made, gathers⟩ :=
    @Shard.gathers .percentile nofun precision positive ⟨key, ranks, values.map .observed⟩ admits
  obtain rfl : own = key := gathers.key
  have kind := gathers.kind_eq
  cases measure <;> simp only [Measure.kind, reduceCtorEq] at kind
  case percentile percentile =>
    have fresh := Except.ok.inj gathers.fresh
    refine ⟨percentile, made, gathers.accounts, ?_⟩
    exact (congrArg Percentile.ranks (Measure.percentile.inj fresh)).symm

/-- A new record that observed values answers every rank, at its position, with the bucket of the
order statistic at the rank's place. -/
theorem percentiles_are_order_statistics {precision : UInt32} (positive : 1 ≤ precision)
    {values : List UInt64} (some : values ≠ []) (few : values.length < 2 ^ 63)
    {ranks : List Int32} (ascending : ranks.Pairwise fun a b => a.toInt ≤ b.toInt)
    (range : ∀ rank ∈ ranks, 0 ≤ rank.toInt ∧ rank.toInt ≤ 100)
    (addressable : ranks.length ≤ UInt64.size) (key : Record.Key) :
    ∃ percentile : Percentile,
      ((Shard.mk key ranks (values.map .observed)).record .percentile precision >>=
        Record.calculate) = .ok ⟨key, .percentile percentile⟩ ∧
      (∀ index, percentile.values.get? index = none ↔ ranks.length ≤ index.toNat) ∧
      ∀ index rank, ranks[index.toNat]? = .some rank →
        ∃ value amount, orderStatistic? values (place values.length rank) = .some value ∧
          percentile.values.get? index = .some amount ∧
          amount.toInt =
            min ((precision.toNat * (value.toNat / precision.toNat) : Nat) : Int)
              Amount.greatest := by
  obtain ⟨percentile, made, accounts, rfl⟩ := Shard.percentile_record positive key ranks values
  have calculated := accounts.calculate_eq some few ascending fun rank mem => (range rank mem).1
  have answer := getElem?_statistics some fun rank mem => (range rank mem).2
  let found := (statistics values percentile.ranks).map (floorOf precision)
  have get (index : UInt64) : (table found).get? index =
      (percentile.ranks[index.toNat]?.bind fun rank =>
        orderStatistic? values (place values.length rank)).map (floorOf precision) := by
    rw [get?_table, List.getElem?_map, answer]
    rw [List.length_map]
    exact Nat.le_trans (List.length_filterMap_le ..) addressable
  have exists_of_rank {index : UInt64} {rank : Int32}
      (h : percentile.ranks[index.toNat]? = .some rank) :
      ∃ value, orderStatistic? values (place values.length rank) = .some value ∧
        (table found).get? index = .some (floorOf precision value) := by
    obtain ⟨value, stat⟩ := exists_orderStatistic (List.length_pos_iff.2 some) rfl
      (range rank (List.mem_of_getElem? h)).2
    exact ⟨value, stat, by rw [get, h, Option.bind_some, stat, Option.map_some]⟩
  refine ⟨{ percentile with values := table found }, ?_, fun index => ?_,
    fun index rank h => ?_⟩
  · rw [made]
    change Record.calculate ⟨key, .percentile percentile⟩ = _
    simp only [Record.calculate, Measure.calculate, calculated]
    rfl
  · constructor
    · intro none
      rw [← List.getElem?_eq_none_iff]
      cases at_ : percentile.ranks[index.toNat]? with
      | none => rfl
      | some rank =>
        obtain ⟨value, _, eq⟩ := exists_of_rank at_
        cases none.symm.trans eq
    · intro past
      change (table found).get? index = none
      rw [get, List.getElem?_eq_none_iff.2 past]
      rfl
  · obtain ⟨value, stat, eq⟩ := exists_of_rank h
    exact ⟨value, _, stat, eq, toInt_floorOf precision value⟩

/-- The median of three values is the second of them, reported in steps of ten. -/
theorem percentiles_are_order_statistics_median :
    let key : Record.Key := ⟨"a", none, 202401011200⟩
    ∃ percentile : Percentile, ∃ amount : Int64,
      ((Shard.mk key [50, 99] ([30, 7, 25].map .observed)).record .percentile 10 >>=
        Record.calculate) = .ok ⟨key, .percentile percentile⟩ ∧
      percentile.values.get? 0 = some amount ∧ amount.toInt = 20 := by
  intro key
  have range : ∀ rank ∈ ([50, 99] : List Int32), 0 ≤ rank.toInt ∧ rank.toInt ≤ 100 := by
    intro rank mem
    cases mem with
    | head => decide
    | tail _ mem =>
      cases mem with
      | head => decide
      | tail _ mem => contradiction
  obtain ⟨percentile, calculated, _, answers⟩ :=
    @percentiles_are_order_statistics 10 (by decide) [30, 7, 25] (by decide) (by decide) [50, 99]
      (by decide) range (by decide) key
  obtain ⟨value, amount, stat, get, eq⟩ := answers 0 50 rfl
  have second : orderStatistic? [30, 7, 25] 2 = some 25 := by cbv
  obtain rfl : value = 25 := Option.some.inj (stat.symm.trans second)
  exact ⟨percentile, amount, calculated, get, eq⟩

end Rollup
