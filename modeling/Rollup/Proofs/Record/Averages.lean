import Rollup.Proofs.Record.Histories

/-!
Averages. Where every aggregate has its sum between the same multiples of its least and its greatest
part, so has the record, and the value derived lies between these parts:
`average_between_extremes`. What becomes of least parts of any sign, with zero standing for none, is
told by the last zero: `least_part_of_feeds`.
-/
namespace Rollup

/-- An aggregate of some values between a least part of at least one and a greatest part. A part
that a feed lacks is zero, so no other feed is like that. -/
structure Feed.Balanced (feed : Feed) : Prop where
  count : 1 ≤ feed.count
  least : 1 ≤ feed.least
  ordered : feed.least ≤ feed.greatest
  low : feed.count * feed.least ≤ feed.summation
  high : feed.summation ≤ feed.count * feed.greatest

/-- An average whose sum lies between the multiples of its least and its greatest part. -/
structure Average.Balanced (average : Average) : Prop where
  count : 1 ≤ average.count.toInt
  least : 1 ≤ average.min.toInt
  low : average.count.toInt * average.min.toInt ≤ average.summation.toInt
  high : average.summation.toInt ≤ average.count.toInt * average.max.toInt

namespace Feed

variable {feeds : List Feed}

theorem Balanced.admits {feed : Feed} (h : feed.Balanced) : Kind.average.Admits feed := by
  have sum : 0 ≤ feed.summation :=
    Int.le_trans (Int.mul_nonneg (Int.le_of_lt h.count) (Int.le_of_lt h.least)) h.low
  have greatest : 0 ≤ feed.greatest := Int.le_trans (Int.le_of_lt h.least) h.ordered
  cases feed with
  | aggregate summation count most least => exact ⟨sum, Int.le_of_lt h.count, greatest, h.least⟩
  | _ => exact absurd h.count (by simp [Feed.count])

theorem sum_count_mul_le (h : ∀ feed ∈ feeds, feed.Balanced) {bound : Int}
    (below : ∀ feed ∈ feeds, bound ≤ feed.least) :
    (feeds.map Feed.count).sum * bound ≤ (feeds.map Feed.summation).sum := by
  rw [← List.sum_map_mul_right]
  refine List.sum_le_sum fun feed mem => ?_
  have count : 0 ≤ feed.count := Int.le_of_lt (h feed mem).count
  exact Int.le_trans (Int.mul_le_mul_of_nonneg_left (below feed mem) count) (h feed mem).low

theorem sum_summation_le (h : ∀ feed ∈ feeds, feed.Balanced) {bound : Int}
    (above : ∀ feed ∈ feeds, feed.greatest ≤ bound) :
    (feeds.map Feed.summation).sum ≤ (feeds.map Feed.count).sum * bound := by
  rw [← List.sum_map_mul_right]
  refine List.sum_le_sum fun feed mem => ?_
  have count : 0 ≤ feed.count := Int.le_of_lt (h feed mem).count
  exact Int.le_trans (h feed mem).high (Int.mul_le_mul_of_nonneg_left (above feed mem) count)

theorem one_le_sum_count (h : ∀ feed ∈ feeds, feed.Balanced) (some : feeds ≠ []) :
    1 ≤ (feeds.map Feed.count).sum := by
  obtain ⟨first, rest, rfl⟩ := List.exists_cons_of_ne_nil some
  have head := (h first List.mem_cons_self).count
  have tail : 0 ≤ (rest.map Feed.count).sum := Amount.sum_map_nonneg fun feed mem =>
    Int.le_of_lt (h feed (List.mem_cons_of_mem _ mem)).count
  rw [List.map_cons, List.sum_cons]
  omega

end Feed

namespace Average

variable {average : Average} {feeds : List Feed}

/-- No sum has stopped at a limit, as the counts do not exceed the summations. So what holds of
every feed holds of the average. -/
theorem Accounts.balanced (accounts : average.Accounts feeds) (some : feeds ≠ [])
    (h : ∀ feed ∈ feeds, feed.Balanced)
    (fits : (feeds.map Feed.summation).sum ≤ Amount.greatest) :
    average.summation.toInt = (feeds.map Feed.summation).sum ∧
      average.count.toInt = (feeds.map Feed.count).sum ∧ average.Balanced := by
  obtain ⟨summation, count, greatest, least⟩ := accounts
  have positive := Feed.one_le_sum_count h some
  -- every value is at least one, so there are no more values than their sum
  have fewer := Feed.sum_count_mul_le h fun feed mem => (h feed mem).least
  rw [Amount.clamp_eq_self (by omega) fits] at summation
  rw [Amount.clamp_eq_self (by omega) (by omega)] at count
  have parts : feeds.map Feed.least ≠ [] := by simpa using some
  have low (feed : Feed) (mem : feed ∈ feeds) : average.min.toInt ≤ feed.least := by
    rw [least]
    exact Amount.leastOf_le (List.mem_map_of_mem mem)
  have high (feed : Feed) (mem : feed ∈ feeds) : feed.greatest ≤ average.max.toInt := by
    rw [greatest]
    exact Amount.le_greatestOf (List.mem_map_of_mem mem)
  refine ⟨summation, count, count ▸ positive, ?_, ?_, ?_⟩
  · obtain ⟨feed, mem, eq⟩ := List.mem_map.1 (Amount.leastOf_mem parts)
    rw [least, ← eq]
    exact (h feed mem).least
  · rw [count, summation]
    exact Feed.sum_count_mul_le h low
  · rw [count, summation]
    exact Feed.sum_summation_le h high

theorem Balanced.exists_calculate (h : average.Balanced) (record : String) :
    ∃ value : Int64, average.calculate record = .ok { average with value } ∧
      value.toInt = average.summation.toInt / average.count.toInt ∧
      average.min.toInt ≤ value.toInt ∧ value.toInt ≤ average.max.toInt := by
  have nonzero : average.count ≠ 0 := by
    intro zero
    have := h.count
    rw [zero] at this
    exact absurd this (by decide)
  have sum : 0 ≤ average.summation.toInt :=
    Int.le_trans (Int.mul_nonneg (Int.le_of_lt h.count) (Int.le_of_lt h.least)) h.low
  obtain ⟨value, fits, bounds⟩ := Amount.exists_quotient sum h.count
    (Int.mul_comm .. ▸ h.low) (Int.mul_comm .. ▸ h.high)
  refine ⟨value, ?_, bounds⟩
  rw [calculate, if_neg nonzero, fits]

end Average

namespace History

theorem exists_average (precision : UInt32) {history : History}
    (admits : ∀ feed ∈ history.feeds, Kind.average.Admits feed) (fed : history.MergesFed) :
    ∃ average : Average, history.record .average precision =
        .ok ⟨history.root.key, .average average⟩ ∧ average.Accounts history.feeds := by
  obtain ⟨measure, made, same, accounts⟩ :=
    exists_accounts (by decide) (by decide) precision admits fun _ => fed
  cases measure with
  | average a => exact ⟨a, made, accounts⟩
  | _ => simp [Measure.kind] at same

end History

/-- Averages made anew, fed at least once each and merged in any order and grouping account for all
their feeds. As long as the sum fits, they derive the exact sum over the exact count, rounded down,
and this lies between the least and the greatest part. -/
theorem average_between_extremes {history : History} (some : history.feeds ≠ [])
    (fed : history.MergesFed) (balanced : ∀ feed ∈ history.feeds, feed.Balanced)
    (fits : (history.feeds.map Feed.summation).sum ≤ Amount.greatest) (precision : UInt32) :
    ∃ (average : Average) (value : Int64),
      history.record .average precision = .ok ⟨history.root.key, .average average⟩ ∧
      average.Accounts history.feeds ∧
      Record.calculate ⟨history.root.key, .average average⟩ =
        .ok ⟨history.root.key, .average { average with value }⟩ ∧
      value.toInt =
        (history.feeds.map Feed.summation).sum / (history.feeds.map Feed.count).sum ∧
      average.min.toInt ≤ value.toInt ∧ value.toInt ≤ average.max.toInt := by
  obtain ⟨average, made, accounts⟩ :=
    history.exists_average precision (fun feed mem => (balanced feed mem).admits) fed
  obtain ⟨summation, count, whole⟩ := accounts.balanced some balanced fits
  obtain ⟨value, calculated, quotient, between⟩ := whole.exists_calculate history.root.key.id
  rw [summation, count] at quotient
  refine ⟨average, value, made, accounts, ?_, quotient, between⟩
  rw [Record.calculate, Measure.calculate, calculated]
  rfl

/-- Two records that were fed twice each, the first merged into the second and that into itself. -/
theorem average_between_extremes_twice :
    let start : History := .new ⟨"a", none, 202401011200⟩ []
    let first := (start.feed (.aggregate 12 1 12 12)).feed (.aggregate 24 2 14 10)
    let second := (start.feed (.aggregate 24 1 24 24)).feed (.aggregate 47 4 12 11)
    let both := second.combine first
    ∃ (average : Average) (value : Int64),
      (both.combine both).record .average 1 =
        .ok ⟨⟨"a", none, 202401011200⟩, .average average⟩ ∧
      value.toInt = 13 ∧ average.min.toInt ≤ value.toInt ∧
      value.toInt ≤ average.max.toInt := by
  intro start first second both
  have balanced : ∀ feed ∈ (both.combine both).feeds, feed.Balanced := by
    have own : ∀ feed ∈ both.feeds, feed.Balanced := by
      intro feed mem
      simp only [both, first, second, start, History.feeds, List.cons_append, List.nil_append,
        List.mem_cons, List.not_mem_nil, or_false] at mem
      rcases mem with rfl | rfl | rfl | rfl <;> constructor <;> decide
    intro feed mem
    exact (List.mem_append.1 mem).elim (own feed) (own feed)
  have fed : (both.combine both).MergesFed := by
    simp [both, first, second, start, History.MergesFed, History.feeds]
  have some : (both.combine both).feeds ≠ [] := List.cons_ne_nil _ _
  obtain ⟨average, value, made, -, -, quotient, between⟩ :=
    average_between_extremes some fed balanced (by decide +kernel) 1
  exact ⟨average, value, made, quotient.trans (by decide +kernel), between⟩

section LeastPart

/-- The least part after the next one: zero stands for none, so anything replaces it. -/
def Amount.leastAfter (kept next : Int) : Int :=
  if next < kept ∨ kept = 0 then next else kept

/-- What is left as the least of some amounts that come one by one. -/
def Amount.leastKept (amounts : List Int) : Int :=
  if ∃ n ∈ amounts, n < 0 then leastOf amounts else leastOf (amounts.rtakeWhile (· ≠ 0))

theorem Average.toInt_min_feed (average : Average) (summation count greatest least : Int64) :
    (average.feed summation count greatest least).min.toInt =
      Amount.leastAfter average.min.toInt least.toInt := by
  simp only [feed, Amount.leastAfter, Int64.lt_iff_toInt_lt, ← Int64.toInt_inj, Int64.toInt_zero]
  split <;> rfl

namespace Amount

variable {amounts : List Int} {kept next : Int}

theorem leastAfter_zero (next : Int) : leastAfter 0 next = next := if_pos (.inr rfl)

theorem leastAfter_eq_min (set : kept ≠ 0) : leastAfter kept next = min kept next := by
  simp only [leastAfter, set, or_false]
  split <;> omega

/-- What is behind the last zero has no zero in it, so its least amount is zero only if nothing is
there. -/
theorem leastOf_rtakeWhile_concat (h : ∀ n ∈ amounts, 0 ≤ n) (next : Int) :
    leastOf ((amounts ++ [next]).rtakeWhile (· ≠ 0)) =
      leastAfter (leastOf (amounts.rtakeWhile (· ≠ 0))) next := by
  rw [List.rtakeWhile_concat]
  by_cases zero : next = 0
  · have kept : 0 ≤ leastOf (amounts.rtakeWhile (· ≠ 0)) :=
      leastOf_nonneg fun n mem => h n ((List.rtakeWhile_suffix _ _).subset mem)
    rw [if_neg (by simp [zero]), zero, leastAfter, if_pos (by omega)]
    rfl
  · rw [if_pos (by simp [zero])]
    by_cases empty : amounts.rtakeWhile (· ≠ 0) = []
    · rw [empty, List.nil_append, leastOf_singleton]
      exact (leastAfter_zero next).symm
    · have set : leastOf (amounts.rtakeWhile (· ≠ 0)) ≠ 0 := by
        simpa using List.mem_rtakeWhile_imp (leastOf_mem empty)
      rw [leastOf_append empty (List.cons_ne_nil _ _), leastOf_singleton, leastAfter_eq_min set]

theorem leastKept_of_neg (h : ∃ n ∈ amounts, n < 0) : leastKept amounts = leastOf amounts :=
  if_pos h

theorem leastKept_of_nonneg (h : ∀ n ∈ amounts, 0 ≤ n) :
    leastKept amounts = leastOf (amounts.rtakeWhile (· ≠ 0)) :=
  if_neg fun ⟨n, mem, negative⟩ => Int.not_lt.2 (h n mem) negative

theorem leastKept_nonneg (h : ∀ n ∈ amounts, 0 ≤ n) : 0 ≤ leastKept amounts := by
  rw [leastKept_of_nonneg h]
  exact leastOf_nonneg fun n mem => h n ((List.rtakeWhile_suffix _ _).subset mem)

/-- A negative amount is never taken for none: once there is one, the least of all is kept. -/
theorem leastKept_concat (amounts : List Int) (next : Int) :
    leastKept (amounts ++ [next]) = leastAfter (leastKept amounts) next := by
  by_cases negative : ∃ n ∈ amounts, n < 0
  · obtain ⟨n, mem, low⟩ := negative
    have some := List.ne_nil_of_mem mem
    have below := leastOf_le mem
    rw [leastKept_of_neg ⟨n, mem, low⟩, leastKept_of_neg ⟨n, List.mem_append_left _ mem, low⟩,
      leastOf_append some (List.cons_ne_nil _ _), leastOf_singleton, leastAfter_eq_min (by omega)]
  have nonneg : ∀ n ∈ amounts, 0 ≤ n := fun n mem =>
    Int.not_lt.1 fun low => negative ⟨n, mem, low⟩
  -- the first negative amount is below everything before it, zero or not
  rcases Int.lt_or_le next 0 with low | high
  · have least : leastOf (amounts ++ [next]) = next := by
      rw [leastOf_eq_iff (by simp)]
      refine ⟨by simp, fun n mem => ?_⟩
      rcases List.mem_append.1 mem with mem | mem
      · exact Int.le_trans (Int.le_of_lt low) (nonneg n mem)
      · exact Int.le_of_eq (List.mem_singleton.1 mem).symm
    have kept := leastKept_nonneg nonneg
    rw [leastKept_of_neg ⟨next, by simp, low⟩, least, leastAfter, if_pos (by omega)]
  · have all : ∀ n ∈ amounts ++ [next], 0 ≤ n := by
      intro n mem
      exact (List.mem_append.1 mem).elim (nonneg n) fun mem => List.mem_singleton.1 mem ▸ high
    rw [leastKept_of_nonneg all, leastKept_of_nonneg nonneg, leastOf_rtakeWhile_concat nonneg]

theorem foldl_leastAfter (amounts : List Int) : amounts.foldl leastAfter 0 = leastKept amounts := by
  induction amounts using List.reverseRecOn with
  | nil => rfl
  | append_singleton amounts next ih =>
    rw [List.foldl_append, ih, leastKept_concat, List.foldl_cons, List.foldl_nil]

theorem rtakeWhile_behind {after : List Int} (clear : 0 ∉ after) (before : List Int) :
    (before ++ 0 :: after).rtakeWhile (· ≠ 0) = after := by
  induction after using List.reverseRecOn with
  | nil => rw [List.rtakeWhile_concat_neg _ _ _ (by simp)]
  | append_singleton after next ih =>
    simp only [List.mem_append, List.mem_singleton, not_or] at clear
    have nonzero : next ≠ 0 := fun zero => clear.2 zero.symm
    rw [← List.cons_append, ← List.append_assoc, List.rtakeWhile_concat_pos _ _ _ (by simpa),
      ih clear.1]

end Amount

def Feed.IsAggregate (feed : Feed) : Prop :=
  ∃ summation count greatest least, feed = .aggregate summation count greatest least

def Shard.leastParts (shard : Shard) : List Int :=
  shard.feeds.map Feed.least

/-- By induction on the feeds: each is taken in and replaces the least part or does not. -/
theorem Record.exists_fed_average {feeds : List Feed} (h : ∀ feed ∈ feeds, feed.IsAggregate)
    (key : Key) (average : Average) :
    ∃ fed : Average, feeds.foldlM Record.feed ⟨key, .average average⟩ = .ok ⟨key, .average fed⟩ ∧
      fed.min.toInt = (feeds.map Feed.least).foldl Amount.leastAfter average.min.toInt := by
  induction feeds generalizing average with
  | nil => exact ⟨average, rfl, rfl⟩
  | cons feed rest ih =>
    obtain ⟨summation, count, greatest, least, rfl⟩ := h feed List.mem_cons_self
    obtain ⟨fed, run, eq⟩ := ih (fun other mem => h other (List.mem_cons_of_mem _ mem))
      (average.feed summation count greatest least)
    refine ⟨fed, run, ?_⟩
    rw [eq, Average.toInt_min_feed]
    rfl

/-- Feeding a record of averages keeps the least of all least parts if one is negative. Otherwise it
keeps the least of those behind the last zero, which is zero itself if none is behind it; and the
least of all if there is no zero. -/
theorem least_part_of_feeds {shard : Shard} (fed : shard.feeds ≠ [])
    (aggregates : ∀ feed ∈ shard.feeds, feed.IsAggregate) (precision : UInt32) :
    ∃ average : Average, shard.record .average precision = .ok ⟨shard.key, .average average⟩ ∧
      ((∃ n ∈ shard.leastParts, n < 0) → shard.leastParts.min? = some average.min.toInt) ∧
      ((∀ n ∈ shard.leastParts, 0 ≤ n) → ∀ before after, shard.leastParts = before ++ 0 :: after →
        0 ∉ after → (after = [] → average.min.toInt = 0) ∧
          (after ≠ [] → after.min? = some average.min.toInt)) ∧
      ((∀ n ∈ shard.leastParts, 0 < n) → shard.leastParts.min? = some average.min.toInt) := by
  obtain ⟨average, run, eq⟩ := Record.exists_fed_average aggregates shard.key .empty
  have kept : average.min.toInt = Amount.leastKept shard.leastParts :=
    eq.trans (Amount.foldl_leastAfter _)
  have parts : shard.leastParts ≠ [] := by simpa [Shard.leastParts] using fed
  refine ⟨average, run, fun negative => ?_, fun nonneg before after split clear => ?_,
    fun positive => ?_⟩
  · rw [kept, Amount.leastKept_of_neg negative, Amount.min?_eq_some_leastOf parts]
  · rw [kept, Amount.leastKept_of_nonneg nonneg, split, Amount.rtakeWhile_behind clear]
    exact ⟨fun none => none ▸ rfl, Amount.min?_eq_some_leastOf⟩
  · have nonneg : ∀ n ∈ shard.leastParts, 0 ≤ n := fun n mem => Int.le_of_lt (positive n mem)
    have whole : shard.leastParts.rtakeWhile (· ≠ 0) = shard.leastParts :=
      List.rtakeWhile_eq_self_iff.2 fun n mem => by simpa using Int.ne_of_gt (positive n mem)
    rw [kept, Amount.leastKept_of_nonneg nonneg, whole, Amount.min?_eq_some_leastOf parts]

/-- Zero makes an average forget its least part of 4, but not one of -2. -/
theorem least_part_of_feeds_zero :
    let key : Record.Key := ⟨"a", none, 202401011200⟩
    let feeds (leasts : List Int64) := leasts.map (Feed.aggregate 9 1 9)
    (∃ average : Average, Shard.record .average 1 ⟨key, [], feeds [4, 0, 7, 5]⟩ =
        .ok ⟨key, .average average⟩ ∧ average.min.toInt = 5) ∧
      ∃ average : Average, Shard.record .average 1 ⟨key, [], feeds [4, -2, 0, 7]⟩ =
        .ok ⟨key, .average average⟩ ∧ average.min.toInt = -2 := by
  intro key feeds
  have aggregates (leasts : List Int64) : ∀ feed ∈ feeds leasts, feed.IsAggregate := by
    intro feed mem
    obtain ⟨least, -, rfl⟩ := List.mem_map.1 mem
    exact ⟨9, 1, 9, least, rfl⟩
  constructor
  · obtain ⟨average, made, -, zero, -⟩ :=
      @least_part_of_feeds ⟨key, [], feeds [4, 0, 7, 5]⟩ (by simp [feeds]) (aggregates _) 1
    have least := (zero (by decide) [4] [7, 5] rfl (by decide)).2 (by decide)
    exact ⟨average, made, (Option.some.inj least).symm⟩
  · obtain ⟨average, made, negative, -⟩ :=
      @least_part_of_feeds ⟨key, [], feeds [4, -2, 0, 7]⟩ (by simp [feeds]) (aggregates _) 1
    exact ⟨average, made, (Option.some.inj (negative (by decide))).symm⟩

end LeastPart

end Rollup
