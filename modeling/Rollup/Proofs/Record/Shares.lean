import Rollup.Proofs.Record.Histories

/-!
Shares of matching events. Matching events are counted among all events, so there are never more of
them, also where one or both counts have stopped at the limit of an amount. Main statement:
`share_within_scale`.
-/
namespace Rollup

/-- An event, or counts of which no more match than there are. -/
def Feed.IsShare : Feed → Prop
  | event _ => True
  | counts matched total => 0 ≤ matched.toInt ∧ matched.toInt ≤ total.toInt
  | _ => False

namespace Feed.IsShare

variable {feed : Feed}

theorem admits (h : feed.IsShare) : Kind.percentage.Admits feed := by
  cases feed with
  | event isMatch => trivial
  | counts matched total => exact ⟨h.1, Int.le_trans h.1 h.2⟩
  | _ => exact h.elim

theorem matched_le_total (h : feed.IsShare) : feed.matched ≤ feed.total := by
  cases feed with
  | event isMatch => cases isMatch <;> decide
  | counts matched total => exact h.2
  | _ => exact h.elim

end Feed.IsShare

namespace Percentage

variable {share : Percentage}

/-- The matching events are among all events. -/
structure Within (share : Percentage) : Prop where
  matched_nonneg : 0 ≤ share.matched.toInt
  matched_le : share.matched.toInt ≤ share.total.toInt

theorem Within.exists_calculate (h : share.Within) (some : share.total ≠ 0) (record : String) :
    ∃ percentage : Int64, share.calculate record = .ok { share with percentage } ∧
      percentage.toInt = share.matched.toInt * full / share.total.toInt ∧
      0 ≤ percentage.toInt ∧ percentage.toInt ≤ full ∧
      (percentage.toInt = full ↔ share.matched = share.total) := by
  have matched := h.matched_nonneg
  have among := h.matched_le
  have positive : 0 < share.total.toInt := by
    have nonzero : share.total.toInt ≠ 0 := fun zero => some (Int64.toInt_inj.1 zero)
    omega
  have scaled : 0 ≤ share.matched.toInt * full := Int.mul_nonneg matched (by decide)
  have above : (0 : Int64).toInt * share.total.toInt ≤ share.matched.toInt * full := by
    rw [Int64.toInt_zero, Int.zero_mul]
    exact scaled
  have below : share.matched.toInt * full ≤ (10000 : Int64).toInt * share.total.toInt := by
    rw [Int.mul_comm]
    exact Int.mul_le_mul_of_nonneg_left among (by decide)
  obtain ⟨percentage, fits, quotient, low, high⟩ :=
    Amount.exists_quotient scaled positive above below
  refine ⟨percentage, ?_, quotient, low, high, ?_⟩
  · rw [calculate, if_neg some, fits]
  · have whole : full ≤ percentage.toInt ↔ share.total.toInt ≤ share.matched.toInt := by
      rw [quotient, Int.le_ediv_iff_mul_le positive, Int.mul_comm]
      exact Int.mul_le_mul_right (by decide)
    have high : percentage.toInt ≤ full := high
    rw [← Int64.toInt_inj]
    omega

/-- Clamping keeps both counts in their order. -/
theorem within_of_accounts {feeds : List Feed} (h : ∀ feed ∈ feeds, feed.IsShare)
    (matched : share.matched.toInt = Amount.clamp (feeds.map Feed.matched).sum)
    (total : share.total.toInt = Amount.clamp (feeds.map Feed.total).sum) : share.Within where
  matched_nonneg := by
    rw [matched]
    exact Amount.clamp_nonneg (Amount.sum_map_nonneg fun feed mem =>
      (h feed mem).admits.sums_nonneg.2.2.1)
  matched_le := by
    rw [matched, total]
    exact Amount.clamp_le_clamp (List.sum_le_sum fun feed mem => (h feed mem).matched_le_total)

/-- The limit hides no events: a clamped sum is zero only if every part is. -/
theorem total_eq_zero_iff {feeds : List Feed} (h : ∀ feed ∈ feeds, feed.IsShare)
    (total : share.total.toInt = Amount.clamp (feeds.map Feed.total).sum) :
    share.total = 0 ↔ ∀ feed ∈ feeds, feed.total = 0 := by
  rw [← Int64.toInt_inj, total, Int64.toInt_zero, Amount.clamp_eq_zero_iff]
  constructor
  · intro zero feed mem
    refine List.all_zero_of_le_zero_le_of_sum_eq_zero ?_ zero (List.mem_map_of_mem mem)
    exact List.forall_mem_map.2 fun other mem => (h other mem).admits.sums_nonneg.2.2.2
  · intro none
    exact List.sum_eq_zero (List.forall_mem_map.2 none)

end Percentage

namespace History

theorem exists_share (precision : UInt32) {history : History}
    (admits : ∀ feed ∈ history.feeds, Kind.percentage.Admits feed) :
    ∃ share : Percentage, history.record .percentage precision =
        .ok ⟨history.root.key, .percentage share⟩ ∧
      share.matched.toInt = Amount.clamp (history.feeds.map Feed.matched).sum ∧
      share.total.toInt = Amount.clamp (history.feeds.map Feed.total).sum := by
  obtain ⟨measure, made, same, accounts⟩ :=
    exists_accounts (by decide) (by decide) precision admits nofun
  cases measure with
  | percentage share => exact ⟨share, made, accounts⟩
  | _ => simp [Measure.kind] at same

end History

/-- At every point of a history of events and counts, merges with other such records or the record
itself included, both counts are the sums of all feeds with one limit, and no more events match than
there are. Deriving the share fails exactly while no event was counted; else it gives the scaled
quotient rounded down, at most the scale, and the scale exactly if all events match. -/
theorem share_within_scale {history : History} (shares : ∀ feed ∈ history.feeds, feed.IsShare)
    (precision : UInt32) :
    ∃ share : Percentage,
      history.record .percentage precision = .ok ⟨history.root.key, .percentage share⟩ ∧
      share.matched.toInt = Amount.clamp (history.feeds.map Feed.matched).sum ∧
      share.total.toInt = Amount.clamp (history.feeds.map Feed.total).sum ∧
      0 ≤ share.matched.toInt ∧ share.matched.toInt ≤ share.total.toInt ∧
      (share.total = 0 ↔ ∀ feed ∈ history.feeds, feed.total = 0) ∧
      (∀ failure, Record.calculate ⟨history.root.key, .percentage share⟩ = .error failure ↔
        share.total = 0 ∧ failure = .error (.zeroTotal history.root.key.id)) ∧
      (share.total ≠ 0 → ∃ percentage : Int64,
        Record.calculate ⟨history.root.key, .percentage share⟩ =
          .ok ⟨history.root.key, .percentage { share with percentage }⟩ ∧
        percentage.toInt = share.matched.toInt * 10000 / share.total.toInt ∧
        0 ≤ percentage.toInt ∧ percentage.toInt ≤ 10000 ∧
        (percentage.toInt = 10000 ↔ share.matched = share.total)) := by
  obtain ⟨share, made, matched, total⟩ :=
    history.exists_share precision fun feed mem => (shares feed mem).admits
  have within := Percentage.within_of_accounts shares matched total
  have derives (some : share.total ≠ 0) : ∃ percentage : Int64,
      Record.calculate ⟨history.root.key, .percentage share⟩ =
        .ok ⟨history.root.key, .percentage { share with percentage }⟩ ∧
      percentage.toInt = share.matched.toInt * 10000 / share.total.toInt ∧
      0 ≤ percentage.toInt ∧ percentage.toInt ≤ 10000 ∧
      (percentage.toInt = 10000 ↔ share.matched = share.total) := by
    obtain ⟨percentage, calculated, bounds⟩ :=
      within.exists_calculate some history.root.key.id
    refine ⟨percentage, ?_, bounds⟩
    rw [Record.calculate, Measure.calculate, calculated]
    rfl
  refine ⟨share, made, matched, total, within.matched_nonneg, within.matched_le,
    Percentage.total_eq_zero_iff shares total, fun failure => ?_, derives⟩
  by_cases none : share.total = 0
  · have fails : Record.calculate ⟨history.root.key, .percentage share⟩ =
        .error (.error (.zeroTotal history.root.key.id)) := by
      rw [Record.calculate, Measure.calculate, Percentage.calculate, if_pos none]
      rfl
    rw [fails]
    simp [none, eq_comm]
  · obtain ⟨percentage, calculated, -⟩ := derives none
    rw [calculated]
    simp [none]

/-- Counts near the limit, one more matching event, and the record merged into itself: both counts
stop at the limit, and the share is the whole scale. -/
theorem share_within_scale_at_limit :
    let key : Record.Key := ⟨"a", none, 202401011200⟩
    let counted : History := .feed (.new key []) (.counts 4611686018427387903 9223372036854775807)
    let history := counted.feed (.event true)
    ∃ share : Percentage,
      (history.combine history).record .percentage 1 = .ok ⟨key, .percentage share⟩ ∧
      share.matched = 9223372036854775807 ∧ share.total = 9223372036854775807 ∧
      ∃ percentage : Int64, percentage.toInt = 10000 ∧
        Record.calculate ⟨key, .percentage share⟩ =
          .ok ⟨key, .percentage { share with percentage }⟩ := by
  intro key counted history
  have shares : ∀ feed ∈ (history.combine history).feeds, feed.IsShare := by
    have own : ∀ feed ∈ history.feeds, feed.IsShare := by
      intro feed mem
      simp only [history, counted, History.feeds, List.mem_cons, List.not_mem_nil, or_false] at mem
      rcases mem with rfl | rfl
      · trivial
      · exact ⟨by decide, by decide⟩
    intro feed mem
    exact (List.mem_append.1 mem).elim (own feed) (own feed)
  obtain ⟨share, made, -, -, -, -, -, -, derives⟩ := share_within_scale shares 1
  have limit : (history.combine history).record .percentage 1 =
      .ok ⟨key, .percentage ⟨9223372036854775807, 9223372036854775807, 0⟩⟩ := by decide +kernel
  obtain ⟨⟩ := made.symm.trans limit
  obtain ⟨percentage, calculated, -, -, -, whole⟩ := derives (by decide)
  exact ⟨_, limit, rfl, rfl, percentage, whole.2 rfl, calculated⟩

end Rollup
