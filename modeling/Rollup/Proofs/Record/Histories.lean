import Rollup.Proofs.Record.Neutrality
import Rollup.Proofs.Record.Sharding

/-!
What histories amount to. Records are made anew, fed and merged in any order and grouping, also a
record with itself. At every point of a history the accumulators are those of all its feeds, taken
in at once: `History.gathers`.
-/
namespace Rollup

namespace History

/-- What the record took in, by feeding or with a record that was merged into it. -/
def feeds : History → List Feed
  | new _ _ => []
  | feed history f => f :: history.feeds
  | combine history other => history.feeds ++ other.feeds

/-- How the record was made at first; it keeps this key and these ranks. -/
def root : History → Shard
  | new key ranks => ⟨key, ranks, []⟩
  | feed history _ | combine history _ => history.root

/-- Whatever was merged had taken in something. -/
def MergesFed : History → Prop
  | new _ _ => True
  | feed history _ => history.MergesFed
  | combine history other => history.MergesFed ∧ other.MergesFed ∧ other.feeds ≠ []

/-- By induction on the history. A record of averages that took in nothing may not be merged, since
its least part of zero would replace a true one. -/
theorem gathers {kind : Kind} (concrete : kind ≠ .singleValue) {precision : UInt32}
    (positive : 1 ≤ precision) {history : History} (admits : ∀ f ∈ history.feeds, kind.Admits f)
    (fed : kind = .average → history.MergesFed) :
    ∃ record, history.record kind precision = .ok record ∧
      record.Gathers kind precision history.root history.feeds := by
  induction history with
  | new key ranks =>
    obtain ⟨measure, made⟩ := Measure.exists_empty concrete precision ranks
    exact ⟨⟨key, measure⟩, record_new_eq_ok_iff.2 (Except.map_eq_ok_iff.2 ⟨measure, made, rfl⟩),
      .start positive made⟩
  | feed history f ih =>
    have admitted := fun g mem => admits g (List.mem_cons_of_mem f mem)
    obtain ⟨before, made, own⟩ := ih admitted fed
    obtain ⟨after, step, all⟩ := own.feed positive admitted (admits f List.mem_cons_self)
    exact ⟨after, record_feed_eq_ok_iff.2 ⟨before, made, step⟩, all⟩
  | combine history other ih ih' =>
    have admitted := fun g mem => admits g (List.mem_append_left other.feeds mem)
    have admitted' := fun g mem => admits g (List.mem_append_right history.feeds mem)
    obtain ⟨before, made, own⟩ := ih admitted fun average => (fed average).1
    obtain ⟨taken, made', own'⟩ := ih' admitted' fun average => (fed average).2.1
    obtain ⟨after, step, all⟩ :=
      own.combine own' admitted admitted' fun average => (fed average).2.2
    exact ⟨after, record_combine_eq_ok_iff.2 ⟨before, taken, made, made', step⟩, all⟩

/-- Only percentiles are counted in buckets of a width. -/
theorem record_eq_of_ne_percentile {kind : Kind} (other : kind ≠ .percentile)
    (precision width : UInt32) (history : History) :
    history.record kind precision = history.record kind width := by
  induction history with
  | new key ranks =>
    cases kind with
    | percentile => exact absurd rfl other
    | _ => rfl
  | feed history f ih => rw [record, ih, record]
  | combine history other ih ih' => rw [record, ih, ih', record]

theorem exists_accounts {kind : Kind} (concrete : kind ≠ .singleValue)
    (other : kind ≠ .percentile) (precision : UInt32) {history : History}
    (admits : ∀ f ∈ history.feeds, kind.Admits f) (fed : kind = .average → history.MergesFed) :
    ∃ measure, history.record kind precision = .ok ⟨history.root.key, measure⟩ ∧
      measure.kind = kind ∧ measure.Accounts 1 history.feeds := by
  obtain ⟨⟨key, measure⟩, made, own⟩ := gathers concrete (Std.le_refl 1) admits fed
  obtain rfl : key = history.root.key := own.key
  rw [record_eq_of_ne_percentile other precision 1]
  exact ⟨measure, made, own.kind_eq, own.accounts⟩

end History

end Rollup
