import Rollup.Proofs.Percentile.Observations
import Rollup.Proofs.Record.Interleaving

/-!
Records that saw no event. Such a record takes on the accumulators of whatever is merged into it.
Merged into another, it changes nothing, unless that is an average with a least part: this becomes
the zero that stands for none. Main statement: `fresh_records_neutral`, as long as no least part is
lost that way, records without events can be merged at any point of a history.
-/
namespace Rollup

/-- How a record came about. -/
inductive History
  | new (key : Record.Key) (ranks : List Int32)
  | feed (history : History) (f : Feed)
  | combine (history other : History)

def History.record (kind : Kind) (precision : UInt32) : History → Outcome Record
  | new key ranks => Record.empty kind key precision ranks
  | feed history f => do
    let record ← history.record kind precision
    record.feed f
  | combine history other => do
    let record ← history.record kind precision
    let taken ← other.record kind precision
    record.combine taken

/-- A measure with what is not accumulated blanked: the display fields and the ranks. -/
def Measure.accumulators : Measure → Measure
  | percentile p => percentile { p with values := .empty, ranks := [] }
  | m => m.bare

/-- What feeding and merging keep: a greatest value starts at zero and never falls, and the buckets
of a histogram keep their width. -/
def Measure.Grown (precision : UInt32) : Measure → Prop
  | average a => 0 ≤ a.max.toInt
  | percentile p => p.precision = Percentile.width precision
  | max value => 0 ≤ value.toInt
  | _ => True

/-- The least part of an average is not above the zero that stands for none. -/
def Measure.LeastUnset (m : Measure) : Prop :=
  ∀ a, m = average a → a.min.toInt ≤ 0

namespace Measure

theorem toInt_le_greater (value next : Int64) : value.toInt ≤ (greater value next).toInt := by
  rw [toInt_greater]
  exact Int.le_max_left _ _

theorem greater_zero {value : Int64} (h : 0 ≤ value.toInt) : greater value 0 = value := by
  rw [← Int64.toInt_inj, toInt_greater, Int64.toInt_zero]
  exact Int.max_eq_left h

theorem zero_greater {value : Int64} (h : 0 ≤ value.toInt) : greater 0 value = value := by
  rw [← Int64.toInt_inj, toInt_greater, Int64.toInt_zero]
  exact Int.max_eq_right h

end Measure

namespace Average

variable {a : Average}

theorem empty_merge (grown : 0 ≤ a.max.toInt) : empty.merge a = { a with value := 0 } := calc
  empty.merge a = ⟨Amount.add 0 a.summation, Amount.add 0 a.count, Measure.greater 0 a.max,
      if a.min < 0 ∨ (0 : Int64) = 0 then a.min else 0, 0⟩ := rfl
  _ = { a with value := 0 } := by
    rw [Amount.zero_add, Amount.zero_add, Measure.zero_greater grown, if_pos (.inr rfl)]

theorem merge_empty (grown : 0 ≤ a.max.toInt) (unset : a.min.toInt ≤ 0) : a.merge empty = a := by
  have least : (if 0 < a.min ∨ a.min = 0 then 0 else a.min) = a.min := by
    split
    · next taken =>
      rcases taken with above | zero
      · exact absurd (Int64.lt_iff_toInt_lt.1 above) (Int.not_lt.2 unset)
      · exact zero.symm
    · rfl
  calc a.merge empty = ⟨Amount.add a.summation 0, Amount.add a.count 0, Measure.greater a.max 0,
        if 0 < a.min ∨ a.min = 0 then 0 else a.min, a.value⟩ := rfl
    _ = a := by
      rw [Amount.add_zero, Amount.add_zero, Measure.greater_zero grown, least]

end Average

namespace Measure

variable {precision : UInt32} {ranks : List Int32} {kind : Kind} {m fresh : Measure}

theorem feed_accumulators (m : Measure) (f : Feed) :
    m.accumulators.feed f = (m.feed f).map accumulators := by
  cases m with
  | percentile p =>
    cases f with
    | observed value =>
      simp only [accumulators, feed, Percentile.feed]
      split <;> rfl
    | _ => rfl
  | _ => cases f <;> rfl

theorem merge_accumulators (m other : Measure) :
    m.accumulators.merge other.accumulators = (m.merge other).map accumulators := by
  cases m <;> cases other <;> rfl

theorem grown_empty (h : empty precision ranks kind = .ok m) : m.Grown precision := by
  cases kind <;> cases h
  case percentile => rfl
  all_goals simp [Grown, Average.empty]

theorem grown_feed {f : Feed} {fed : Measure} (grown : m.Grown precision) (h : m.feed f = .ok fed) :
    fed.kind = m.kind ∧ fed.Grown precision := by
  cases m <;> cases f <;> simp only [feed, reduceCtorEq] at h
  case average.aggregate a summation count greatest least =>
    cases h
    exact ⟨rfl, Int.le_trans grown (toInt_le_greater _ _)⟩
  case percentile.observed p value =>
    obtain ⟨own, counted, eq⟩ := Except.bind_eq_ok_iff.1 h
    cases eq
    simp only [Percentile.feed] at counted
    split at counted
    · contradiction
    · cases counted
      exact ⟨rfl, grown⟩
  case max.amount value next =>
    cases h
    exact ⟨rfl, Int.le_trans grown (toInt_le_greater _ _)⟩
  all_goals
    cases h
    exact ⟨rfl, trivial⟩

theorem grown_merge {other merged : Measure} (grown : m.Grown precision)
    (h : m.merge other = .ok merged) : merged.kind = m.kind ∧ merged.Grown precision := by
  cases m <;> cases other <;> simp only [merge, reduceCtorEq] at h <;> cases h
  case average.average a b => exact ⟨rfl, Int.le_trans grown (toInt_le_greater _ _)⟩
  case percentile.percentile p q => exact ⟨rfl, grown⟩
  case max.max value next => exact ⟨rfl, Int.le_trans grown (toInt_le_greater _ _)⟩
  all_goals exact ⟨rfl, trivial⟩

theorem exists_fresh (precision : UInt32) (ranks : List Int32) (same : m.kind = kind) :
    ∃ fresh, empty precision ranks kind = .ok fresh := by
  subst same
  cases m <;> exact ⟨_, rfl⟩

theorem exists_fresh_merge (made : empty precision ranks kind = .ok fresh) (same : m.kind = kind)
    (grown : m.Grown precision) :
    ∃ own, fresh.merge m = .ok own ∧ own.accumulators = m.accumulators := by
  subst same
  cases m <;> cases made <;> refine ⟨_, rfl, ?_⟩
  case average a =>
    rw [Average.empty_merge grown]
    rfl
  case percentile p =>
    obtain ⟨_, dataset, values, own⟩ := p
    obtain rfl := grown
    simp only [Percentile.merge, Percentile.empty, Histogram.empty_append, accumulators]
    rfl
  case max value =>
    rw [zero_greater grown]
  case percentage share =>
    simp only [Percentage.merge, Percentage.feedCounts, Percentage.empty, Amount.zero_add,
      accumulators, bare]
  case cpm rate =>
    simp only [Amount.zero_add, accumulators, bare]
  case sum value =>
    rw [Amount.zero_add]

/-- Merging a measure that was fed nothing changes nothing. -/
theorem merge_fresh (made : empty precision ranks kind = .ok fresh) (same : m.kind = kind)
    (grown : m.Grown precision) (unset : m.LeastUnset) : m.merge fresh = .ok m := by
  subst same
  cases m <;> cases made
  case average a =>
    rw [merge, Average.merge_empty grown (unset a rfl)]
  case percentile p =>
    rw [merge, Percentile.merge, Percentile.empty, Histogram.append_empty]
  case percentage share =>
    simp only [merge, Percentage.merge, Percentage.feedCounts, Percentage.empty, Amount.add_zero]
  case cpm rate =>
    simp only [merge, Amount.add_zero]
  case sum value =>
    rw [merge, Amount.add_zero]
  case max value =>
    rw [merge, greater_zero grown]

end Measure

namespace Record

def accumulators (record : Record) : Measure :=
  record.measure.accumulators

theorem feed_accumulators (record : Record) (f : Feed) :
    (record.feed f).map accumulators = record.accumulators.feed f := by
  rw [accumulators, Measure.feed_accumulators, feed]
  cases record.measure.feed f <;> rfl

theorem combine_accumulators (record other : Record) :
    (record.combine other).map accumulators = record.accumulators.merge other.accumulators := by
  rw [accumulators, accumulators, Measure.merge_accumulators, combine]
  cases record.measure.merge other.measure <;> rfl

variable {kind : Kind} {precision : UInt32} {key : Record.Key} {ranks : List Int32}
  {record fresh : Record}

theorem exists_fresh_combine (made : Record.empty kind key precision ranks = .ok fresh)
    (same : record.measure.kind = kind) (grown : record.measure.Grown precision) :
    ∃ own, fresh.combine record = .ok own ∧ own.accumulators = record.accumulators := by
  obtain ⟨blank, empty, rfl⟩ := Except.map_eq_ok_iff.1 made
  obtain ⟨measure, merged, eq⟩ := Measure.exists_fresh_merge empty same grown
  exact ⟨⟨key, measure⟩, Except.map_eq_ok_iff.2 ⟨measure, merged, rfl⟩, eq⟩

theorem combine_fresh (made : Record.empty kind key precision ranks = .ok fresh)
    (same : record.measure.kind = kind) (grown : record.measure.Grown precision)
    (unset : record.measure.LeastUnset) : record.combine fresh = .ok record := by
  obtain ⟨blank, empty, rfl⟩ := Except.map_eq_ok_iff.1 made
  rw [combine, Measure.merge_fresh empty same grown unset]
  rfl

theorem exists_fresh (key : Record.Key) (precision : UInt32) (ranks : List Int32)
    (same : record.measure.kind = kind) :
    ∃ fresh, Record.empty kind key precision ranks = .ok fresh := by
  obtain ⟨blank, made⟩ := Measure.exists_fresh precision ranks same
  exact ⟨⟨key, blank⟩, Except.map_eq_ok_iff.2 ⟨blank, made, rfl⟩⟩

end Record

namespace History

/-- The same history, but for records without events that are merged in. -/
inductive Padded (kind : Kind) (precision : UInt32) : History → History → Prop
  | new (key : Record.Key) (ranks : List Int32) :
    Padded kind precision (.new key ranks) (.new key ranks)
  | feed {history padded : History} (f : Feed) (h : Padded kind precision history padded) :
    Padded kind precision (.feed history f) (.feed padded f)
  | combine {history padded other otherPadded : History} (h : Padded kind precision history padded)
    (h' : Padded kind precision other otherPadded) :
    Padded kind precision (.combine history other) (.combine padded otherPadded)
  | before {history padded : History} (key : Record.Key) (ranks : List Int32)
    (h : Padded kind precision history padded) :
    Padded kind precision history (.combine (.new key ranks) padded)
  | after {history padded : History} (key : Record.Key) (ranks : List Int32)
    (h : Padded kind precision history padded)
    (unset : ∀ record, padded.record kind precision = .ok record → record.measure.LeastUnset) :
    Padded kind precision history (.combine padded (.new key ranks))

variable {kind : Kind} {precision : UInt32} {history padded other : History} {record : Record}

theorem record_new_eq_ok_iff {key : Record.Key} {ranks : List Int32} :
    (new key ranks).record kind precision = .ok record ↔
      Record.empty kind key precision ranks = .ok record :=
  Outcome.ofExcept_eq_ok_iff

theorem record_feed_eq_ok_iff {f : Feed} :
    (feed history f).record kind precision = .ok record ↔
      ∃ before, history.record kind precision = .ok before ∧ before.feed f = .ok record :=
  Except.bind_eq_ok_iff

theorem record_combine_eq_ok_iff :
    (combine history other).record kind precision = .ok record ↔
      ∃ own taken, history.record kind precision = .ok own ∧
        other.record kind precision = .ok taken ∧ own.combine taken = .ok record := by
  rw [History.record, Except.bind_eq_ok_iff]
  simp only [Except.bind_eq_ok_iff]
  constructor
  · rintro ⟨own, made, taken, other, merged⟩
    exact ⟨own, taken, made, other, Outcome.ofExcept_eq_ok_iff.1 merged⟩
  · rintro ⟨own, taken, made, other, merged⟩
    exact ⟨own, made, taken, other, Outcome.ofExcept_eq_ok_iff.2 merged⟩

/-- By induction on the history: every record is of its kind, and what steps keep is kept. -/
theorem grown (made : history.record kind precision = .ok record) :
    record.measure.kind = kind ∧ record.measure.Grown precision := by
  induction history generalizing record with
  | new key ranks =>
    obtain ⟨measure, blank, rfl⟩ := Except.map_eq_ok_iff.1 (record_new_eq_ok_iff.1 made)
    exact ⟨Measure.kind_empty blank, Measure.grown_empty blank⟩
  | feed history f ih =>
    obtain ⟨before, own, fed⟩ := record_feed_eq_ok_iff.1 made
    obtain ⟨measure, step, eq⟩ := Except.bind_eq_ok_iff.1 fed
    cases eq
    obtain ⟨same, grown⟩ := ih own
    obtain ⟨kept, after⟩ := Measure.grown_feed grown step
    exact ⟨kept.trans same, after⟩
  | combine history other ih _ =>
    obtain ⟨before, taken, own, -, merged⟩ := record_combine_eq_ok_iff.1 made
    obtain ⟨measure, step, rfl⟩ := Except.map_eq_ok_iff.1 merged
    obtain ⟨same, grown⟩ := ih own
    obtain ⟨kept, after⟩ := Measure.grown_merge grown step
    exact ⟨kept.trans same, after⟩

/-- By induction on the padding: it reaches a record with the same accumulators. -/
theorem Padded.exists_record (h : Padded kind precision history padded)
    (made : history.record kind precision = .ok record) :
    ∃ own, padded.record kind precision = .ok own ∧ own.accumulators = record.accumulators := by
  induction h generalizing record with
  | new key ranks => exact ⟨record, made, rfl⟩
  | feed f h ih =>
    obtain ⟨before, own, fed⟩ := record_feed_eq_ok_iff.1 made
    obtain ⟨other, found, same⟩ := ih own
    have step : (other.feed f).map Record.accumulators = .ok record.accumulators := by
      rw [Record.feed_accumulators, same, ← Record.feed_accumulators, fed]
      rfl
    obtain ⟨after, fed', eq⟩ := Except.map_eq_ok_iff.1 step
    exact ⟨after, record_feed_eq_ok_iff.2 ⟨other, found, fed'⟩, eq⟩
  | combine h h' ih ih' =>
    obtain ⟨before, taken, own, other, merged⟩ := record_combine_eq_ok_iff.1 made
    obtain ⟨before', found, same⟩ := ih own
    obtain ⟨taken', found', same'⟩ := ih' other
    have step : (before'.combine taken').map Record.accumulators = .ok record.accumulators := by
      rw [Record.combine_accumulators, same, same', ← Record.combine_accumulators, merged]
      rfl
    obtain ⟨after, merged', eq⟩ := Except.map_eq_ok_iff.1 step
    exact ⟨after, record_combine_eq_ok_iff.2 ⟨before', taken', found, found', merged'⟩, eq⟩
  | before key ranks h ih =>
    obtain ⟨own, found, same⟩ := ih made
    obtain ⟨ofKind, grown⟩ := grown found
    obtain ⟨fresh, blank⟩ := Record.exists_fresh key precision ranks ofKind
    obtain ⟨after, merged, eq⟩ := Record.exists_fresh_combine blank ofKind grown
    exact ⟨after, record_combine_eq_ok_iff.2
      ⟨fresh, own, record_new_eq_ok_iff.2 blank, found, merged⟩, eq.trans same⟩
  | after key ranks h unset ih =>
    obtain ⟨own, found, same⟩ := ih made
    obtain ⟨ofKind, grown⟩ := grown found
    obtain ⟨fresh, blank⟩ := Record.exists_fresh key precision ranks ofKind
    have merged := Record.combine_fresh blank ofKind grown (unset own found)
    exact ⟨own, record_combine_eq_ok_iff.2
      ⟨own, fresh, found, record_new_eq_ok_iff.2 blank, merged⟩, same⟩

end History

open History

/-- A record that saw no event takes on the accumulators of any other that is merged into it, and
leaves the other as it was when it is merged there, unless it had a least part. So such merges can
be added to a history at any point, and the accumulators come out the same. -/
theorem fresh_records_neutral {kind : Kind} {precision : UInt32} {history : History}
    {record : Record} (made : history.record kind precision = .ok record) :
    (∀ key ranks, ∃ fresh, Record.empty kind key precision ranks = .ok fresh ∧
      (∃ own, fresh.combine record = .ok own ∧ own.accumulators = record.accumulators) ∧
      (record.measure.LeastUnset → record.combine fresh = .ok record)) ∧
    ∀ padded, Padded kind precision history padded →
      ∃ own, padded.record kind precision = .ok own ∧
        own.accumulators = record.accumulators := by
  obtain ⟨ofKind, grown⟩ := History.grown made
  constructor
  · intro key ranks
    obtain ⟨fresh, blank⟩ := Record.exists_fresh key precision ranks ofKind
    exact ⟨fresh, blank, Record.exists_fresh_combine blank ofKind grown,
      Record.combine_fresh blank ofKind grown⟩
  · intro padded h
    exact h.exists_record made

/-- Two records without events before the first one, and one that takes in all. -/
theorem fresh_records_neutral_average :
    let key : Record.Key := ⟨"a", none, 202401011200⟩
    let idle : History := .new key []
    let padded : History := .combine idle
      (.feed (.feed (.combine idle idle) (.aggregate 8 2 5 3)) (.aggregate 1 1 1 1))
    ∃ own, padded.record .average 1 = .ok own ∧ own.accumulators = .average ⟨9, 3, 5, 1, 0⟩ := by
  intro key idle padded
  let history : History := .feed (.feed idle (.aggregate 8 2 5 3)) (.aggregate 1 1 1 1)
  have unset : ∀ record, idle.record .average 1 = .ok record → record.measure.LeastUnset := by
    intro record made a eq
    cases made
    cases eq
    decide
  have added : history.Padded .average 1 padded :=
    .before key [] (.feed _ (.feed _ (.after key [] (.new key []) unset)))
  have made : history.record .average 1 = .ok ⟨key, .average ⟨9, 3, 5, 1, 0⟩⟩ := by decide +kernel
  exact (fresh_records_neutral made).2 padded added

/-- An average whose least part is 5 takes in a record without events. Its least part becomes the
zero that stands for none, and the next one replaces it, though it is greater than 5. -/
theorem fresh_record_drops_least :
    let key : Record.Key := ⟨"a", none, 202401011200⟩
    let history : History := .feed (.new key []) (.aggregate 5 1 5 5)
    let padded : History := .combine history (.new key [])
    history.record .average 1 = .ok ⟨key, .average ⟨5, 1, 5, 5, 0⟩⟩ ∧
      padded.record .average 1 = .ok ⟨key, .average ⟨5, 1, 5, 0, 0⟩⟩ ∧
      (history.feed (.aggregate 7 1 7 7)).record .average 1 =
        .ok ⟨key, .average ⟨12, 2, 7, 5, 0⟩⟩ ∧
      (padded.feed (.aggregate 7 1 7 7)).record .average 1 =
        .ok ⟨key, .average ⟨12, 2, 7, 7, 0⟩⟩ := by
  decide +kernel

end Rollup
