import Rollup.Proofs.Histogram.Lookup
import Rollup.Record.Basic
import Mathlib

/-!
What the accumulators of a measure stand for. `Measure.Accounts` says that they are those of a list
of feeds taken in at once: sums clamped once, the greatest and the least part, a count for each
bucket. Feeding and merging keep it (`accounts_feed`, `accounts_merge`), and it does not depend on
the order of the feeds (`accounts_perm`).
-/
namespace Rollup

namespace Amount

def greatestOf (amounts : List Int) : Int :=
  amounts.foldr max 0

/-- The least of some amounts, zero when there are none. -/
def leastOf (amounts : List Int) : Int :=
  amounts.min?.getD 0

theorem greatestOf_nonneg (amounts : List Int) : 0 ≤ greatestOf amounts := by
  induction amounts with
  | nil => exact Int.le_refl 0
  | cons a rest ih => exact Int.le_trans ih (Int.le_max_right ..)

theorem le_greatestOf {amounts : List Int} {n : Int} (mem : n ∈ amounts) :
    n ≤ greatestOf amounts := by
  induction amounts with
  | nil => contradiction
  | cons m rest ih =>
    rcases List.mem_cons.1 mem with rfl | mem
    · exact Int.le_max_left ..
    · exact Int.le_trans (ih mem) (Int.le_max_right ..)

theorem greatestOf_append (xs ys : List Int) :
    greatestOf (xs ++ ys) = max (greatestOf xs) (greatestOf ys) := by
  induction xs with
  | nil => exact (Int.max_eq_right (greatestOf_nonneg ys)).symm
  | cons x rest ih =>
    change max x (greatestOf (rest ++ ys)) = max (max x (greatestOf rest)) (greatestOf ys)
    rw [ih, Int.max_assoc]

theorem greatestOf_perm {xs ys : List Int} (h : xs.Perm ys) : greatestOf xs = greatestOf ys := by
  refine h.foldr_eq' (fun x _ y _ z => ?_) 0
  rw [← Int.max_assoc, ← Int.max_assoc, Int.max_comm y x]

theorem min?_eq_some_leastOf {amounts : List Int} (h : amounts ≠ []) :
    amounts.min? = some (leastOf amounts) := by
  obtain ⟨m, hm⟩ := Option.isSome_iff_exists.1 (List.isSome_min?_of_ne_nil h)
  rw [leastOf, hm, Option.getD_some]

theorem leastOf_eq_iff {amounts : List Int} (h : amounts ≠ []) {n : Int} :
    leastOf amounts = n ↔ n ∈ amounts ∧ ∀ m ∈ amounts, n ≤ m := by
  rw [← List.min?_eq_some_iff, min?_eq_some_leastOf h, Option.some_inj]

theorem leastOf_mem {amounts : List Int} (h : amounts ≠ []) : leastOf amounts ∈ amounts :=
  ((leastOf_eq_iff h).1 rfl).1

theorem leastOf_le {amounts : List Int} {n : Int} (mem : n ∈ amounts) : leastOf amounts ≤ n :=
  ((leastOf_eq_iff (List.ne_nil_of_mem mem)).1 rfl).2 n mem

theorem leastOf_singleton (n : Int) : leastOf [n] = n := rfl

theorem leastOf_nonneg {amounts : List Int} (h : ∀ n ∈ amounts, 0 ≤ n) : 0 ≤ leastOf amounts := by
  by_cases empty : amounts = []
  · rw [empty]
    decide
  · exact h _ (leastOf_mem empty)

theorem leastOf_append {xs ys : List Int} (hx : xs ≠ []) (hy : ys ≠ []) :
    leastOf (xs ++ ys) = min (leastOf xs) (leastOf ys) := by
  obtain ⟨memx, lex⟩ := (leastOf_eq_iff hx).1 rfl
  obtain ⟨memy, ley⟩ := (leastOf_eq_iff hy).1 rfl
  rw [leastOf_eq_iff (by simp [hx])]
  constructor
  · rcases Int.le_total (leastOf xs) (leastOf ys) with h | h
    · rw [Int.min_eq_left h]
      exact List.mem_append_left _ memx
    · rw [Int.min_eq_right h]
      exact List.mem_append_right _ memy
  · intro m mem
    rcases List.mem_append.1 mem with mem | mem
    · exact Int.le_trans (Int.min_le_left ..) (lex m mem)
    · exact Int.le_trans (Int.min_le_right ..) (ley m mem)

theorem leastOf_perm {xs ys : List Int} (h : xs.Perm ys) : leastOf xs = leastOf ys := by
  by_cases empty : xs = []
  · subst empty
    rw [List.nil_perm.1 h]
  · have other : ys ≠ [] := fun nil => empty (List.perm_nil.1 (nil ▸ h))
    obtain ⟨mem, le⟩ := (leastOf_eq_iff other).1 rfl
    exact (leastOf_eq_iff empty).2 ⟨h.mem_iff.2 mem, fun m hm => le m (h.mem_iff.1 hm)⟩

end Amount

namespace Feed

/-- The parts of a feed under the names of the accumulators; a part that a feed lacks is zero. -/
def summation : Feed → Int
  | aggregate summation _ _ _ => summation.toInt
  | _ => 0

def count : Feed → Int
  | aggregate _ count _ _ => count.toInt
  | _ => 0

def greatest : Feed → Int
  | aggregate _ _ greatest _ => greatest.toInt
  | _ => 0

def least : Feed → Int
  | aggregate _ _ _ least => least.toInt
  | _ => 0

def matched : Feed → Int
  | event isMatch => if isMatch then 1 else 0
  | counts matched _ => matched.toInt
  | _ => 0

def total : Feed → Int
  | event _ => 1
  | counts _ total => total.toInt
  | _ => 0

def value : Feed → Int
  | amount value => value.toInt
  | _ => 0

def bucket? (precision : UInt32) : Feed → Option Nat
  | observed value => some (value.toNat / precision.toNat)
  | _ => none

end Feed

/-- The feeds that a kind takes in, as far as no part is negative and every least part is at least
one. A maximum takes in any amount. -/
def Kind.Admits : Kind → Feed → Prop
  | .average, .aggregate summation count greatest least =>
    0 ≤ summation.toInt ∧ 0 ≤ count.toInt ∧ 0 ≤ greatest.toInt ∧ 1 ≤ least.toInt
  | .percentage, .event _ => True
  | .percentage, .counts matched total => 0 ≤ matched.toInt ∧ 0 ≤ total.toInt
  | .percentile, .observed _ => True
  | .cpm, .amount value | .sum, .amount value => 0 ≤ value.toInt
  | .max, .amount _ => True
  | _, _ => False

namespace Kind.Admits

variable {kind : Kind} {feed : Feed}

theorem sums_nonneg (h : kind.Admits feed) :
    0 ≤ feed.summation ∧ 0 ≤ feed.count ∧ 0 ≤ feed.matched ∧ 0 ≤ feed.total := by
  cases kind <;> cases feed <;> simp_all [Kind.Admits, Feed.summation, Feed.count, Feed.matched,
    Feed.total]
  split <;> decide

theorem value_nonneg (h : kind.Admits feed) (notMax : kind ≠ .max) : 0 ≤ feed.value := by
  cases kind <;> cases feed <;> simp_all [Kind.Admits, Feed.value]

theorem one_le_least (h : Kind.average.Admits feed) : 1 ≤ feed.least := by
  cases feed <;> simp_all [Kind.Admits, Feed.least]

end Kind.Admits

namespace Histogram

def tally (n : Nat) : Option Int64 :=
  if n = 0 then none else some (Amount.ofClamped n)

theorem merge_tally (m n : Nat) : (tally m).merge Amount.add (tally n) = tally (m + n) := by
  by_cases hm : m = 0
  · simp [tally, hm]
  · by_cases hn : n = 0
    · simp [tally, hn]
    · have sum : Amount.add (Amount.ofClamped m) (Amount.ofClamped n) =
          Amount.ofClamped (m + n) := by
        apply Int64.toInt_inj.1
        rw [Amount.toInt_add_of_clamp (Amount.toInt_ofClamped m) (Amount.toInt_ofClamped n)
          (Int.natCast_nonneg m) (Int.natCast_nonneg n), Amount.toInt_ofClamped]
      simp [tally, hm, hn, sum]

theorem tally_one : tally 1 = some 1 := rfl

end Histogram

open Amount

/-- The sums of an average are clamped once, its greatest and least parts are those of all feeds. -/
def Average.Accounts (feeds : List Feed) (average : Average) : Prop :=
  average.summation.toInt = clamp (feeds.map Feed.summation).sum ∧
    average.count.toInt = clamp (feeds.map Feed.count).sum ∧
    average.max.toInt = greatestOf (feeds.map Feed.greatest) ∧
    average.min.toInt = leastOf (feeds.map Feed.least)

/-- Every bucket holds the number of observations that fell into it, also clamped. -/
def Percentile.Accounts (precision : UInt32) (feeds : List Feed) (percentile : Percentile) : Prop :=
  percentile.precision = precision ∧
    ∀ bucket, percentile.dataset.get? bucket =
      Histogram.tally ((feeds.filterMap (Feed.bucket? precision)).count bucket.toNat)

/-- The accumulators of a measure are those of these feeds, taken in at once. -/
def Measure.Accounts (precision : UInt32) (feeds : List Feed) : Measure → Prop
  | .average a => a.Accounts feeds
  | .percentile p => p.Accounts precision feeds
  | .percentage s =>
    s.matched.toInt = clamp (feeds.map Feed.matched).sum ∧
      s.total.toInt = clamp (feeds.map Feed.total).sum
  | .cpm rate => rate.total.toInt = clamp (feeds.map Feed.value).sum
  | .sum value => value.toInt = clamp (feeds.map Feed.value).sum
  | .max value => value.toInt = greatestOf (feeds.map Feed.value)

namespace Measure

def drained : Measure → Measure
  | average a => average { Average.empty with value := a.value }
  | percentile p => percentile { p with dataset := .empty }
  | percentage s => percentage { Percentage.empty with percentage := s.percentage }
  | cpm rate => cpm { rate with total := 0 }
  | sum _ => sum 0
  | max _ => max 0

@[simp] theorem kind_drained (measure : Measure) : measure.drained.kind = measure.kind := by
  cases measure <;> rfl

theorem drained_empty {precision : UInt32} {ranks : List Int32} {kind : Kind} {measure : Measure}
    (h : empty precision ranks kind = .ok measure) : measure.drained = measure := by
  cases kind <;> cases h <;> rfl

theorem kind_empty {precision : UInt32} {ranks : List Int32} {kind : Kind} {measure : Measure}
    (h : empty precision ranks kind = .ok measure) : measure.kind = kind := by
  cases kind <;> cases h <;> rfl

theorem accounts_empty {precision : UInt32} (positive : 1 ≤ precision) {ranks : List Int32}
    {kind : Kind} {measure : Measure} (h : empty precision ranks kind = .ok measure) :
    measure.Accounts precision [] := by
  have nonzero : precision ≠ 0 := by
    rintro rfl
    exact absurd positive (by decide)
  cases kind <;> cases h
  case percentile => exact ⟨if_neg nonzero, fun _ => rfl⟩
  all_goals simp [Accounts, Average.Accounts, Average.empty, Percentage.empty, greatestOf, leastOf]

/-- The order in which feeds are listed does not matter. -/
theorem accounts_perm {precision : UInt32} {feeds others : List Feed} (h : feeds.Perm others)
    {measure : Measure} (accounts : measure.Accounts precision feeds) :
    measure.Accounts precision others := by
  have sums (part : Feed → Int) : (others.map part).sum = (feeds.map part).sum :=
    ((h.map part).sum_eq).symm
  have greatests (part : Feed → Int) := greatestOf_perm (h.map part)
  have leasts (part : Feed → Int) := leastOf_perm (h.map part)
  cases measure with
  | average a => simpa only [Accounts, Average.Accounts, sums, ← greatests, ← leasts] using accounts
  | percentile p =>
    refine ⟨accounts.1, fun bucket => ?_⟩
    rw [accounts.2 bucket, (h.filterMap _).count_eq]
  | percentage s => simpa only [Accounts, sums] using accounts
  | cpm rate => simpa only [Accounts, sums] using accounts
  | sum value => simpa only [Accounts, sums] using accounts
  | max value => simpa only [Accounts, ← greatests] using accounts

/-- A measure is known by what it keeps beside its accumulators and by the feeds they account
for. -/
theorem eq_of_accounts {precision : UInt32} {feeds : List Feed} {a b : Measure}
    (ha : a.Accounts precision feeds) (hb : b.Accounts precision feeds)
    (h : a.drained = b.drained) : a = b := by
  cases a <;> cases b <;> simp only [drained, reduceCtorEq] at h
  case average a b =>
    obtain ⟨⟩ := a
    obtain ⟨⟩ := b
    simp only [Accounts, Average.Accounts, average.injEq, Average.mk.injEq] at *
    simp_all [← Int64.toInt_inj]
  case percentile a b =>
    have data : a.dataset = b.dataset :=
      Histogram.eq_of_get? fun bucket => (ha.2 bucket).trans (hb.2 bucket).symm
    obtain ⟨⟩ := a
    obtain ⟨⟩ := b
    simp_all
  case percentage a b =>
    obtain ⟨⟩ := a
    obtain ⟨⟩ := b
    simp only [Accounts, percentage.injEq, Percentage.mk.injEq] at *
    simp_all [← Int64.toInt_inj]
  case cpm a b =>
    obtain ⟨⟩ := a
    obtain ⟨⟩ := b
    simp only [Accounts, cpm.injEq, Rate.mk.injEq] at *
    simp_all [← Int64.toInt_inj]
  case sum a b => exact congrArg sum (Int64.toInt_inj.1 (ha.trans hb.symm))
  case max a b => exact congrArg max (Int64.toInt_inj.1 (ha.trans hb.symm))

end Measure

/-- Sums of parts that are not negative add up, limit and all. -/
theorem toInt_add_of_parts {part : Feed → Int} {feeds others : List Feed} {a b : Int64}
    (ha : a.toInt = clamp (feeds.map part).sum) (hb : b.toInt = clamp (others.map part).sum)
    (hf : ∀ feed ∈ feeds, 0 ≤ part feed) (hg : ∀ feed ∈ others, 0 ≤ part feed) :
    (Amount.add a b).toInt = clamp ((feeds ++ others).map part).sum := by
  rw [List.map_append, List.sum_append_int]
  exact toInt_add_of_clamp ha hb (sum_map_nonneg hf) (sum_map_nonneg hg)

theorem Average.accounts_merge {feeds others : List Feed} {a b : Average}
    (ha : a.Accounts feeds) (hb : b.Accounts others)
    (hf : ∀ feed ∈ feeds, Kind.average.Admits feed)
    (hg : ∀ feed ∈ others, Kind.average.Admits feed) (fed : others ≠ []) :
    (a.merge b).Accounts (feeds ++ others) := by
  obtain ⟨asum, acount, amax, amin⟩ := ha
  obtain ⟨bsum, bcount, bmax, bmin⟩ := hb
  refine ⟨?_, ?_, ?_, ?_⟩
  · exact toInt_add_of_parts asum bsum (fun f mem => (hf f mem).sums_nonneg.1)
      fun g mem => (hg g mem).sums_nonneg.1
  · exact toInt_add_of_parts acount bcount (fun f mem => (hf f mem).sums_nonneg.2.1)
      fun g mem => (hg g mem).sums_nonneg.2.1
  · rw [List.map_append, greatestOf_append, ← amax, ← bmax]
    simp only [merge, feed, Int64.lt_iff_toInt_lt]
    split <;> omega
  · simp only [merge, feed, Int64.lt_iff_toInt_lt, ← Int64.toInt_inj, Int64.toInt_zero]
    rw [List.map_append]
    by_cases empty : feeds = []
    · -- nothing was seen yet, so the least part is the sentinel zero and is replaced
      subst empty
      have unset : a.min.toInt = 0 := amin
      rw [if_pos (.inr unset), bmin, List.map_nil, List.nil_append]
    · have mapped : feeds.map Feed.least ≠ [] := by simpa using empty
      -- a least part is at least one, so it never looks like the sentinel
      have set : 1 ≤ a.min.toInt := by
        obtain ⟨f, mem, eq⟩ := List.mem_map.1 (leastOf_mem mapped)
        rw [amin, ← eq]
        exact (hf f mem).one_le_least
      rw [leastOf_append mapped (by simpa using fed), ← amin, ← bmin]
      split <;> omega

theorem Percentile.accounts_merge {precision : UInt32} {feeds others : List Feed}
    {a b : Percentile} (ha : a.Accounts precision feeds) (hb : b.Accounts precision others) :
    (a.merge b).Accounts precision (feeds ++ others) := by
  refine ⟨ha.1, fun bucket => ?_⟩
  rw [Percentile.merge, Histogram.get?_append, ha.2, hb.2, Histogram.merge_tally,
    List.filterMap_append, List.count_append]

theorem Measure.toInt_greater (a b : Int64) :
    (Measure.greater a b).toInt = Max.max a.toInt b.toInt := by
  simp only [Measure.greater, Int64.lt_iff_toInt_lt]
  split <;> omega

/-- Merging accounts for the feeds of both sides, and changes accumulators only. An average that was
fed nothing would bring in a least part of zero, which stands for none. -/
theorem Measure.accounts_merge {precision : UInt32} {feeds others : List Feed} {a b : Measure}
    (ha : a.Accounts precision feeds) (hb : b.Accounts precision others) (same : a.kind = b.kind)
    (hf : ∀ feed ∈ feeds, a.kind.Admits feed) (hg : ∀ feed ∈ others, a.kind.Admits feed)
    (fed : a.kind = .average → others ≠ []) :
    ∃ c, a.merge b = .ok c ∧ c.Accounts precision (feeds ++ others) ∧ c.drained = a.drained := by
  cases a <;> cases b <;> simp only [Measure.kind, reduceCtorEq] at same
  case average a b =>
    exact ⟨_, rfl, Average.accounts_merge ha hb hf hg (fed rfl), rfl⟩
  case percentile a b =>
    exact ⟨_, rfl, Percentile.accounts_merge ha hb, rfl⟩
  case percentage a b =>
    refine ⟨_, rfl, ⟨?_, ?_⟩, rfl⟩
    · exact toInt_add_of_parts ha.1 hb.1 (fun f mem => (hf f mem).sums_nonneg.2.2.1)
        fun g mem => (hg g mem).sums_nonneg.2.2.1
    · exact toInt_add_of_parts ha.2 hb.2 (fun f mem => (hf f mem).sums_nonneg.2.2.2)
        fun g mem => (hg g mem).sums_nonneg.2.2.2
  case cpm a b =>
    refine ⟨_, rfl, toInt_add_of_parts ha hb (fun f mem => ?_) fun g mem => ?_, rfl⟩
    · exact (hf f mem).value_nonneg (by rw [Measure.kind]; decide)
    · exact (hg g mem).value_nonneg (by rw [Measure.kind]; decide)
  case sum a b =>
    refine ⟨_, rfl, toInt_add_of_parts ha hb (fun f mem => ?_) fun g mem => ?_, rfl⟩
    · exact (hf f mem).value_nonneg (by rw [Measure.kind]; decide)
    · exact (hg g mem).value_nonneg (by rw [Measure.kind]; decide)
  case max a b =>
    refine ⟨_, rfl, ?_, rfl⟩
    rw [Measure.Accounts, List.map_append, greatestOf_append, Measure.toInt_greater, ha, hb]

theorem Average.accounts_single {summation count greatest least : Int64}
    (h : Kind.average.Admits (.aggregate summation count greatest least)) :
    Average.Accounts [.aggregate summation count greatest least]
      ⟨summation, count, greatest, least, 0⟩ := by
  obtain ⟨-, -, positive, -⟩ := h
  refine ⟨?_, ?_, ?_, ?_⟩
  · simp [Feed.summation, clamp_toInt]
  · simp [Feed.count, clamp_toInt]
  · simp only [List.map_cons, List.map_nil, Feed.greatest, greatestOf, List.foldr_cons,
      List.foldr_nil]
    omega
  · simp [Feed.least, leastOf]

/-- A record that counts one observation, in the bucket it falls into. -/
def Percentile.single (precision : UInt32) (value : UInt64) : Percentile :=
  ⟨precision, Histogram.empty.increment (.ofNat (value.toNat / precision.toNat)) 1, .empty, []⟩

theorem Percentile.accounts_single (precision : UInt32) (value : UInt64) :
    (single precision value).Accounts precision [.observed value] := by
  refine ⟨rfl, fun other => ?_⟩
  have toNat : (UInt64.ofNat (value.toNat / precision.toNat)).toNat =
      value.toNat / precision.toNat :=
    UInt64.toNat_ofNat_of_lt' (Nat.lt_of_le_of_lt (Nat.div_le_self ..) value.toNat_lt)
  rw [single, Histogram.get?_increment, Histogram.get?_empty]
  by_cases same : other = .ofNat (value.toNat / precision.toNat)
  · simp [same, toNat, Feed.bucket?, Histogram.tally_one, Amount.zero_add]
  · have different : value.toNat / precision.toNat ≠ other.toNat := fun eq =>
      same (UInt64.toNat_inj.1 (eq.symm.trans toNat.symm))
    simp [same, Feed.bucket?, different, Histogram.tally, Histogram.get?_empty]

theorem Percentile.feed_eq_merge {percentile : Percentile} (positive : 1 ≤ percentile.precision)
    (value : UInt64) :
    percentile.feed value = .ok (percentile.merge (single percentile.precision value)) := by
  have nonzero : percentile.precision ≠ 0 := by
    intro zero
    rw [zero] at positive
    exact absurd positive (by decide)
  rw [Percentile.feed, if_neg nonzero]
  rfl

theorem Percentage.feedEvent_eq_merge (share : Percentage) (isMatch : Bool) :
    share.feedEvent isMatch = share.merge ⟨1, if isMatch then 1 else 0, 0⟩ := by
  cases isMatch <;> simp [feedEvent, merge, feedCounts, Amount.add_zero]

/-- A greatest amount that is not negative has taken in the zero that it starts from. -/
theorem Measure.greater_greater {greatest : Int64} (start : 0 ≤ greatest.toInt) (value : Int64) :
    greater greatest (greater 0 value) = greater greatest value := by
  apply Int64.toInt_inj.1
  simp only [Measure.toInt_greater, Int64.toInt_zero]
  omega

/-- Feeding is merging with a measure that accounts for the one feed. -/
theorem Measure.feed_eq_merge {precision : UInt32} (positive : 1 ≤ precision)
    {feeds : List Feed} {measure : Measure} (accounts : measure.Accounts precision feeds)
    {feed : Feed} (h : measure.kind.Admits feed) :
    ∃ single : Measure, single.kind = measure.kind ∧ single.Accounts precision [feed] ∧
      measure.feed feed = Outcome.ofExcept (measure.merge single) := by
  cases measure <;> cases feed <;> simp only [Measure.kind, Kind.Admits] at h
  case average.aggregate a summation count greatest least =>
    exact ⟨.average ⟨summation, count, greatest, least, 0⟩, rfl, Average.accounts_single h, rfl⟩
  case percentile.observed p value =>
    obtain rfl : p.precision = precision := accounts.1
    refine ⟨.percentile (.single p.precision value), rfl,
      Percentile.accounts_single p.precision value, ?_⟩
    rw [Measure.feed, Percentile.feed_eq_merge positive]
    rfl
  case percentage.event s isMatch =>
    refine ⟨.percentage ⟨1, if isMatch then 1 else 0, 0⟩, rfl, ⟨?_, rfl⟩, ?_⟩
    · cases isMatch <;> rfl
    · rw [Measure.feed, Percentage.feedEvent_eq_merge]
      rfl
  case percentage.counts s matched total =>
    refine ⟨.percentage ⟨total, matched, 0⟩, rfl, ⟨?_, ?_⟩, rfl⟩
    · simp [Feed.matched, clamp_toInt]
    · simp [Feed.total, clamp_toInt]
  case cpm.amount rate value =>
    refine ⟨.cpm ⟨value, 0⟩, rfl, ?_, rfl⟩
    simp [Measure.Accounts, Feed.value, clamp_toInt]
  case sum.amount total value =>
    refine ⟨.sum value, rfl, ?_, rfl⟩
    simp [Measure.Accounts, Feed.value, clamp_toInt]
  case max.amount greatest value =>
    have start : 0 ≤ greatest.toInt := accounts ▸ greatestOf_nonneg _
    refine ⟨.max (Measure.greater 0 value), rfl, ?_, ?_⟩
    · simp only [Measure.Accounts, Measure.toInt_greater, Feed.value, greatestOf, List.map_cons,
        List.map_nil, List.foldr_cons, List.foldr_nil, Int64.toInt_zero]
      omega
    · simp only [Measure.feed, Measure.merge, Outcome.ofExcept, greater_greater start]

theorem Measure.accounts_feed {precision : UInt32} (positive : 1 ≤ precision)
    {feeds : List Feed} {measure : Measure} (accounts : measure.Accounts precision feeds)
    (hf : ∀ feed ∈ feeds, measure.kind.Admits feed) {feed : Feed} (h : measure.kind.Admits feed) :
    ∃ fed, measure.feed feed = .ok fed ∧ fed.Accounts precision (feed :: feeds) ∧
      fed.drained = measure.drained := by
  obtain ⟨single, same, ofOne, eq⟩ := feed_eq_merge positive accounts h
  have admitted : ∀ g ∈ [feed], measure.kind.Admits g := by simpa using h
  obtain ⟨fed, merged, after, kept⟩ :=
    accounts_merge accounts ofOne same.symm hf admitted fun _ => List.cons_ne_nil _ _
  refine ⟨fed, ?_, accounts_perm ?_ after, kept⟩
  · rw [eq, merged]
    rfl
  · exact List.perm_append_comm

end Rollup
