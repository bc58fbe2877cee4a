import Rollup.Proofs.Percentile.OrderStatistics

/-!
Percentiles for ranks in any order. The walk never goes back to an earlier bucket, so a rank that
stands behind a greater one is answered as if it were that one: the walk meets the greatest roof so
far (`bounds_peaks`). Main statement: `values_of_greatest_ranks`, each value is the one that the
greatest rank up to its position gets alone; for a rank with no greater one before it this is its
own value.
-/
namespace Rollup.Percentile

/-- The greatest roof up to each position. -/
def peaks : List Int → List Int
  | [] => []
  | roof :: rest => roof :: (peaks rest).map (max roof)

theorem length_peaks (roofs : List Int) : (peaks roofs).length = roofs.length := by
  induction roofs with
  | nil => rfl
  | cons roof rest ih => rw [peaks, List.length_cons, List.length_map, ih, List.length_cons]

theorem peaks_ascending (roofs : List Int) : (peaks roofs).Pairwise (· ≤ ·) := by
  induction roofs with
  | nil => exact .nil
  | cons roof rest ih =>
    refine .cons (fun peak mem => ?_) (List.pairwise_map.2 (ih.imp fun below => ?_))
    · obtain ⟨later, -, rfl⟩ := List.mem_map.1 mem
      exact Int.le_max_left ..
    · omega

theorem getElem?_peaks_eq_some_iff {roofs : List Int} {i : Nat} {peak : Int} :
    (peaks roofs)[i]? = some peak ↔ i < roofs.length ∧ peak ∈ roofs.take (i + 1) ∧
      ∀ roof ∈ roofs.take (i + 1), roof ≤ peak := by
  induction roofs generalizing i peak with
  | nil => simp [peaks]
  | cons first rest ih =>
    cases i with
    | zero => simpa [peaks, eq_comm] using (Int.le_of_eq : first = peak → first ≤ peak)
    | succ i =>
      rw [peaks, List.getElem?_cons_succ, List.getElem?_map, Option.map_eq_some_iff,
        List.length_cons, List.take_succ_cons, List.forall_mem_cons, List.mem_cons]
      constructor
      · rintro ⟨later, at_, rfl⟩
        obtain ⟨inside, mem, above⟩ := ih.1 at_
        refine ⟨by omega, ?_, Int.le_max_left .., fun roof listed => ?_⟩
        · rcases Int.le_total first later with below | below
          · rw [Int.max_eq_right below]
            exact .inr mem
          · exact .inl (Int.max_eq_left below)
        · exact Int.le_trans (above roof listed) (Int.le_max_right ..)
      · rintro ⟨inside, mem, head, above⟩
        have inside' : i < (peaks rest).length := by
          rw [length_peaks]
          omega
        obtain ⟨-, listed, highest⟩ := ih.1 (List.getElem?_eq_getElem inside')
        refine ⟨_, List.getElem?_eq_getElem inside', ?_⟩
        have low := above _ listed
        rcases mem with rfl | mem
        · exact Int.max_eq_left low
        · have high := highest peak mem
          omega

theorem le_comp_max {roof seen : Int} (h : roof ≤ seen) :
    (fun peak => decide (peak ≤ seen)) ∘ max roof = fun peak => decide (peak ≤ seen) := by
  funext peak
  simp [h]

/-- By induction on the roofs: a bucket answers as many peaks as roofs. -/
theorem length_takeWhile_peaks (roofs : List Int) (seen : Int) :
    ((peaks roofs).takeWhile (· ≤ seen)).length = (roofs.takeWhile (· ≤ seen)).length := by
  induction roofs with
  | nil => rfl
  | cons roof rest ih =>
    by_cases reached : roof ≤ seen
    · rw [peaks, List.takeWhile_cons_of_pos (by simpa using reached),
        List.takeWhile_cons_of_pos (by simpa using reached), List.takeWhile_map,
        le_comp_max reached, List.length_cons, List.length_map, ih, List.length_cons]
    · rw [peaks, List.takeWhile_cons_of_neg (by simpa using reached),
        List.takeWhile_cons_of_neg (by simpa using reached)]

theorem lt_of_mem_peaks_dropWhile {roofs : List Int} {seen peak : Int}
    (h : peak ∈ peaks (roofs.dropWhile (· ≤ seen))) : seen < peak := by
  induction roofs with
  | nil => contradiction
  | cons roof rest ih =>
    by_cases reached : roof ≤ seen
    · rw [List.dropWhile_cons_of_pos (by simpa using reached)] at h
      exact ih h
    · rw [List.dropWhile_cons_of_neg (by simpa using reached), peaks] at h
      rcases List.mem_cons.1 h with rfl | h
      · exact Int.not_le.1 reached
      · obtain ⟨later, -, rfl⟩ := List.mem_map.1 h
        exact Int.lt_of_lt_of_le (Int.not_le.1 reached) (Int.le_max_left ..)

/-- Roofs that were answered leave no trace in the peaks of the others. -/
theorem dropWhile_peaks (roofs : List Int) (seen : Int) :
    (peaks roofs).dropWhile (· ≤ seen) = peaks (roofs.dropWhile (· ≤ seen)) := by
  induction roofs with
  | nil => rfl
  | cons roof rest ih =>
    by_cases reached : roof ≤ seen
    · have above : ∀ peak ∈ peaks (rest.dropWhile (· ≤ seen)), max roof peak = peak :=
        fun peak mem => Int.max_eq_right
          (Int.le_of_lt (Int.lt_of_le_of_lt reached (lt_of_mem_peaks_dropWhile mem)))
      rw [peaks, List.dropWhile_cons_of_pos (by simpa using reached),
        List.dropWhile_cons_of_pos (by simpa using reached), List.dropWhile_map,
        le_comp_max reached, ih, List.map_congr_left above, List.map_id']
    · rw [peaks, List.dropWhile_cons_of_neg (by simpa using reached),
        List.dropWhile_cons_of_neg (by simpa using reached), peaks]

/-- The walk finds for each roof what it finds for the greatest roof so far. -/
theorem bounds_peaks (precision : UInt32) (entries : List (UInt64 × Int64)) (before : Int)
    (roofs : List Int) :
    bounds precision entries before (peaks roofs) = bounds precision entries before roofs := by
  induction entries generalizing before roofs with
  | nil => rfl
  | cons head rest ih =>
    obtain ⟨bucket, count⟩ := head
    have none : (peaks roofs).takeWhile (· ≤ before + count.toInt) = [] ↔
        roofs.takeWhile (· ≤ before + count.toInt) = [] := by
      rw [← List.length_eq_zero_iff, length_takeWhile_peaks, List.length_eq_zero_iff]
    simp only [bounds, dropWhile_peaks, ih, length_takeWhile_peaks, none]

theorem reachedAt_eq_none_of_le {entries : List (UInt64 × Int64)} {before roof other : Int}
    (below : roof ≤ other) (h : reachedAt entries before roof = none) :
    reachedAt entries before other = none := by
  induction entries generalizing before with
  | nil => rfl
  | cons head rest ih =>
    obtain ⟨bucket, count⟩ := head
    rw [reachedAt] at h ⊢
    split at h
    · contradiction
    · next missed =>
      rw [if_neg (by omega)]
      exact ih h

theorem mem_of_reachedAt {entries : List (UInt64 × Int64)} {before roof : Int} {bucket : UInt64}
    (h : reachedAt entries before roof = some bucket) : ∃ count, (bucket, count) ∈ entries := by
  induction entries generalizing before with
  | nil => contradiction
  | cons head rest ih =>
    obtain ⟨first, count⟩ := head
    rw [reachedAt] at h
    split at h
    · cases h
      exact ⟨count, List.mem_cons_self⟩
    · obtain ⟨own, mem⟩ := ih h
      exact ⟨own, List.mem_cons_of_mem _ mem⟩

/-- For roofs in any order the walk finds each peak by itself. -/
theorem bounds_eq_peaks (precision : UInt32) (entries : List (UInt64 × Int64)) (before : Int)
    (roofs : List Int) :
    bounds precision entries before roofs =
      ((peaks roofs).filterMap (reachedAt entries before)).mapM (lowerBound precision) := by
  rw [← bounds_peaks, bounds_eq _ _ _ (peaks_ascending roofs)]

/-- The lower bound of a bucket, where it is no more than the greatest amount. -/
def boundOf (precision : UInt32) (bucket : UInt64) : Int64 :=
  Amount.ofClamped ((bucket.toNat * precision.toNat : Nat) : Int)

theorem mapM_lowerBound (precision : UInt32) (buckets : List UInt64) :
    buckets.mapM (lowerBound precision) =
      if ∀ bucket ∈ buckets, bucket.toNat * precision.toNat < UInt64.size then
        .ok (buckets.map (boundOf precision))
      else .error (.crash .bucketOverflow) := by
  split
  · next fits => exact Except.mapM_eq_ok fun bucket mem => if_pos (fits bucket mem)
  · next misfit =>
    induction buckets with
    | nil => exact absurd (List.forall_mem_nil _) misfit
    | cons bucket rest ih =>
      rw [List.mapM_cons]
      by_cases fits : bucket.toNat * precision.toNat < UInt64.size
      · rw [ih fun others => misfit (List.forall_mem_cons.2 ⟨fits, others⟩), lowerBound]
        simp only [if_pos fits]
        rfl
      · rw [lowerBound]
        simp only [if_neg fits]
        rfl

section Answers

variable (percentile : Percentile)

/-- The buckets that answer the ranks, up to the first one that is not reached. -/
def answering : List UInt64 :=
  (peaks (percentile.ranks.map (roof percentile.dataset.total.toInt))).filterMap
    (reachedAt percentile.dataset.entries 0)

theorem getElem?_answering (index : Nat) :
    percentile.answering[index]? =
      (peaks (percentile.ranks.map (roof percentile.dataset.total.toInt)))[index]?.bind
        (reachedAt percentile.dataset.entries 0) := by
  rw [answering, getElem?_filterMap_of_pairwise]
  exact (peaks_ascending _).imp fun below => reachedAt_eq_none_of_le below

theorem length_answering_le : percentile.answering.length ≤ percentile.ranks.length := by
  refine Nat.le_trans (List.length_filterMap_le ..) ?_
  rw [length_peaks, List.length_map]

/-- One closed form for every outcome of deriving. -/
theorem calculate_eq :
    percentile.calculate =
      if percentile.dataset.total = 0 then .ok { percentile with values := .empty }
      else if ∀ bucket ∈ percentile.answering,
          bucket.toNat * percentile.precision.toNat < UInt64.size then
        .ok { percentile with
          values := table (percentile.answering.map (boundOf percentile.precision)) }
      else .error (.crash .bucketOverflow) := by
  rw [calculate]
  split
  · rfl
  · simp only [bounds_eq_peaks]
    rw [← answering, mapM_lowerBound]
    split <;> rfl

variable {percentile}

theorem get?_of_calculate (some : percentile.dataset.total ≠ 0)
    (addressable : percentile.ranks.length ≤ UInt64.size) {derived : Percentile}
    (calculated : percentile.calculate = .ok derived) (index : UInt64) :
    derived.values.get? index =
      (percentile.answering[index.toNat]?).map (boundOf percentile.precision) := by
  rw [calculate_eq, if_neg some] at calculated
  split at calculated
  · cases calculated
    have short : (percentile.answering.map (boundOf percentile.precision)).length ≤
        UInt64.size := by
      rw [List.length_map]
      exact Nat.le_trans percentile.length_answering_le addressable
    rw [get?_table short, List.getElem?_map]
  · contradiction

end Answers

def valueAt? (percentile : Percentile) (roof : Int) : Option Int64 :=
  (reachedAt percentile.dataset.entries 0 roof).map fun bucket =>
    Amount.ofClamped ((bucket.toNat * percentile.precision.toNat : Nat) : Int)

section Calculated

variable {percentile : Percentile}
  (fits : ∀ bucket ∈ percentile.dataset.keys,
    bucket.toNat * percentile.precision.toNat < UInt64.size)

include fits

theorem exists_calculated (addressable : percentile.ranks.length ≤ UInt64.size) :
    ∃ derived, percentile.calculate = .ok derived ∧ ∀ index : UInt64,
      derived.values.get? index =
        if percentile.dataset.total = 0 then none
        else (peaks (percentile.ranks.map (roof percentile.dataset.total.toInt)))[index.toNat]?.bind
          percentile.valueAt? := by
  by_cases zero : percentile.dataset.total = 0
  · rw [calculate_eq, if_pos zero]
    exact ⟨_, rfl, fun _ => (if_pos zero).symm⟩
  · have answersFit : ∀ bucket ∈ percentile.answering,
        bucket.toNat * percentile.precision.toNat < UInt64.size := by
      intro bucket mem
      obtain ⟨roof, -, reached⟩ := List.mem_filterMap.1 mem
      obtain ⟨count, listed⟩ := mem_of_reachedAt reached
      exact fits bucket (List.mem_map_of_mem listed)
    have calculated := percentile.calculate_eq
    rw [if_neg zero, if_pos answersFit] at calculated
    refine ⟨_, calculated, fun index => ?_⟩
    rw [get?_of_calculate zero addressable calculated, getElem?_answering, Option.map_bind,
      if_neg zero]
    rfl

theorem exists_calculated_alone (rank : Int32) :
    ∃ alone, ({ percentile with ranks := [rank] } : Percentile).calculate = .ok alone ∧
      alone.values.get? 0 = if percentile.dataset.total = 0 then none
        else percentile.valueAt? (roof percentile.dataset.total.toInt rank) := by
  have one : [rank].length ≤ UInt64.size := Nat.succ_le_of_lt (Nat.zero_lt_succ _)
  obtain ⟨alone, calculated, get⟩ := @exists_calculated { percentile with ranks := [rank] } fits one
  exact ⟨alone, calculated, get 0⟩

end Calculated

/-- Ranks in any order, some of them perhaps out of reach. The value at a position is the one that
the greatest rank up to there gets when it is asked for alone. So a rank that no greater one stands
before has the value, or none, that it has alone. -/
theorem values_of_greatest_ranks {percentile : Percentile} (counted : percentile.dataset.Counted)
    (fits : ∀ bucket ∈ percentile.dataset.keys,
      bucket.toNat * percentile.precision.toNat < UInt64.size)
    (addressable : percentile.ranks.length ≤ UInt64.size) :
    ∃ derived, percentile.calculate = .ok derived ∧
      ∀ (index : UInt64) (rank : Int32), percentile.ranks[index.toNat]? = some rank →
        (∃ greatest ∈ percentile.ranks.take (index.toNat + 1),
          (∀ other ∈ percentile.ranks.take (index.toNat + 1), other ≤ greatest) ∧
          ∃ alone, ({ percentile with ranks := [greatest] } : Percentile).calculate = .ok alone ∧
            derived.values.get? index = alone.values.get? 0) ∧
        ((∀ earlier ∈ percentile.ranks.take index.toNat, earlier ≤ rank) →
          ∃ alone, ({ percentile with ranks := [rank] } : Percentile).calculate = .ok alone ∧
            derived.values.get? index = alone.values.get? 0) := by
  obtain ⟨derived, calculated, get⟩ := exists_calculated fits addressable
  refine ⟨derived, calculated, fun index rank at_ => ?_⟩
  have inside : index.toNat < percentile.ranks.length := (List.getElem?_eq_some_iff.1 at_).1
  have upTo : percentile.ranks.take (index.toNat + 1) =
      percentile.ranks.take index.toNat ++ [rank] := by
    rw [List.take_add_one, at_, Option.toList_some]
  have answer {greatest : Int32} (mem : greatest ∈ percentile.ranks.take (index.toNat + 1))
      (highest : ∀ other ∈ percentile.ranks.take (index.toNat + 1), other ≤ greatest) :
      ∃ alone, ({ percentile with ranks := [greatest] } : Percentile).calculate = .ok alone ∧
        derived.values.get? index = alone.values.get? 0 := by
    obtain ⟨alone, calculatedAlone, value⟩ := exists_calculated_alone fits greatest
    have peak : (peaks (percentile.ranks.map (roof percentile.dataset.total.toInt)))[index.toNat]? =
        some (roof percentile.dataset.total.toInt greatest) := by
      rw [getElem?_peaks_eq_some_iff, List.length_map, ← List.map_take]
      refine ⟨inside, List.mem_map_of_mem mem, List.forall_mem_map.2 fun other listed => ?_⟩
      exact roof_le_roof counted.total_nonneg (Int32.le_iff_toInt_le.1 (highest other listed))
    exact ⟨alone, calculatedAlone, by rw [get, value, peak, Option.bind_some]⟩
  constructor
  · have some : (percentile.ranks.take (index.toNat + 1)).toFinset.Nonempty :=
      ⟨rank, by simp [upTo]⟩
    obtain ⟨greatest, mem, highest⟩ := Finset.exists_max_image _ Int32.toInt some
    simp only [List.mem_toFinset] at mem highest
    have above := fun other listed => Int32.le_iff_toInt_le.2 (highest other listed)
    exact ⟨greatest, mem, above, answer mem above⟩
  · intro first
    refine answer (by simp [upTo]) fun other mem => ?_
    rw [upTo, List.mem_append, List.mem_singleton] at mem
    rcases mem with mem | rfl
    · exact first other mem
    · exact Int32.le_refl _

/-- A rank that is asked for twice, and one behind a greater one. -/
theorem values_of_greatest_ranks_unordered :
    let dataset := Histogram.ofList [(1, 50), (7, 49), (9, 1)]
    let percentile : Percentile := ⟨10, dataset, .empty, [50, 50, 100, 75]⟩
    let single : Percentile := { percentile with ranks := [50] }
    ∃ derived alone, percentile.calculate = .ok derived ∧ single.calculate = .ok alone ∧
      derived.values.get? 1 = alone.values.get? 0 ∧
      ∃ greatest ∈ percentile.ranks, ∃ raised : Percentile,
        ({ percentile with ranks := [greatest] } : Percentile).calculate = .ok raised ∧
        derived.values.get? 3 = raised.values.get? 0 := by
  intro dataset percentile single
  have counted : dataset.Counted := Histogram.counted_ofList (by simp)
  have keys : dataset.keys = [1, 7, 9] := by decide +kernel
  have fits : ∀ bucket ∈ dataset.keys, bucket.toNat * percentile.precision.toNat < UInt64.size := by
    simp [keys, percentile, UInt64.size]
  obtain ⟨derived, calculated, values⟩ := @values_of_greatest_ranks percentile counted fits
    (by decide)
  have second : percentile.ranks[(1 : UInt64).toNat]? = some 50 := by decide +kernel
  have fourth : percentile.ranks[(3 : UInt64).toNat]? = some 75 := by decide +kernel
  obtain ⟨alone, calculatedAlone, own⟩ := (values 1 50 second).2 (by simp [percentile])
  obtain ⟨greatest, mem, -, raised, calculatedRaised, value⟩ := (values 3 75 fourth).1
  exact ⟨derived, alone, calculated, calculatedAlone, own, greatest, List.mem_of_mem_take mem,
    raised, calculatedRaised, value⟩

/-- Half of the observations are ones, but behind the rank 99 the rank 50 is answered with the
hundreds, and behind a rank that is never reached it has no value. -/
theorem values_differ_behind_greater_rank :
    let dataset := Histogram.ofList [(1, 50), (100, 50)]
    let unordered : Percentile := ⟨1, dataset, .empty, [99, 50]⟩
    let unreached : Percentile := ⟨1, dataset, .empty, [200, 50]⟩
    let alone : Percentile := ⟨1, dataset, .empty, [50]⟩
    unordered.calculate = .ok { unordered with values := .ofList [(0, 100), (1, 100)] } ∧
      unreached.calculate = .ok unreached ∧
      alone.calculate = .ok { alone with values := .ofList [(0, 1)] } := by
  decide +kernel

end Rollup.Percentile
