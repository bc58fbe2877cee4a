import Rollup.Proofs.Histogram.Codec
import Rollup.Record.Percentile
import Mathlib.Data.List.Basic
import Mathlib.Data.List.TakeWhile

/-!
The walk that derives percentiles. It passes buckets and roofs once, side by side; for ascending
roofs this is the same as looking up each roof by itself, from the first bucket on (`bounds_eq`).
-/
namespace Rollup.Percentile

/-- The first bucket at which the running count comes up to a roof. -/
def reachedAt : List (UInt64 × Int64) → Int → Int → Option UInt64
  | [], _, _ => none
  | (bucket, count) :: rest, before, roof =>
    if roof ≤ before + count.toInt then some bucket else reachedAt rest (before + count.toInt) roof

theorem lt_of_mem_dropWhile {roofs : List Int} (sorted : roofs.Pairwise (· ≤ ·)) {seen roof : Int}
    (h : roof ∈ roofs.dropWhile (· ≤ seen)) : seen < roof := by
  induction roofs with
  | nil => contradiction
  | cons first rest ih =>
    by_cases reached : first ≤ seen
    · rw [List.dropWhile_cons_of_pos (by simpa using reached)] at h
      exact ih sorted.of_cons h
    · rw [List.dropWhile_cons_of_neg (by simpa using reached)] at h
      rcases List.mem_cons.1 h with rfl | h
      · exact Int.not_le.1 reached
      · exact Int.lt_of_lt_of_le (Int.not_le.1 reached) (List.rel_of_pairwise_cons sorted h)

theorem filterMap_reachedAt_of_le {roofs : List Int} (bucket : UInt64) (count : Int64)
    (rest : List (UInt64 × Int64)) (before : Int)
    (h : ∀ roof ∈ roofs, roof ≤ before + count.toInt) :
    roofs.filterMap (reachedAt ((bucket, count) :: rest) before) =
      List.replicate roofs.length bucket := by
  induction roofs with
  | nil => rfl
  | cons roof others ih =>
    have head : reachedAt ((bucket, count) :: rest) before roof = some bucket :=
      if_pos (h roof List.mem_cons_self)
    rw [List.filterMap_cons_some head, ih fun other mem => h other (List.mem_cons_of_mem _ mem)]
    rfl

theorem filterMap_reachedAt_of_lt {roofs : List Int} (bucket : UInt64) (count : Int64)
    (rest : List (UInt64 × Int64)) (before : Int)
    (h : ∀ roof ∈ roofs, before + count.toInt < roof) :
    roofs.filterMap (reachedAt ((bucket, count) :: rest) before) =
      roofs.filterMap (reachedAt rest (before + count.toInt)) := by
  apply List.filterMap_congr
  intro roof mem
  exact if_neg (Int.not_le.2 (h roof mem))

theorem mapM_replicate (f : UInt64 → Outcome Int64) (bucket : UInt64) (n : Nat) :
    (List.replicate n bucket).mapM f =
      if n = 0 then .ok [] else (f bucket).map (List.replicate n) := by
  induction n with
  | zero => rfl
  | succ n ih =>
    rw [List.replicate_succ, List.mapM_cons, ih]
    cases f bucket with
    | error failure => rfl
    | ok value =>
      rw [Except.ok_bind]
      cases n <;> rfl

/-- For ascending roofs the walk finds each by itself; one that is not reached is left out. -/
theorem bounds_eq (precision : UInt32) (entries : List (UInt64 × Int64)) (before : Int)
    {roofs : List Int} (sorted : roofs.Pairwise (· ≤ ·)) :
    bounds precision entries before roofs =
      (roofs.filterMap (reachedAt entries before)).mapM (lowerBound precision) := by
  induction entries generalizing before roofs with
  | nil =>
    have none : roofs.filterMap (reachedAt [] before) = [] :=
      List.filterMap_eq_nil_iff.2 fun _ _ => rfl
    rw [none]
    rfl
  | cons head rest ih =>
    obtain ⟨bucket, count⟩ := head
    let seen := before + count.toInt
    let reached := roofs.takeWhile (· ≤ seen)
    let later := roofs.dropWhile (· ≤ seen)
    have parts : roofs = reached ++ later := List.takeWhile_append_dropWhile.symm
    have below : ∀ roof ∈ reached, roof ≤ seen := fun roof mem => by
      simpa using List.mem_takeWhile_imp mem
    have above : ∀ roof ∈ later, seen < roof := fun roof mem => lt_of_mem_dropWhile sorted mem
    have step := ih seen (sorted.sublist (List.dropWhile_sublist (· ≤ seen)))
    have found : roofs.filterMap (reachedAt ((bucket, count) :: rest) before) =
        List.replicate reached.length bucket ++ later.filterMap (reachedAt rest seen) := by
      rw [parts, List.filterMap_append, filterMap_reachedAt_of_le _ _ _ _ below,
        filterMap_reachedAt_of_lt _ _ _ _ above]
    rw [found, List.mapM_append, mapM_replicate, ← step, bounds]
    by_cases none : reached = []
    · rw [if_pos (List.length_eq_zero_iff.2 none)]
      simp only [reached, seen] at none
      simp only [none, if_pos]
      rfl
    · rw [if_neg (fun zero => none (List.length_eq_zero_iff.1 zero))]
      simp only [reached, seen] at none
      simp only [if_neg none]
      rfl

theorem lowerBound_nonneg {precision : UInt32} {bucket : UInt64} {bound : Int64}
    (h : lowerBound precision bucket = .ok bound) : 0 ≤ bound := by
  simp only [lowerBound] at h
  split at h
  · rw [← Except.ok.inj h, Int64.le_iff_toInt_le, Amount.toInt_ofClamped, Int64.toInt_zero]
    exact Amount.clamp_nonneg (Int.natCast_nonneg _)
  · contradiction

theorem exists_of_mem_bounds {precision : UInt32} {entries : List (UInt64 × Int64)} {before : Int}
    {roofs : List Int} {found : List Int64}
    (h : bounds precision entries before roofs = .ok found) :
    ∀ bound ∈ found, ∃ entry ∈ entries, lowerBound precision entry.1 = .ok bound := by
  induction entries generalizing before roofs found with
  | nil =>
    cases h
    exact nofun
  | cons head rest ih =>
    obtain ⟨bucket, count⟩ := head
    have passedOn {later : List Int64} (eq : bounds precision rest (before + count.toInt)
        (roofs.dropWhile (· ≤ before + count.toInt)) = .ok later) :
        ∀ bound ∈ later, ∃ entry ∈ (bucket, count) :: rest,
          lowerBound precision entry.1 = .ok bound := by
      intro bound mem
      obtain ⟨entry, listed, lower⟩ := ih eq bound mem
      exact ⟨entry, List.mem_cons_of_mem _ listed, lower⟩
    simp only [bounds] at h
    split at h
    · rw [Except.ok_bind] at h
      obtain ⟨later, eq, h⟩ := Except.bind_eq_ok_iff.1 h
      cases h
      exact passedOn eq
    · obtain ⟨here, first, h⟩ := Except.bind_eq_ok_iff.1 h
      obtain ⟨later, eq, h⟩ := Except.bind_eq_ok_iff.1 h
      cases h
      obtain ⟨lower, own, rfl⟩ := Except.map_eq_ok_iff.1 first
      intro bound mem
      rcases List.mem_append.1 mem with mem | mem
      · rw [List.eq_of_mem_replicate mem]
        exact ⟨(bucket, count), List.mem_cons_self, own⟩
      · exact passedOn eq bound mem

theorem eq_of_calculate {percentile derived : Percentile}
    (h : percentile.calculate = .ok derived) :
    derived = { percentile with values := derived.values } := by
  rw [calculate] at h
  split at h
  · cases h
    rfl
  · obtain ⟨found, -, eq⟩ := Except.bind_eq_ok_iff.1 h
    cases eq
    rfl

/-- Every calculated value is the lower bound of a bucket of the dataset. -/
theorem exists_of_calculate {percentile calculated : Percentile}
    (h : percentile.calculate = .ok calculated) {index : UInt64} {bound : Int64}
    (shown : calculated.values.get? index = some bound) :
    ∃ entry ∈ percentile.dataset.entries, lowerBound percentile.precision entry.1 = .ok bound := by
  rw [calculate] at h
  split at h
  · cases h
    contradiction
  · obtain ⟨found, eq, h⟩ := Except.bind_eq_ok_iff.1 h
    cases h
    obtain ⟨⟨count, position⟩, listed, same⟩ :=
      List.mem_map.1 (Histogram.mem_of_get?_ofList shown)
    cases same
    exact exists_of_mem_bounds eq bound (List.fst_mem_of_mem_zipIdx listed)

/-- Calculated values have no negative count, so their text reads back. -/
theorem counted_of_calculate {percentile calculated : Percentile}
    (h : percentile.calculate = .ok calculated) : calculated.values.Counted := by
  rintro ⟨index, bound⟩ mem
  obtain ⟨entry, -, lower⟩ := exists_of_calculate h (Histogram.mem_entries_iff.1 mem)
  exact lowerBound_nonneg lower

end Rollup.Percentile
