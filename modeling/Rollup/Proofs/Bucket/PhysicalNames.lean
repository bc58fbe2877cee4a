import Rollup.Bucket.Partition
import Rollup.Proofs.Association
import Rollup.Proofs.Outcome

/-!
The physical names of one request. They differ from the logical ones by an ending that all of them
have in common (`ofRequest_eq_ok`), so distinct metrics have distinct physical names.
-/
namespace Rollup.PhysicalNames

/-- A metric is stored under a physical name at a bucket. -/
def Names (dayStep : Nat) (bucket : Int) (metric physical : String) : Prop :=
  ∃ granularity, Bucket.granularity bucket = .ok granularity ∧
    Partition.physicalName metric granularity bucket dayStep = .ok physical

/-- What a physical name has after the logical one. -/
def ending (granularity : Granularity) (partition : Int) : String :=
  "_" ++ granularity.name ++ "-" ++ Numeral.render partition

variable {granularity : Granularity} {metrics : List String} {bucket : Int} {dayStep : Nat}
  {names : PhysicalNames}

theorem physicalName_eq_ok_iff {metric physical : String} :
    Partition.physicalName metric granularity bucket dayStep = .ok physical ↔
      ∃ partition, Partition.ofDay (Bucket.dayOf bucket granularity) dayStep = .ok partition ∧
        metric ++ ending granularity partition = physical := by
  rw [Partition.physicalName, Except.bind_eq_ok_iff]
  simp only [ending, ← String.append_assoc, Except.ok.injEq]

theorem pair_eq (metric : String) : pair granularity bucket dayStep metric =
    (Partition.ofDay (Bucket.dayOf bucket granularity) dayStep).map fun partition =>
      (metric, metric ++ "_" ++ granularity.name ++ "-" ++ Numeral.render partition) := by
  rw [pair, Partition.physicalName]
  cases Partition.ofDay (Bucket.dayOf bucket granularity) dayStep <;> rfl

theorem ofRequest_eq_ok (h : ofRequest metrics bucket dayStep = .ok names) :
    ∃ tail, names.names = metrics.map (fun metric => (metric, metric ++ tail)) ∧
      ∀ metric ∈ metrics, ∀ physical, Names dayStep bucket metric physical ↔
        metric ++ tail = physical := by
  obtain ⟨granularity, wide, h⟩ := Except.bind_eq_ok_iff.1 h
  obtain ⟨named, paired, eq⟩ := Except.bind_eq_ok_iff.1 h
  cases eq
  have wide : Bucket.granularity bucket = .ok granularity := Outcome.ofExcept_eq_ok_iff.1 wide
  cases day : Partition.ofDay (Bucket.dayOf bucket granularity) dayStep with
  | error failure =>
    -- Without a partition no metric has a physical name, so none was asked for.
    cases metrics with
    | nil =>
      cases paired
      exact ⟨"", rfl, nofun⟩
    | cons metric rest =>
      rw [List.mapM_cons, pair, Partition.physicalName, day] at paired
      contradiction
  | ok partition =>
    have pairs (metric : String) : pair granularity bucket dayStep metric =
        .ok (metric, metric ++ ending granularity partition) := by
      rw [pair, physicalName_eq_ok_iff.2 ⟨partition, day, rfl⟩]
      rfl
    have all := Except.mapM_eq_ok fun metric (_ : metric ∈ metrics) => pairs metric
    refine ⟨ending granularity partition, Except.ok.inj (paired.symm.trans all), ?_⟩
    intro metric _ physical
    constructor
    · rintro ⟨own, same, spelled⟩
      rw [wide] at same
      cases same
      obtain ⟨own, same, spelled⟩ := physicalName_eq_ok_iff.1 spelled
      rw [day] at same
      cases same
      exact spelled
    · exact fun spelled =>
        ⟨granularity, wide, physicalName_eq_ok_iff.2 ⟨partition, day, spelled⟩⟩

/-- The metric behind a formatted name: the last one requested whose physical name it is. -/
theorem metric?_eq_find? {tail : String}
    (listed : names.names = metrics.map fun metric => (metric, metric ++ tail))
    (format : String → String) (name : String) : names.metric? format name =
      metrics.reverse.find? fun metric => name == format (metric ++ tail) := by
  rw [metric?, formatted, listed, List.map_map, ← List.map_reverse]
  exact lookup_map_key (fun metric => format (metric ++ tail)) _ name

/-- A format that keeps names apart leaves no choice of the metric. -/
theorem metric?_eq_some_iff {tail : String}
    (listed : names.names = metrics.map fun metric => (metric, metric ++ tail))
    {format : String → String} (apart : ∀ a b, format a = format b → a = b)
    {metric name : String} : names.metric? format name = some metric ↔
      metric ∈ metrics ∧ format (metric ++ tail) = name := by
  rw [metric?_eq_find? listed]
  constructor
  · intro found
    have mem := List.mem_reverse.1 (List.mem_of_find?_eq_some found)
    have here := List.find?_some found
    exact ⟨mem, (eq_of_beq here).symm⟩
  · rintro ⟨mem, rfl⟩
    cases found : metrics.reverse.find? fun other =>
        format (metric ++ tail) == format (other ++ tail) with
    | none =>
      have other := List.find?_eq_none.1 found metric (List.mem_reverse.2 mem)
      exact absurd (beq_self_eq_true _) other
    | some other =>
      have reached := List.find?_some found
      have there := apart _ _ (eq_of_beq reached)
      rw [(String.append_left_inj tail).1 there]

end Rollup.PhysicalNames
