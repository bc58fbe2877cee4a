import Rollup.Proofs.Bucket.PhysicalNames
import Rollup.Proofs.Text.Numerals
import Rollup.Proofs.Text.Pieces
import Rollup.Storage.Naming

/-!
Physical names read backwards. A name ends in an underscore, a granularity, a dash and a number, and
only the number may hold another dash. So the last underscore and the first dash behind it take the
name apart, whatever the metric is called. Main statement: `physical_names_unique`, different
metrics, granularities or partitions have different names, and every name of a request leads back to
its metric.
-/
namespace Rollup

theorem Granularity.name_injective {g g' : Granularity} (h : g.name = g'.name) : g = g' := by
  cases g <;> cases g' <;> simp_all [name]

/-- Names in one namespace differ as they do without it. -/
theorem withNamespace_injective (space : String) (name name' : String)
    (h : withNamespace space name = withNamespace space name') : name = name' := by
  rw [withNamespace, withNamespace] at h
  split at h
  · exact h
  · exact (String.append_right_inj _).1 h

namespace PhysicalNames

/-- An ending behind its underscore. -/
def mark (granularity : Granularity) (partition : Int) : List Char :=
  granularity.name.toList ++ '-' :: Numeral.write partition

theorem toList_ending (granularity : Granularity) (partition : Int) :
    (ending granularity partition).toList = '_' :: mark granularity partition := by
  simp [ending, mark, Numeral.render]

theorem underscore_notMem_mark (granularity : Granularity) (partition : Int) :
    '_' ∉ mark granularity partition := by
  have numeral : '_' ∉ Numeral.write partition := by
    intro mem
    rcases Numeral.isNumeralChar_of_mem_write mem with digit | dash
    · exact absurd digit (by decide)
    · exact absurd dash (by decide)
  have name : '_' ∉ granularity.name.toList := by
    cases granularity <;> decide
  simp [mark, name, numeral]

/-- The first dash parts the granularity from the partition; another one is the sign of the
partition. -/
theorem mark_injective {g g' : Granularity} {p p' : Int} (h : mark g p = mark g' p') :
    g = g' ∧ p = p' := by
  have plain (granularity : Granularity) : '-' ∉ granularity.name.toList := by
    cases granularity <;> decide
  obtain ⟨names, numerals⟩ := Text.eq_of_append_cons_first h (plain g) (plain g')
  exact ⟨Granularity.name_injective (String.toList_inj.1 names), Numeral.write_injective numerals⟩

theorem append_ending_injective {metric metric' : String} {g g' : Granularity} {p p' : Int}
    (h : metric ++ ending g p = metric' ++ ending g' p') : metric = metric' ∧ g = g' ∧ p = p' := by
  rw [← String.toList_inj, String.toList_append, String.toList_append, toList_ending,
    toList_ending] at h
  obtain ⟨metrics, marks⟩ :=
    Text.eq_of_append_cons h (underscore_notMem_mark g p) (underscore_notMem_mark g' p')
  exact ⟨String.toList_inj.1 metrics, mark_injective marks⟩

/-- Physical names tell metrics, granularities and partitions apart in every namespace. Those of a
request stand in its order, each leads back to its metric, and nothing else leads to one. -/
theorem physical_names_unique :
    (∀ {space metric metric' name name' : String} {g g' : Granularity} {bucket bucket' : Int}
      {dayStep dayStep' : Nat},
      Partition.physicalName metric g bucket dayStep = .ok name →
      Partition.physicalName metric' g' bucket' dayStep' = .ok name' →
      withNamespace space name = withNamespace space name' →
      metric = metric' ∧ g = g' ∧ ∃ partition,
        Partition.ofDay (Bucket.dayOf bucket g) dayStep = .ok partition ∧
        Partition.ofDay (Bucket.dayOf bucket' g') dayStep' = .ok partition) ∧
    ∀ {metrics : List String} {bucket : Int} {dayStep : Nat} {names : PhysicalNames}
      (space : String), ofRequest metrics bucket dayStep = .ok names →
      List.Forall₂ (Names dayStep bucket) metrics names.physical ∧
      List.Forall₂ (fun metric physical =>
        names.metric? (withNamespace space) (withNamespace space physical) = some metric)
        metrics names.physical ∧
      ∀ name metric, names.metric? (withNamespace space) name = some metric →
        ∃ physical ∈ names.physical, withNamespace space physical = name := by
  constructor
  · intro space metric metric' name name' g g' bucket bucket' dayStep dayStep' named named' same
    obtain ⟨partition, day, rfl⟩ := physicalName_eq_ok_iff.1 named
    obtain ⟨partition', day', rfl⟩ := physicalName_eq_ok_iff.1 named'
    obtain ⟨metrics, granularities, rfl⟩ :=
      append_ending_injective (withNamespace_injective space _ _ same)
    exact ⟨metrics, granularities, partition, day, day'⟩
  · intro metrics bucket dayStep names space derived
    obtain ⟨tail, listed, named⟩ := ofRequest_eq_ok derived
    have physical : names.physical = metrics.map (· ++ tail) := by
      rw [PhysicalNames.physical, listed, List.map_map]
      rfl
    have behind {metric name : String} : names.metric? (withNamespace space) name = some metric ↔
        metric ∈ metrics ∧ withNamespace space (metric ++ tail) = name :=
      metric?_eq_some_iff listed (withNamespace_injective space)
    rw [physical, List.forall₂_map_right_iff, List.forall₂_map_right_iff, List.forall₂_same,
      List.forall₂_same]
    refine ⟨fun metric mem => (named metric mem _).2 rfl, fun metric mem => behind.2 ⟨mem, rfl⟩, ?_⟩
    intro name metric found
    obtain ⟨mem, rfl⟩ := behind.1 found
    exact ⟨metric ++ tail, List.mem_map_of_mem mem, rfl⟩

/-- Two days of one partition, and a metric that is called like a physical name. -/
theorem physical_names_unique_lookalike :
    let first := Partition.physicalName "cpm" .hour 2023123100 3
    let second := Partition.physicalName "cpm" .hour 2024010112 3
    let names : PhysicalNames := ⟨.hour, 2024010112,
      [("cpm_day-20231231", "cpm_day-20231231_hour-20231231"), ("cpm", "cpm_hour-20231231")]⟩
    first = .ok "cpm_hour-20231231" ∧ second = .ok "cpm_hour-20231231" ∧
      (∃ partition, Partition.ofDay 20231231 3 = .ok partition ∧
        Partition.ofDay 20240101 3 = .ok partition) ∧
      ofRequest ["cpm_day-20231231", "cpm"] 2024010112 3 = .ok names ∧
      names.metric? (withNamespace "ns") "ns_cpm_day-20231231_hour-20231231" =
        some "cpm_day-20231231" := by
  intro first second names
  have named : first = .ok "cpm_hour-20231231" := by decide +kernel
  have named' : second = .ok "cpm_hour-20231231" := by decide +kernel
  have derived : ofRequest ["cpm_day-20231231", "cpm"] 2024010112 3 = .ok names := by
    rfl
  obtain ⟨-, -, shared⟩ := @physical_names_unique.1 "ns" _ _ _ _ _ _ _ _ _ _ named named' rfl
  obtain ⟨-, leadsBack, -⟩ := physical_names_unique.2 "ns" derived
  exact ⟨named, named', shared, derived, (List.forall₂_cons.1 leadsBack).1⟩

end PhysicalNames

end Rollup
