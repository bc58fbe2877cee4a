import Rollup.Proofs.Bucket.UniqueNames
import Rollup.Relational.Adapter

/-!
Identifiers up to the case of letters, and the names of metric tables. In a list whose identifiers
all differ, an identifier is found where it stands; and two metrics share the name of a table only
if their own names differ at most in case.
-/
namespace Rollup

namespace Spelling

theorem lower_append (a b : String) : lower (a ++ b) = lower a ++ lower b := by
  simp [lower]

theorem lower_ofList {text : List Char} (h : ∀ c ∈ text, c.toLower = c) :
    lower (String.ofList text) = String.ofList text := by
  rw [lower, String.toList_ofList, List.map_congr_left h, List.map_id']

end Spelling

section SameName

open Spelling

theorem sameName_iff {a b : String} : sameName a b = true ↔ lower a = lower b := by
  simp [sameName]

@[simp] theorem sameName_refl (a : String) : sameName a a = true :=
  sameName_iff.2 rfl

theorem sameName_congr {a b : String} (h : sameName a b = true) (c : String) :
    sameName c a = sameName c b := by
  rw [sameName_iff] at h
  simp only [sameName, h]

/-- Where all identifiers differ, the one that stands for a name is found under it. -/
theorem find?_of_distinct {α : Type} {name : α → String} {items : List α}
    (distinct : items.Pairwise fun a b => sameName (name a) (name b) = false) {item : α}
    (mem : item ∈ items) {asked : String} (same : sameName (name item) asked = true) :
    items.find? (fun a => sameName (name a) asked) = some item := by
  induction items with
  | nil => contradiction
  | cons first rest ih =>
    rcases List.mem_cons.1 mem with rfl | mem
    · exact List.find?_cons_of_pos same
    · have other : sameName (name first) asked = false := by
        rw [← sameName_congr same]
        exact List.rel_of_pairwise_cons distinct mem
      rw [List.find?_cons_of_neg (by simp [other])]
      exact ih distinct.of_cons mem

theorem eq_of_distinct {α : Type} {name : α → String} {items : List α}
    (distinct : items.Pairwise fun a b => sameName (name a) (name b) = false) {a b : α}
    (ha : a ∈ items) (hb : b ∈ items) (same : sameName (name a) (name b) = true) : a = b := by
  have first := find?_of_distinct distinct ha same
  rw [find?_of_distinct distinct hb (sameName_refl _)] at first
  exact (Option.some.inj first).symm

theorem findIdx?_of_distinct {α : Type} {name : α → String} {items : List α}
    (distinct : items.Pairwise fun a b => sameName (name a) (name b) = false) {item : α}
    (mem : item ∈ items) {asked : String} (same : sameName (name item) asked = true) :
    ∃ i, items.findIdx? (fun a => sameName (name a) asked) = some i ∧ items[i]? = some item := by
  induction items with
  | nil => contradiction
  | cons first rest ih =>
    rw [List.findIdx?_cons]
    rcases List.mem_cons.1 mem with rfl | mem
    · exact ⟨0, if_pos same, rfl⟩
    · have other : sameName (name first) asked = false := by
        rw [← sameName_congr same]
        exact List.rel_of_pairwise_cons distinct mem
      obtain ⟨i, found, at_⟩ := ih distinct.of_cons mem
      exact ⟨i + 1, by simp [other, found], at_⟩

theorem Table.distinct_of_checkNames {names : List String} (h : checkNames names = .ok ()) :
    names.Pairwise fun a b => sameName a b = false := by
  induction names with
  | nil => exact .nil
  | cons name rest ih =>
    rw [checkNames] at h
    split at h
    · contradiction
    · split at h
      · contradiction
      · next free =>
        refine .cons (fun other mem => ?_) (ih h)
        exact Bool.eq_false_iff.2 fun same => free (List.any_eq_true.2 ⟨other, mem, same⟩)

end SameName

theorem Numeral.IsNumeralChar.toLower_eq {c : Char} (h : IsNumeralChar c) : c.toLower = c := by
  rcases h with digit | rfl
  · simp only [Char.isDigit, Bool.and_eq_true, decide_eq_true_eq, ge_iff_le,
      UInt32.le_iff_toNat_le] at digit
    have high : c.val.toNat ≤ 57 := digit.2
    apply dif_neg
    intro upper
    have low : 65 ≤ c.val.toNat := UInt32.le_iff_toNat_le.1 upper.1
    omega
  · rfl

namespace Relational

variable {adapter : Relational}

/-- What follows the metric in the names of the tables at a bucket. -/
def suffix (adapter : Relational) (bucket : Int64) : Outcome String := do
  let granularity ← Bucket.granularity bucket.toInt
  let partition ← Partition.ofDay (Bucket.dayOf bucket.toInt granularity) adapter.context.dayStep
  .ok ("_" ++ granularity.name ++ "-" ++ Numeral.render partition)

theorem tableName_eq (adapter : Relational) (metric : String) (bucket : Int64) :
    adapter.tableName metric bucket =
      (adapter.suffix bucket).map fun suffix => withNamespace adapter.space (metric ++ suffix) := by
  rw [tableName, suffix]
  cases Bucket.granularity bucket.toInt with
  | error error => rfl
  | ok granularity =>
    change (Partition.physicalName metric granularity bucket.toInt adapter.context.dayStep >>= _) =
      Except.map _ (Partition.ofDay (Bucket.dayOf bucket.toInt granularity) _ >>= _)
    rw [Partition.physicalName]
    cases Partition.ofDay (Bucket.dayOf bucket.toInt granularity) adapter.context.dayStep with
    | error failure => rfl
    | ok partition =>
      simp only [Except.ok_bind, Except.map, String.append_assoc]

/-- A suffix is in lower case and starts with the only underscore in it. -/
theorem suffix_chars {bucket : Int64} {suffix : String} (h : adapter.suffix bucket = .ok suffix) :
    Spelling.lower suffix = suffix ∧ ∃ rest, suffix.toList = '_' :: rest ∧ '_' ∉ rest := by
  obtain ⟨granularity, _, h⟩ := Except.bind_eq_ok_iff.1 h
  obtain ⟨partition, _, h⟩ := Except.bind_eq_ok_iff.1 h
  obtain rfl : PhysicalNames.ending granularity partition = suffix := Except.ok.inj h
  have chars := PhysicalNames.toList_ending granularity partition
  refine ⟨?_, _, chars, PhysicalNames.underscore_notMem_mark granularity partition⟩
  have text : PhysicalNames.ending granularity partition =
      String.ofList ('_' :: PhysicalNames.mark granularity partition) := by
    rw [← chars, String.ofList_toList]
  have names : (granularity.name.toList.all fun c => c.toLower = c) = true := by
    cases granularity <;> rfl
  rw [text]
  apply Spelling.lower_ofList
  intro c mem
  simp only [PhysicalNames.mark, List.mem_cons, List.mem_append] at mem
  rcases mem with rfl | mem | rfl | mem
  · rfl
  · exact of_decide_eq_true (List.all_eq_true.1 names c mem)
  · rfl
  · exact (Numeral.isNumeralChar_of_mem_write mem).toLower_eq

theorem sameName_withNamespace (space a b : String) :
    sameName (withNamespace space a) (withNamespace space b) = sameName a b := by
  rw [Bool.eq_iff_iff, sameName_iff, sameName_iff, withNamespace, withNamespace]
  split
  · rfl
  · simp only [Spelling.lower_append, String.append_right_inj]

/-- Tables whose names differ at most in case belong to metrics whose names do. -/
theorem sameName_of_tableName {metric metric' name name' : String} {bucket bucket' : Int64}
    (h : adapter.tableName metric bucket = .ok name)
    (h' : adapter.tableName metric' bucket' = .ok name') (same : sameName name name' = true) :
    sameName metric metric' = true ∧ adapter.suffix bucket = adapter.suffix bucket' := by
  rw [tableName_eq, Except.map_eq_ok_iff] at h h'
  obtain ⟨suffix, eq, rfl⟩ := h
  obtain ⟨suffix', eq', rfl⟩ := h'
  obtain ⟨lower, rest, chars, absent⟩ := suffix_chars eq
  obtain ⟨lower', rest', chars', absent'⟩ := suffix_chars eq'
  rw [sameName_withNamespace, sameName_iff, Spelling.lower_append, Spelling.lower_append, lower,
    lower', ← String.toList_inj, String.toList_append, String.toList_append, chars, chars'] at same
  obtain ⟨metrics, rests⟩ := Text.eq_of_append_cons same absent absent'
  refine ⟨sameName_iff.2 (String.toList_inj.1 metrics), ?_⟩
  rw [eq, eq', Except.ok.injEq, ← String.toList_inj, chars, chars', rests]

/-- Equal names of tables belong to one metric, registered or not. -/
theorem metric_eq_of_tableName {metric other name : String} {bucket otherBucket : Int64}
    (named : adapter.tableName metric bucket = .ok name)
    (otherNamed : adapter.tableName other otherBucket = .ok name) : metric = other := by
  obtain ⟨-, suffixes⟩ := sameName_of_tableName named otherNamed (sameName_refl _)
  rw [tableName_eq, Except.map_eq_ok_iff] at named otherNamed
  obtain ⟨suffix, eq, rfl⟩ := named
  obtain ⟨_, eq', same⟩ := otherNamed
  rw [← suffixes, eq] at eq'
  cases eq'
  have spelled := withNamespace_injective adapter.space _ _ same
  exact (String.append_left_inj suffix).1 spelled.symm

end Relational

end Rollup
