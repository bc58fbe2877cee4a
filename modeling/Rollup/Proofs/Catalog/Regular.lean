import Rollup.Proofs.Outcome
import Rollup.Storage.Naming
import Rollup.Relational.Database

/-!
Catalogs in which each metric has the model of its kind, under whatever storage names. In such a
catalog every column of a metric has a physical name, however columns are renamed.
-/
namespace Rollup

namespace Column

def logical (column : Column) : String × Role :=
  (column.name, column.role)

end Column

namespace Model

/-- The model has the columns of the kind, under any storage names. -/
def Describes (model : Model) (kind : Kind) : Prop :=
  model.columns.map Column.logical = (ofKind model.name kind).columns.map Column.logical

theorem describes_ofKind (name : String) (kind : Kind) : (ofKind name kind).Describes kind := rfl

theorem Describes.rename {model : Model} {kind : Kind} (h : model.Describes kind)
    (logical storage : String) : (model.rename logical storage).Describes kind := by
  have kept : (model.rename logical storage).columns.map Column.logical =
      model.columns.map Column.logical := by
    rw [Model.rename, List.map_map]
    apply List.map_congr_left
    intro column _
    simp only [Function.comp, Column.logical]
    split <;> rfl
  exact kept.trans h

theorem Describes.exists_storage {model : Model} {kind : Kind} (h : model.Describes kind)
    {column : Column} (mem : column ∈ (ofKind model.name kind).columns) :
    ∃ storage, Metadata.modelStorage? model column.name = some storage := by
  have listed : column.logical ∈ model.columns.map Column.logical :=
    h ▸ List.mem_map_of_mem mem
  obtain ⟨own, mem, same⟩ := List.mem_map.1 listed
  have found : (model.columns.reverse.find? (·.name = column.name)).isSome := by
    rw [List.find?_isSome]
    exact ⟨own, List.mem_reverse.2 mem, decide_eq_true (congrArg Prod.fst same)⟩
  obtain ⟨last, eq⟩ := Option.isSome_iff_exists.1 found
  exact ⟨last.storage, by rw [Metadata.modelStorage?, eq]; rfl⟩

theorem Describes.valueColumn?_eq {model : Model} {kind : Kind} (h : model.Describes kind) :
    model.valueColumn? = (ofKind model.name kind).valueColumn? := by
  have byLogical (columns : List Column) : (columns.find? (·.role = .value)).map (·.name) =
      ((columns.map Column.logical).find? (·.2 = .value)).map (·.1) := by
    rw [List.find?_map, Option.map_map]
    rfl
  rw [valueColumn?, valueColumn?, byLogical, byLogical, h]

end Model

namespace Catalog

def Has (catalog : Catalog) (metric : String) (kind : Kind) : Prop :=
  ∃ descriptor, catalog.registry.resolve metric = .ok descriptor ∧ descriptor.kind = kind

/-- Metrics and models belong together one to one: every registered metric is of a concrete kind
and has a model of that kind, and no two of their names differ only in case. -/
structure Regular (catalog : Catalog) : Prop where
  modelled : ∀ metric kind, catalog.Has metric kind → kind ≠ .singleValue ∧
    ∃ model, catalog.metadata.resolve metric = .ok model ∧ model.name = metric ∧
      model.Describes kind
  registered : ∀ metric model, catalog.metadata.resolve metric = .ok model →
    ∃ kind, catalog.Has metric kind
  distinct : ∀ metric kind other otherKind, catalog.Has metric kind →
    catalog.Has other otherKind → sameName metric other = true → metric = other

theorem Has.unique {catalog : Catalog} {metric : String} {kind other : Kind}
    (h : catalog.Has metric kind) (h' : catalog.Has metric other) : kind = other := by
  obtain ⟨descriptor, eq, rfl⟩ := h
  obtain ⟨same, eq', rfl⟩ := h'
  rw [eq, Except.ok.injEq] at eq'
  rw [eq']

theorem regular_single {model : Model} {kind : Kind} (concrete : kind ≠ .singleValue)
    (describes : model.Describes kind) (overrides : Option Overrides) :
    Regular ⟨⟨[.ofKind model.name kind]⟩, ⟨[(model.name, model)], overrides⟩⟩ := by
  let catalog : Catalog := ⟨⟨[.ofKind model.name kind]⟩, ⟨[(model.name, model)], overrides⟩⟩
  have named {metric : String} {other : Kind} (has : catalog.Has metric other) :
      metric = model.name ∧ other = kind := by
    obtain ⟨descriptor, eq, rfl⟩ := has
    by_cases own : model.name = metric
    · simp only [catalog, Registry.resolve, Registry.find?, Descriptor.ofKind, own,
        decide_true, List.find?_cons_of_pos, Except.ok.injEq] at eq
      exact ⟨own.symm, by rw [← eq]⟩
    · simp [catalog, Registry.resolve, Registry.find?, Descriptor.ofKind, own] at eq
  refine ⟨fun metric other has => ?_, fun metric found resolved => ?_,
    fun metric _ other _ has otherHas _ => (named has).1.trans (named otherHas).1.symm⟩
  · obtain ⟨rfl, rfl⟩ := named has
    exact ⟨concrete, model, by simp [Metadata.resolve], rfl, describes⟩
  · by_cases own : metric = model.name
    · exact ⟨kind, .ofKind model.name kind,
        by simp [Registry.resolve, Registry.find?, Descriptor.ofKind, own], rfl⟩
    · simp [Metadata.resolve, List.lookup_cons, beq_false_of_ne own] at resolved

variable {catalog : Catalog} (regular : catalog.Regular) {metric : String} {kind : Kind}

include regular

theorem Regular.exists_physicalName (has : catalog.Has metric kind) {column : Column}
    (mem : column ∈ (Model.ofKind metric kind).columns) :
    ∃ name, catalog.metadata.physicalName metric column.name = .ok name := by
  obtain ⟨_, model, resolved, rfl, describes⟩ := regular.modelled metric kind has
  rw [Metadata.physicalName]
  split
  · exact ⟨_, rfl⟩
  · obtain ⟨storage, eq⟩ := describes.exists_storage mem
    rw [resolved, Except.ok_bind, eq]
    exact ⟨storage, rfl⟩

theorem Regular.valueColumn_eq (has : catalog.Has metric kind) {column : String}
    (h : (Model.ofKind metric kind).valueColumn? = some column) :
    catalog.metadata.valueColumn metric = .ok column := by
  obtain ⟨_, model, resolved, rfl, describes⟩ := regular.modelled metric kind has
  rw [Metadata.valueColumn, resolved, Except.ok_bind, describes.valueColumn?_eq, h]

end Catalog

end Rollup
