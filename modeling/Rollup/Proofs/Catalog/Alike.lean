import Rollup.Proofs.Outcome
import Rollup.Query.Service
import Rollup.Relational.Adapter

/-!
What catalogs know of names. The model of a name is the one that was added last
(`Metadata.lookup_foldl_add`). Catalogs that know the same descriptor and the same model of every
name, in whatever order they keep them, cannot be told apart: to the decoder, to the adapter of a
relational database and to a query they are one and the same. Of a model that a table is created
after, only the name and the types of its logical columns count.
-/
namespace Rollup

theorem lookup_cons_ite {α : Type} (key : String) (value : α) (rest : List (String × α))
    (name : String) : ((key, value) :: rest).lookup name =
      if name = key then some value else rest.lookup name := by
  by_cases same : name = key
  · rw [if_pos same, same, List.lookup_cons_self]
  · rw [if_neg same, List.lookup_cons, beq_false_of_ne same]

theorem lookup_putUnder {α : Type} (key : String) (value : α) (entries : List (String × α))
    (name : String) : (putUnder key value entries).lookup name =
      if name = key then some value else entries.lookup name := by
  induction entries with
  | nil => exact lookup_cons_ite key value [] name
  | cons head rest ih =>
    obtain ⟨first, held⟩ := head
    rw [putUnder]
    by_cases taken : first = key
    · subst taken
      rw [if_pos rfl, lookup_cons_ite, lookup_cons_ite]
      split <;> rfl
    · rw [if_neg taken, lookup_cons_ite, ih, lookup_cons_ite]
      by_cases same : name = key
      · have other : name ≠ first := same ▸ Ne.symm taken
        rw [if_neg other, if_pos same, if_pos same]
      · rw [if_neg same, if_neg same]

theorem Metadata.lookup_foldl_add (models : List Model) (metadata : Metadata) (name : String) :
    (models.foldl Metadata.add metadata).models.lookup name =
      (models.reverse.find? (·.name = name)).or (metadata.models.lookup name) := by
  induction models generalizing metadata with
  | nil => rfl
  | cons model rest ih =>
    rw [List.foldl_cons, ih, Metadata.add, lookup_putUnder, List.reverse_cons, List.find?_append,
      Option.or_assoc, List.find?_singleton]
    by_cases same : model.name = name
    · simp [same]
    · simp [same, Ne.symm same]

theorem Metadata.overrides_foldl_add (models : List Model) (metadata : Metadata) :
    (models.foldl Metadata.add metadata).overrides = metadata.overrides := by
  induction models generalizing metadata with
  | nil => rfl
  | cons model rest ih => rw [List.foldl_cons, ih, Metadata.add]

/-- Under every name the two catalogs have the same descriptor and the same model. -/
structure Catalog.Alike (catalog other : Catalog) : Prop where
  registered : ∀ name, catalog.registry.find? name = other.registry.find? name
  modelled : ∀ name, catalog.metadata.models.lookup name = other.metadata.models.lookup name
  renamed : catalog.metadata.overrides = other.metadata.overrides

namespace Catalog.Alike

variable {catalog other : Catalog} (alike : catalog.Alike other)

include alike

theorem knows : catalog.knows = other.knows := by
  funext metric
  rw [Catalog.knows, Catalog.knows, Metadata.contains, Metadata.contains, Registry.contains,
    Registry.contains, alike.registered, alike.modelled]

theorem descriptor : catalog.registry.resolve = other.registry.resolve := by
  funext metric
  rw [Registry.resolve, Registry.resolve, alike.registered]

theorem model : catalog.metadata.resolve = other.metadata.resolve := by
  funext metric
  rw [Metadata.resolve, Metadata.resolve, alike.modelled]

theorem physicalName : catalog.metadata.physicalName = other.metadata.physicalName := by
  funext metric column
  simp only [Metadata.physicalName, Metadata.override?, alike.renamed, alike.model]

theorem valueColumn : catalog.metadata.valueColumn = other.metadata.valueColumn := by
  funext metric
  simp only [Metadata.valueColumn, alike.model]

end Catalog.Alike

structure Context.Alike (context other : Context) : Prop where
  catalogs : context.catalog.Alike other.catalog
  ranks : context.ranks = other.ranks
  dayStep : context.dayStep = other.dayStep

namespace Context.Alike

variable {context other : Context} (alike : context.Alike other)

include alike

theorem readLong :
    Decoder.readLong context.catalog.metadata = Decoder.readLong other.catalog.metadata := by
  funext metric row column
  simp only [Decoder.readLong, alike.catalogs.physicalName]

theorem readRanks : Decoder.readRanks context = Decoder.readRanks other := by
  funext metric row
  simp only [Decoder.readRanks, alike.catalogs.physicalName, alike.ranks]

theorem readValues : Decoder.readValues context = Decoder.readValues other := by
  funext metric row kind
  cases kind <;>
    simp only [Decoder.readValues, alike.readRanks, alike.readLong, alike.catalogs.valueColumn]

theorem decodeRow : Decoder.decodeRow context = Decoder.decodeRow other := by
  funext metric row
  simp only [Decoder.decodeRow, Decoder.decode, alike.readValues, alike.catalogs.descriptor]

end Context.Alike

def Model.typedColumns (model : Model) : List (String × Error.ColumnType) :=
  model.columns.map fun column => (column.name, Relational.columnType column.role column.name)

namespace Relational

structure Alike (adapter other : Relational) : Prop where
  contexts : adapter.context.Alike other.context
  space : adapter.space = other.space

/-- Where a column is stored is known by the catalog; of the model only logical columns count. -/
theorem tableOf_eq_mapM (adapter : Relational) (model : Model) (name : String) :
    adapter.tableOf model name =
      (model.typedColumns.mapM fun (column, type) =>
        (adapter.storageColumn model.name column).map (TableColumn.mk · type)).map
        fun columns => ⟨name, ⟨keyColumns.id, .varchar⟩ :: columns, true, []⟩ := by
  simp only [tableOf, Model.typedColumns, List.mapM_map, Except.bind_ok_eq_map]
  rfl

namespace Alike

variable {adapter other : Relational} (alike : adapter.Alike other)

include alike

theorem tableName : adapter.tableName = other.tableName := by
  funext metric bucket
  simp only [Relational.tableName, alike.contexts.dayStep, alike.space]

theorem storageColumn : adapter.storageColumn = other.storageColumn := by
  funext metric column
  simp only [Relational.storageColumn, alike.contexts.catalogs.physicalName]

theorem createTable {model declared : Model} (name : model.name = declared.name)
    (columns : model.typedColumns = declared.typedColumns) :
    adapter.createTable model = other.createTable declared := by
  funext bucket store
  simp only [Relational.createTable, tableOf_eq_mapM, alike.tableName, alike.storageColumn, name,
    columns]

theorem insert : adapter.insert = other.insert := by
  funext metric records store
  have write : adapter.write = other.write := by
    funext metric record
    simp only [Relational.write, align, alike.tableName, alike.storageColumn, alike.contexts.ranks]
  simp only [Relational.insert, write]

theorem read : adapter.read = other.read := by
  funext request bucket store
  simp only [Relational.read, readTables, readTable, alike.tableName, alike.contexts.decodeRow]

end Alike

end Relational

end Rollup
