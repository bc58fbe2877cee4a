import Rollup.Proofs.Catalog.Regular
import Rollup.Proofs.Percentile.Cursor
import Rollup.Proofs.Relational.Rows

/-!
Tables of the metrics of a regular catalog. A table has one column for each logical column of its
kind, and a record gives each of them the cell of the logical column, whatever the physical names
are: writing and reading resolve them alike (`cellFor_given`). So a written row decodes to what its
record shows (`decodeRow_eq`).
-/
namespace Rollup

def Kind.columns (kind : Kind) : List Column :=
  .plain keyColumns.id .key :: (Model.ofKind "" kind).columns

/-- The values that are reported for a record, under their ids. -/
def Record.shown (ranks : List Int32) (record : Record) : List NamedValue :=
  match record.measure with
  | .average a => [⟨"value", a.value⟩, ⟨"count", a.count⟩, ⟨"max", a.max⟩, ⟨"min", a.min⟩]
  | .percentile p => Decoder.rankValues ranks p.values
  | .percentage s => [⟨"match", s.matched⟩, ⟨"total", s.total⟩, ⟨"percentage", s.percentage⟩]
  | .cpm rate => [⟨"value", rate.value⟩]
  | .sum value | .max value => [⟨"value", value⟩]

/-- The record that stands where another one was written over this one: an owner that the other one
does not give is kept. -/
def Record.overwrite (old record : Record) : Record :=
  { record with key := { record.key with service := record.key.service.or old.key.service } }

def Scalar.type : Scalar → Error.ColumnType
  | long _ => .bigint
  | text _ => .varchar

theorem Scalar.cast_toCell (value : Scalar) : value.toCell.cast value.type = .ok value.toCell := by
  cases value <;> rfl

theorem Record.row_subset (record : Record) :
    record.row.map (fun named => (named.1, named.2.type)) ⊆
      record.kind.columns.map fun column =>
        (column.name, Relational.columnType column.role column.name) := by
  obtain ⟨⟨entity, service, bucket⟩, measure⟩ := record
  cases service <;> cases measure <;>
    simp [row, Measure.columns, kind, Measure.kind, Kind.columns, Model.ofKind,
      Model.measureColumns, Column.plain, Relational.columnType, keyColumns, Scalar.type]

theorem Record.mem_row {record : Record} {named : String × Scalar} (mem : named ∈ record.row) :
    ∃ column ∈ record.kind.columns, column.name = named.1 ∧
      Relational.columnType column.role column.name = named.2.type := by
  obtain ⟨column, listed, eq⟩ := List.mem_map.1 (record.row_subset (List.mem_map_of_mem mem))
  rw [Prod.mk.injEq] at eq
  exact ⟨column, listed, eq⟩

theorem Record.exists_column {record : Record} {column : String} {value : Scalar}
    (h : record.row.lookup column = some value) :
    ∃ own ∈ record.kind.columns, own.name = column := by
  obtain ⟨before, after, eq, _⟩ := List.lookup_eq_some_iff.1 h
  have mem : (column, value) ∈ record.row := by simp [eq]
  obtain ⟨own, listed, name, _⟩ := mem_row mem
  exact ⟨own, listed, name⟩

/-- A record gives values for all columns of its kind but the one of its owner. -/
theorem Record.columns_subset (record : Record) :
    record.kind.columns.map (·.name) ⊆ keyColumns.service :: record.row.map (·.1) := by
  obtain ⟨⟨entity, service, bucket⟩, measure⟩ := record
  cases service <;> cases measure <;>
    simp [row, Measure.columns, kind, Measure.kind, Kind.columns, Model.ofKind,
      Model.measureColumns, Column.plain, keyColumns]

/-- A record writes the columns of its own row and leaves the others as they are. -/
theorem Record.lookup_row_overwrite {old record : Record} (kind : old.kind = record.kind)
    (column : String) :
    (old.overwrite record).row.lookup column =
      (record.row.lookup column).or (old.row.lookup column) := by
  by_cases owner : column = keyColumns.service
  · subst owner
    obtain ⟨⟨_, service, _⟩, measure⟩ := record
    obtain ⟨⟨_, owner, _⟩, measured⟩ := old
    cases service <;> cases owner <;> cases measure <;> cases measured <;> rfl
  · have own : (old.overwrite record).row.lookup column = record.row.lookup column := by
      have other : (column == keyColumns.service) = false := beq_false_of_ne owner
      obtain ⟨⟨_, service, _⟩, measure⟩ := record
      obtain ⟨⟨_, owner, _⟩, measured⟩ := old
      cases service <;> cases owner <;>
        simp [row, overwrite, Record.id, Key.id, List.lookup_cons, other]
    rw [own]
    cases given : record.row.lookup column with
    | some value => rw [Option.some_or]
    | none =>
      cases held : old.row.lookup column with
      | none => rfl
      | some value =>
        obtain ⟨listed, mem, rfl⟩ := exists_column held
        rw [kind] at mem
        have shown := record.columns_subset (List.mem_map_of_mem mem)
        have named := (List.mem_cons.1 shown).resolve_left owner
        obtain ⟨entry, written, same⟩ := List.mem_map.1 named
        simpa [same] using List.lookup_eq_none_iff.1 given entry written

theorem Kind.mem_columns_of_isKeyColumn {column : String} (h : isKeyColumn column = true)
    (kind : Kind) : Column.plain column .key ∈ kind.columns := by
  simp only [isKeyColumn, Bool.or_eq_true, decide_eq_true_eq] at h
  rcases h with ((rfl | rfl) | rfl) | rfl <;> simp [columns, Model.ofKind, keyColumns]

namespace Relational

variable {adapter : Relational}

def nameOf (adapter : Relational) (metric column : String) : String :=
  match adapter.storageColumn metric column with
  | .ok name => name
  | .error _ => column

def layout (adapter : Relational) (metric : String) (kind : Kind) : List TableColumn :=
  kind.columns.map fun column =>
    ⟨adapter.nameOf metric column.name, columnType column.role column.name⟩

/-- The cells that are written for a record, under physical names. -/
def given (adapter : Relational) (metric : String) (record : Record) : List (String × Cell) :=
  record.row.map fun (column, value) => (adapter.nameOf metric column, value.toCell)

theorem nameOf_of_isKeyColumn {metric column : String} (h : isKeyColumn column = true) :
    adapter.nameOf metric column = column := by
  rw [nameOf, storageColumn, if_pos h]

section Regular

variable (regular : adapter.context.catalog.Regular) {metric : String} {kind : Kind}
  (has : adapter.context.catalog.Has metric kind)

include regular has

theorem storageColumn_eq {column : Column} (mem : column ∈ kind.columns) :
    adapter.storageColumn metric column.name = .ok (adapter.nameOf metric column.name) := by
  by_cases key : isKeyColumn column.name
  · rw [nameOf_of_isKeyColumn key, storageColumn, if_pos key]
  · have own : column ∈ (Model.ofKind metric kind).columns := by
      refine (List.mem_cons.1 mem).resolve_left ?_
      rintro rfl
      exact key rfl
    obtain ⟨name, eq⟩ := regular.exists_physicalName has own
    have stored : adapter.storageColumn metric column.name = .ok name := by
      rw [storageColumn, if_neg key, eq]
    rw [nameOf, stored]

theorem physicalName_eq {column : Column} (mem : column ∈ kind.columns)
    (measure : isKeyColumn column.name = false) :
    adapter.context.catalog.metadata.physicalName metric column.name =
      .ok (adapter.nameOf metric column.name) := by
  rw [← storageColumn_eq regular has mem, storageColumn, if_neg (by simp [measure])]

theorem tableOf_eq {model : Model} (named : model.name = metric) (describes : model.Describes kind)
    (name : String) :
    adapter.tableOf model name = .ok ⟨name, adapter.layout metric kind, true, []⟩ := by
  subst named
  let make (logical : String × Role) : Except Error TableColumn := do
    let storage ← adapter.storageColumn model.name logical.1
    .ok ⟨storage, columnType logical.2 logical.1⟩
  have columns : model.columns.mapM (make ∘ Column.logical) =
      .ok ((Model.ofKind model.name kind).columns.map fun column =>
        ⟨adapter.nameOf model.name column.name, columnType column.role column.name⟩) := by
    rw [← List.mapM_map, describes, List.mapM_map]
    apply Except.mapM_eq_ok
    intro column mem
    change (adapter.storageColumn model.name column.name >>= _) = _
    rw [storageColumn_eq regular has (List.mem_cons_of_mem _ mem)]
    rfl
  change (model.columns.mapM (make ∘ Column.logical) >>= _) = _
  rw [columns]
  rfl

/-- A record that needs no other percentiles is written as it is. -/
theorem write_eq {record : Record} (ofKind : record.kind = kind)
    (aligned : adapter.align record = .ok record) :
    adapter.write metric record =
      (adapter.tableName metric record.key.bucket).map fun name =>
        (name, adapter.given metric record) := by
  have cells : record.row.mapM (fun (column, value) => (do
      let storage ← adapter.storageColumn metric column
      .ok (storage, value.toCell) : Outcome (String × Cell))) =
        .ok (adapter.given metric record) := by
    refine Except.mapM_eq_ok fun (name, value) mem => ?_
    obtain ⟨column, listed, rfl, _⟩ := Record.mem_row mem
    change (Outcome.ofExcept (adapter.storageColumn metric column.name) >>= _) = _
    rw [storageColumn_eq regular has (ofKind ▸ listed)]
    rfl
  rw [write]
  cases adapter.tableName metric record.key.bucket with
  | error failure => rfl
  | ok name =>
    rw [Except.ok_bind, aligned, Except.ok_bind, cells]
    rfl

end Regular

/-- A table with the columns of a metric, all under different names. -/
structure MadeFor (adapter : Relational) (metric : String) (kind : Kind) (table : Table) :
    Prop where
  columns : table.columns = adapter.layout metric kind
  distinct : table.Distinct

namespace MadeFor

variable {metric : String} {table : Table}

theorem mem_columns {kind : Kind} (made : adapter.MadeFor metric kind table) {column : Column}
    (mem : column ∈ kind.columns) :
    ⟨adapter.nameOf metric column.name, columnType column.role column.name⟩ ∈ table.columns := by
  rw [made.columns]
  exact List.mem_map_of_mem mem

theorem name_eq_of_sameName {kind : Kind} (made : adapter.MadeFor metric kind table)
    {a b : Column} (ha : a ∈ kind.columns) (hb : b ∈ kind.columns)
    (same : sameName (adapter.nameOf metric a.name) (adapter.nameOf metric b.name) = true) :
    a.name = b.name := by
  have distinct := made.distinct
  rw [Table.Distinct, made.columns, layout, List.pairwise_map] at distinct
  rw [eq_of_distinct distinct ha hb same]

variable {record : Record} (made : adapter.MadeFor metric record.kind table)

include made

theorem typed_given : ∀ named ∈ adapter.given metric record, table.Typed named := by
  intro named mem
  obtain ⟨⟨name, value⟩, stored, rfl⟩ := List.mem_map.1 mem
  obtain ⟨column, listed, rfl, type⟩ := Record.mem_row stored
  refine ⟨_, made.mem_columns listed, rfl, ?_⟩
  rw [type]
  exact value.cast_toCell

theorem givenFor?_given {column : Column} (mem : column ∈ record.kind.columns)
    (type : Error.ColumnType) :
    Table.givenFor? (adapter.given metric record) ⟨adapter.nameOf metric column.name, type⟩ =
      (record.row.lookup column.name).map Scalar.toCell := by
  have byName (row : List (String × Scalar)) (listed : row ⊆ record.row) :
      ((row.map fun entry => (adapter.nameOf metric entry.1, entry.2.toCell)).find?
        fun entry => sameName entry.1 (adapter.nameOf metric column.name)).map (·.2) =
        (row.lookup column.name).map Scalar.toCell := by
    induction row with
    | nil => rfl
    | cons named rest ih =>
      obtain ⟨name, value⟩ := named
      obtain ⟨own, owned, rfl, _⟩ := Record.mem_row (listed List.mem_cons_self)
      rw [List.map_cons, List.find?_cons, List.lookup_cons]
      by_cases equal : column.name = own.name
      · simp [equal]
      · have different : sameName (adapter.nameOf metric own.name)
            (adapter.nameOf metric column.name) = false :=
          Bool.eq_false_iff.2 fun same => equal (made.name_eq_of_sameName owned mem same).symm
        simp only [different, beq_false_of_ne equal]
        exact ih fun other mem => listed (List.mem_cons_of_mem _ mem)
  exact byName record.row fun _ mem => mem

theorem cellFor_given {column : Column} (mem : column ∈ record.kind.columns) :
    Table.cellFor (adapter.given metric record) (adapter.nameOf metric column.name) =
      ((record.row.lookup column.name).map Scalar.toCell).getD .null :=
  congrArg (·.getD .null) (made.givenFor?_given mem .varchar)

/-- Writing a record over the row of another one makes the row of the record that stands there. -/
theorem setRow_given {old : Record} (kind : old.kind = record.kind) :
    table.setRow (adapter.given metric record) (table.newRow (adapter.given metric old)) =
      table.newRow (adapter.given metric (old.overwrite record)) := by
  have oldMade : adapter.MadeFor metric old.kind table := kind ▸ made
  have newMade : adapter.MadeFor metric (old.overwrite record).kind table := made
  rw [Table.setRow, Table.newRow, List.zipWith_map_right, List.zipWith_self, Table.newRow]
  apply List.map_congr_left
  intro column mem
  rw [made.columns, layout] at mem
  obtain ⟨own, listed, rfl⟩ := List.mem_map.1 mem
  rw [made.givenFor?_given listed, oldMade.givenFor?_given (kind ▸ listed),
    newMade.givenFor?_given listed, Record.lookup_row_overwrite kind]
  cases record.row.lookup own.name <;> cases old.row.lookup own.name <;> rfl

theorem head?_newRow :
    (table.newRow (adapter.given metric record)).head? = some (.text record.id) := by
  have first : table.columns[0]? =
      some ⟨adapter.nameOf metric keyColumns.id, columnType .key keyColumns.id⟩ := by
    rw [made.columns]
    rfl
  have cell := made.cellFor_given (List.mem_cons_self : Column.plain keyColumns.id .key ∈ _)
  simp only [Column.plain] at cell
  rw [List.head?_eq_getElem?, Table.getElem?_newRow _ first, cell]
  rfl

end MadeFor

end Relational

end Rollup
