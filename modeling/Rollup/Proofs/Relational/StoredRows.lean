import Rollup.Proofs.Relational.Layout

/-!
Rows of records, read back. The row of a record decodes to the values that the record shows, and it
meets the conditions of a query if the record lies at the bucket and in the scope. So a table that
holds rows of records answers with those of its records that match (`readTable_eq`).
-/
namespace Rollup

def Scope.admits (scope : Scope) (key : Record.Key) : Bool :=
  scope.id = "" || if scope.isService then key.entity = scope.id else key.service = some scope.id

def Record.matches (record : Record) (scope : Scope) (bucket : Int64) : Bool :=
  record.key.bucket = bucket && scope.admits record.key

theorem Record.id_ne_empty (record : Record) : record.id ≠ "" := by
  intro empty
  have chars := congrArg String.toList empty
  simp [Record.id, Key.id] at chars

theorem Record.lookup_row {record : Record} {column : String} (h : isKeyColumn column = false) :
    record.row.lookup column = record.measure.columns.lookup column := by
  simp only [isKeyColumn, Bool.or_eq_false_iff, decide_eq_false_iff_not] at h
  obtain ⟨⟨⟨id, entity⟩, service⟩, bucket⟩ := h
  obtain ⟨⟨_, owner, _⟩, measure⟩ := record
  cases owner <;>
    simp [row, List.lookup_cons, beq_false_of_ne id, beq_false_of_ne entity,
      beq_false_of_ne service, beq_false_of_ne bucket]

namespace Relational

variable {adapter : Relational} {metric : String}

theorem physicalName_of_lookup (regular : adapter.context.catalog.Regular) {record : Record}
    (has : adapter.context.catalog.Has metric record.kind) {column : String} {value : Scalar}
    (measure : isKeyColumn column = false)
    (h : record.measure.columns.lookup column = some value) :
    adapter.context.catalog.metadata.physicalName metric column =
      .ok (adapter.nameOf metric column) := by
  obtain ⟨own, listed, rfl⟩ := Record.exists_column ((Record.lookup_row measure).trans h)
  exact physicalName_eq regular has listed measure

namespace MadeFor

variable {table : Table}

theorem typed_key {kind : Kind} (made : adapter.MadeFor metric kind table) {column : String}
    (key : isKeyColumn column = true) {cell : Cell}
    (cast : cell.cast (columnType .key column) = .ok cell) : table.Typed (column, cell) := by
  have listed := made.mem_columns (kind.mem_columns_of_isKeyColumn key)
  simp only [Column.plain, nameOf_of_isKeyColumn key] at listed
  exact ⟨_, listed, rfl, cast⟩

theorem typed_conditions {kind : Kind} (made : adapter.MadeFor metric kind table) (scope : Scope)
    (bucket : Int64) :
    ∀ condition ∈ conditions scope bucket, condition.2 ≠ .null ∧ table.Typed condition := by
  intro condition mem
  rcases List.mem_cons.1 mem with rfl | mem
  · exact ⟨nofun, made.typed_key rfl rfl⟩
  · rw [Scope.filter?] at mem
    split at mem
    · contradiction
    · cases List.mem_singleton.1 mem
      cases scope.isService with
      | true => exact ⟨nofun, made.typed_key rfl rfl⟩
      | false => exact ⟨nofun, made.typed_key rfl rfl⟩

variable {record : Record} (made : adapter.MadeFor metric record.kind table)

include made

theorem cellFor_key {column : String} (key : isKeyColumn column = true) :
    Table.cellFor (adapter.given metric record) column =
      ((record.row.lookup column).map Scalar.toCell).getD .null := by
  have cell := made.cellFor_given (record.kind.mem_columns_of_isKeyColumn key)
  simp only [Column.plain, nameOf_of_isKeyColumn key] at cell
  exact cell

theorem long_eq {column : String} {value : Int64}
    (h : record.row.lookup column = some (.long value)) :
    (row table (table.newRow (adapter.given metric record))).long
      (adapter.nameOf metric column) = .ok (some value) := by
  obtain ⟨own, listed, rfl⟩ := Record.exists_column h
  apply row_long made.distinct (made.mem_columns listed)
  rw [made.cellFor_given listed, h]
  rfl

theorem text_eq {column : String} {value : String}
    (h : record.row.lookup column = some (.text value)) :
    (row table (table.newRow (adapter.given metric record))).text
      (adapter.nameOf metric column) = .ok (some value) := by
  obtain ⟨own, listed, rfl⟩ := Record.exists_column h
  apply row_text made.distinct (made.mem_columns listed)
  rw [made.cellFor_given listed, h]
  rfl

section Regular

variable (regular : adapter.context.catalog.Regular)
  (has : adapter.context.catalog.Has metric record.kind)

include regular has

theorem readLong_eq (column : String) {value : Int64} (measure : isKeyColumn column = false)
    (h : record.measure.columns.lookup column = some (.long value)) :
    Decoder.readLong adapter.context.catalog.metadata metric
      (row table (table.newRow (adapter.given metric record))) column = .ok ⟨column, value⟩ := by
  rw [Decoder.readLong, physicalName_of_lookup regular has measure h, Except.ok_bind,
    made.long_eq ((Record.lookup_row measure).trans h)]
  rfl

theorem readValues_eq
    (counted : ∀ p, record.measure = .percentile p → p.values.Counted) :
    Decoder.readValues adapter.context metric
      (row table (table.newRow (adapter.given metric record))) record.kind =
        .ok (record.shown adapter.context.ranks) := by
  have read (column : String) {value : Int64} := @readLong_eq adapter metric table record made
    regular has column value
  have single {value : Int64}
      (column : (Model.ofKind metric record.kind).valueColumn? = some "value")
      (h : record.measure.columns.lookup "value" = some (.long value)) :
      (do
        let column ← adapter.context.catalog.metadata.valueColumn metric
        let value ← Decoder.readLong adapter.context.catalog.metadata metric
          (row table (table.newRow (adapter.given metric record))) column
        .ok [value]) = .ok [⟨"value", value⟩] := by
    rw [regular.valueColumn_eq has column, Except.ok_bind, read "value" rfl h]
    rfl
  obtain ⟨key, measure⟩ := record
  cases measure with
  | average a =>
    change ["value", "count", "max", "min"].mapM _ = _
    simp only [List.mapM_cons, List.mapM_nil, read "value" rfl rfl, read "count" rfl rfl,
      read "max" rfl rfl, read "min" rfl rfl, Except.ok_bind]
    rfl
  | percentile p =>
    change Decoder.readRanks _ _ _ = _
    have physical := @physicalName_of_lookup _ _ regular _ has "value" _ rfl rfl
    rw [Decoder.readRanks, physical, Except.ok_bind, made.text_eq (Record.lookup_row rfl),
      Except.ok_bind, Option.getD_some, (counted p rfl).decode_encode]
    rfl
  | percentage s =>
    change ["match", "total", "percentage"].mapM _ = _
    simp only [List.mapM_cons, List.mapM_nil, read "match" rfl rfl, read "total" rfl rfl,
      read "percentage" rfl rfl, Except.ok_bind]
    rfl
  | cpm rate => exact single rfl rfl
  | sum value => exact single rfl rfl
  | max value => exact single rfl rfl

/-- The row of a record decodes to what the record shows, under its id. -/
theorem decodeRow_eq (counted : ∀ p, record.measure = .percentile p → p.values.Counted) :
    Decoder.decodeRow adapter.context metric
      (row table (table.newRow (adapter.given metric record))) =
        .ok (some (record.id, ⟨metric, record.shown adapter.context.ranks⟩)) := by
  have id := made.text_eq (rfl : record.row.lookup keyColumns.id = some (.text record.id))
  have values := made.readValues_eq regular has counted
  obtain ⟨descriptor, registered, kind⟩ := has
  rw [nameOf_of_isKeyColumn rfl] at id
  rw [Decoder.decodeRow, id, Except.ok_bind]
  simp only [if_neg record.id_ne_empty]
  rw [Decoder.decode, registered, Except.ok_bind, kind, values]
  rfl

end Regular

theorem conditions_eq (scope : Scope) (bucket : Int64) :
    ((conditions scope bucket).all fun condition =>
      Table.cellFor (adapter.given metric record) condition.1 = condition.2) =
        record.matches scope bucket := by
  have bucketCell : Table.cellFor (adapter.given metric record) keyColumns.bucket =
      .long record.key.bucket := made.cellFor_key rfl
  have entityCell : Table.cellFor (adapter.given metric record) keyColumns.entity =
      .text record.key.entity := made.cellFor_key rfl
  have serviceCell := made.cellFor_key (rfl : isKeyColumn keyColumns.service = true)
  have owner : ((record.row.lookup keyColumns.service).map Scalar.toCell).getD .null =
      (record.key.service.map Cell.text).getD .null := by
    obtain ⟨⟨_, service, _⟩, measure⟩ := record
    cases service <;> cases measure <;> rfl
  rw [owner] at serviceCell
  rw [conditions, List.all_cons, bucketCell, Record.matches, Scope.admits, Scope.filter?]
  congr 1
  · simp
  · by_cases unrestricted : scope.id = ""
    · simp [unrestricted]
    · cases isService : scope.isService with
      | true => simp [unrestricted, entityCell]
      | false =>
        cases owned : record.key.service with
        | none => simp [unrestricted, serviceCell, owned]
        | some service => simp [unrestricted, serviceCell, owned]

end MadeFor

/-- A table that holds the rows of records answers with those that a query asks for. -/
theorem readTable_eq (regular : adapter.context.catalog.Regular) {name : String}
    {kind : Kind} (has : adapter.context.catalog.Has metric kind) {table : Table}
    (made : adapter.MadeFor metric kind table) {database : Database}
    (found : database.find? name = some table) (listed : database.lists name = true)
    {records : List Record}
    (rows : table.rows = records.map fun record => table.newRow (adapter.given metric record))
    (ofKind : ∀ record ∈ records, record.kind = kind)
    (counted : ∀ record ∈ records, ∀ p, record.measure = .percentile p → p.values.Counted)
    (scope : Scope) (bucket : Int64) :
    readTable adapter.context database scope bucket metric name =
      .ok ((records.filter (·.matches scope bucket)).map fun record =>
        (record.id, ⟨metric, record.shown adapter.context.ranks⟩)) := by
  have selected := Table.select_eq_filter made.distinct (made.typed_conditions scope bucket) rows
  have asked : (records.filter fun record => (conditions scope bucket).all fun condition =>
      Table.cellFor (adapter.given metric record) condition.1 = condition.2) =
        records.filter (·.matches scope bucket) :=
    List.filter_congr fun record mem => (ofKind record mem ▸ made).conditions_eq scope bucket
  rw [asked] at selected
  have decoded : ((records.filter (·.matches scope bucket)).map fun record =>
      table.newRow (adapter.given metric record)).mapM (fun cells =>
        Decoder.decodeRow adapter.context metric (row table cells)) =
      .ok ((records.filter (·.matches scope bucket)).map fun record =>
        some (record.id, ⟨metric, record.shown adapter.context.ranks⟩)) := by
    rw [List.mapM_map]
    apply Except.mapM_eq_ok
    intro record mem
    have stored := List.mem_of_mem_filter mem
    obtain rfl := ofKind record stored
    exact made.decodeRow_eq regular has (counted record stored)
  rw [readTable, found]
  simp only [listed, if_true, selected]
  rw [decoded, Except.map, Except.ok.injEq, List.filterMap_map]
  exact congrFun List.filterMap_eq_map _

end Relational

end Rollup
