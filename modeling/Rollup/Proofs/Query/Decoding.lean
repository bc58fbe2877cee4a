import Rollup.Proofs.Association
import Rollup.Proofs.Outcome
import Rollup.Query.Decoder

/-!
What decoding depends on. A value set is labelled with the metric that was asked for, and a row is
read only in the columns that the kind of the metric calls for (`decode_congr`), no matter whether
it holds them under their names or in the order of a list of columns (`Row.ofColumns_eq_ofFields`).
-/
namespace Rollup

/-- Values in the order of their columns are read like fields of these names. -/
theorem Row.ofColumns_eq_ofFields {columns : List String} {values : List Json}
    {fields : List (String × Json)} (distinct : (fields.map (·.1)).Nodup)
    (full : columns.length = values.length) (perm : (columns.zip values).Perm fields) :
    Row.ofColumns columns values = Row.ofFields fields := by
  have distinctPairs : ((columns.zip values).map (·.1)).Nodup :=
    (perm.map _).symm.nodup distinct
  have distinctColumns : (columns.zipIdx.reverse.map (·.1)).Nodup := by
    rw [List.map_reverse, List.nodup_reverse, List.zipIdx_map_fst]
    rwa [List.map_fst_zip (Nat.le_of_eq full)] at distinctPairs
  have same (column : String) : ((columns.zipIdx.reverse.lookup column).bind (values[·]?)) =
      fields.lookup column := by
    rw [← lookup_perm distinctPairs perm]
    apply Option.ext
    intro value
    rw [lookup_eq_some_iff_mem distinctPairs, List.mem_iff_getElem?]
    simp only [Option.bind_eq_some_iff, lookup_eq_some_iff_mem distinctColumns, List.mem_reverse,
      List.mem_zipIdx_iff_getElem?, List.getElem?_zip_eq_some]
  rw [Row.ofColumns, Row.ofFields]
  congr 1
  funext column
  exact same column

namespace Decoder

theorem label_of_decode {context : Context} {metric : String} {row : Row} {set : ValueSet}
    (h : decode context metric row = .ok set) : set.label = metric := by
  obtain ⟨descriptor, -, h⟩ := Except.bind_eq_ok_iff.1 h
  obtain ⟨values, -, eq⟩ := Except.bind_eq_ok_iff.1 h
  cases eq
  rfl

/-- The logical columns that are read of the rows of a metric of some kind. -/
def columnsOf (catalog : Catalog) (metric : String) : Kind → List String
  | .percentile => ["value"]
  | .average => ["value", "count", "max", "min"]
  | .percentage => ["match", "total", "percentage"]
  | .singleValue | .cpm | .sum | .max => (catalog.metadata.valueColumn metric).toOption.toList

/-- A logical column of a registered metric is read from a physical one. -/
def Reads (catalog : Catalog) (metric physical : String) : Prop :=
  ∃ descriptor, catalog.registry.resolve metric = .ok descriptor ∧
    ∃ column ∈ columnsOf catalog metric descriptor.kind,
      catalog.metadata.physicalName metric column = .ok physical

theorem readLong_congr {metadata : Metadata} {metric : String} {row other : Row} {column : String}
    (h : ∀ physical, metadata.physicalName metric column = .ok physical →
      row.long physical = other.long physical) :
    readLong metadata metric row column = readLong metadata metric other column := by
  rw [readLong, readLong]
  cases named : metadata.physicalName metric column with
  | error error => rfl
  | ok physical => rw [Except.ok_bind, Except.ok_bind, h physical named]

theorem readRanks_congr {context : Context} {metric : String} {row other : Row}
    (h : ∀ physical, context.catalog.metadata.physicalName metric "value" = .ok physical →
      row.text physical = other.text physical) :
    readRanks context metric row = readRanks context metric other := by
  rw [readRanks, readRanks]
  cases named : context.catalog.metadata.physicalName metric "value" with
  | error error => rfl
  | ok physical => rw [Except.ok_bind, Except.ok_bind, h physical named]

theorem readValues_congr {context : Context} {metric : String} {row other : Row} {kind : Kind}
    (h : ∀ column ∈ columnsOf context.catalog metric kind, ∀ physical,
      context.catalog.metadata.physicalName metric column = .ok physical →
      row.long physical = other.long physical ∧ row.text physical = other.text physical) :
    readValues context metric row kind = readValues context metric other kind := by
  have long {column : String} (mem : column ∈ columnsOf context.catalog metric kind) :
      readLong context.catalog.metadata metric row column =
        readLong context.catalog.metadata metric other column :=
    readLong_congr fun physical named => (h column mem physical named).1
  cases kind with
  | percentile => exact readRanks_congr fun physical named => (h _ (.head _) physical named).2
  | average => exact Except.mapM_congr (List.forall₂_same.2 fun _ mem => long mem)
  | percentage => exact Except.mapM_congr (List.forall₂_same.2 fun _ mem => long mem)
  | singleValue | cpm | sum | max =>
    rw [readValues, readValues]
    cases shown : context.catalog.metadata.valueColumn metric with
    | error error => rfl
    | ok column =>
      have mem : column ∈ (context.catalog.metadata.valueColumn metric).toOption.toList := by
        rw [shown]
        exact .head _
      rw [Except.ok_bind, Except.ok_bind, long mem]

/-- Rows that agree in the columns that are read decode alike, failures included. -/
theorem decode_congr {context : Context} {metric : String} {row other : Row}
    (h : ∀ physical, Reads context.catalog metric physical →
      row.long physical = other.long physical ∧ row.text physical = other.text physical) :
    decode context metric row = decode context metric other := by
  rw [decode, decode]
  cases resolved : context.catalog.registry.resolve metric with
  | error error => rfl
  | ok descriptor =>
    rw [Except.ok_bind, Except.ok_bind, readValues_congr fun column mem physical named =>
      h physical ⟨descriptor, resolved, column, mem, named⟩]

theorem decodeRow_of_id {context : Context} {metric : String}
    (unread : ¬ Reads context.catalog metric keyColumns.id) (id : String)
    (fields : List (String × Json)) :
    decodeRow context metric (.ofFields ((keyColumns.id, .string id) :: fields)) =
      if id = "" then .ok none
      else (decode context metric (.ofFields fields)).map fun set => some (id, set) := by
  have same : decode context metric (.ofFields ((keyColumns.id, .string id) :: fields)) =
      decode context metric (.ofFields fields) := by
    refine decode_congr fun physical reads => ?_
    have other : (physical == keyColumns.id) = false :=
      beq_false_of_ne fun eq => unread (eq ▸ reads)
    simp only [Row.ofFields, Row.ofJson, Row.field, List.lookup_cons, other, and_self]
  rw [← same]
  rfl

end Decoder

end Rollup
