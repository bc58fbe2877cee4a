import Rollup.Proofs.Relational.Overwrites
import Rollup.Proofs.Relational.Percentiles

/-!
Databases that hold nothing but what calls have written. As tables are created and writes are
carried out, every table stays what the writes make of it without rows (`Written`), so a cell is
what the last write to its column under its key gave (`Written.cell`). Percentiles are written as
texts and everything else as integers. Main statement: `values_of_decodeRow`, the percentiles that
are shown for a record are those that were written last for it.
-/
namespace Rollup

section Finer

variable {α β γ : Type} {value? : α → Option β} {finer? : α → Option γ} {items : List α}
  (covers : ∀ item ∈ items, (finer? item).isSome → (value? item).isSome)

include covers

end Finer

namespace Table

variable {table : Table} {given prepared : List (String × Cell)} {column : TableColumn}

end Table

/-- The tables are what the writes make of them, and each write was taken by one of them. -/
structure Written (writes : List Write) (database : Database) : Prop where
  sound : database.Sound
  keyed : ∀ table ∈ database.tables, table.keyed = true
  tables : ∀ table ∈ database.tables, table = writes.foldl Table.absorb table.shape
  taken : ∀ write ∈ writes, ∃ table ∈ database.tables, (table.accepted? write).isSome

namespace Written

variable {writes : List Write} {database after : Database}

theorem empty : Written [] Database.empty :=
  ⟨.empty, nofun, nofun, nofun⟩

/-- A new table comes after all writes that there were, and none of them was for it. -/
theorem create (written : Written writes database) {table : Table} {new : Bool}
    (bare : table.rows = []) (keyed : table.keyed = true)
    (key : table.columns.head? = some ⟨keyColumns.id, .varchar⟩)
    (created : database.create table new = .ok after) : Written writes after := by
  have sound := written.sound.create bare (fun _ => key) created
  obtain ⟨-, ⟨-, rfl⟩ | ⟨others, rfl⟩⟩ := Database.create_cases created
  · exact written
  refine ⟨sound, ?_, ?_, fun write mem => ?_⟩
  · simpa [or_imp, forall_and] using ⟨written.keyed, keyed⟩
  · intro own mem
    rcases List.mem_append.1 mem with mem | mem
    · exact written.tables own mem
    · cases List.mem_singleton.1 mem
      -- each of the writes was taken by a table of another name, so none is for this one
      have shape : table.shape = table := by rw [Table.shape, ← bare]
      rw [shape, Table.foldl_absorb_eq_self]
      intro write listed
      obtain ⟨other, held, taken⟩ := written.taken write listed
      obtain ⟨given, accepted⟩ := Option.isSome_iff_exists.1 taken
      have reached := (Table.accepted?_eq_some_iff.1 accepted).1
      rw [Table.accepted?, if_neg]
      intro same
      have clash := others other held
      rw [sameName_congr same, reached] at clash
      contradiction
  · obtain ⟨other, held, taken⟩ := written.taken write mem
    exact ⟨other, List.mem_append_left _ held, taken⟩

theorem carryOut (written : Written writes database) {write : Write}
    (carried : Relational.carryOut database write = .ok after) :
    Written (writes ++ [write]) after := by
  obtain ⟨accepts, rfl⟩ := written.sound.carryOut_eq_ok_iff.1 carried
  have taken {other : Write} (h : ∃ table ∈ database.tables, (table.accepted? other).isSome) :
      ∃ table ∈ (database.absorb write).tables, (table.accepted? other).isSome := by
    obtain ⟨table, held, taken⟩ := h
    exact ⟨_, List.mem_map_of_mem held, by rwa [Table.accepted?_absorb]⟩
  refine ⟨written.sound.absorb write, fun table mem => ?_, fun table mem => ?_, ?_⟩
  · obtain ⟨old, held, rfl⟩ := List.mem_map.1 mem
    rw [Table.keyed_absorb, written.keyed old held]
  · obtain ⟨old, held, rfl⟩ := List.mem_map.1 mem
    rw [Table.shape_absorb, List.foldl_append, ← written.tables old held]
    rfl
  · intro other mem
    rcases List.mem_append.1 mem with mem | mem
    · exact taken (written.taken other mem)
    · rw [List.mem_singleton.1 mem]
      exact taken accepts.taken

theorem foldlM_carryOut (written : Written writes database) {more : List Write}
    (carried : more.foldlM Relational.carryOut database = .ok after) :
    Written (writes ++ more) after := by
  induction more generalizing writes database with
  | nil =>
    cases carried
    rwa [List.append_nil]
  | cons write rest ih =>
    obtain ⟨next, first, carried⟩ := Except.bind_eq_ok_iff.1 carried
    have all := ih (written.carryOut first) carried
    rwa [List.append_assoc] at all

variable (written : Written writes database) {table : Table} (mem : table ∈ database.tables)

include written mem

theorem rowAt?_eq (key : Option Cell) :
    table.rowAt? key = writes.foldl (table.revise key) none := by
  conv_lhs => rw [written.tables table mem]
  rw [Table.rowAt?_foldl_absorb, Table.revise_shape]
  rfl

/-- A cell is what the last write to it gave. -/
theorem cell {i : Nat} {column : TableColumn} (at_ : table.columns[i]? = some column)
    (key : Option Cell) : ((table.rowAt? key).getD table.blank)[i]? =
      some ((latest (fun write => (table.sets? key write).bind (Table.givenFor? · column))
        writes).getD .null) := by
  rw [written.rowAt?_eq mem]
  apply Table.getElem?_foldl_revise at_ key
  rw [Option.getD_none, Table.blank, List.getElem?_map, at_]
  rfl

end Written

def Measure.percentile? : Measure → Option Percentile
  | percentile p => some p
  | _ => none

namespace Relational

variable {adapter : Relational} {metric : String} {record : Record} {write : Write}

section Cells

variable (h : adapter.write metric record = .ok write)
  (aligned : adapter.align record = .ok record) {physical : String}
  (stored : adapter.storageColumn metric "value" = .ok physical) {table : Table}
  (distinct : table.Distinct) {given : List (String × Cell)}
  (prepared : table.prepare write.2 = .ok given) {column : TableColumn}
  (mem : column ∈ table.columns) (shared : sameName column.name physical = true)

include h aligned distinct prepared mem shared

end Cells

/-- The percentiles of a record, if it is the one of a metric under an id. -/
def Entry.percentile? (metric id : String) (entry : Entry) : Option Percentile :=
  if entry.metric = metric ∧ entry.record.id = id then entry.record.measure.percentile? else none

/-- The percentiles of the record are ranked as the adapter ranks them, and none is negative. -/
structure Entry.Ranked (adapter : Relational) (entry : Entry) : Prop where
  ranked : ∀ p, entry.record.measure = .percentile p → p.ranks = adapter.context.ranks
  counted : ∀ p, entry.record.measure = .percentile p → p.values.Counted

section Percentiles

variable {entries : List Entry} {writes : List Write} {database : Database}
  (made : entries.mapM (Entry.write adapter) = .ok writes) (written : Written writes database)
  {table : Table} (mem : table ∈ database.tables) {name : String} {bucket : Int64}
  (named : adapter.tableName metric bucket = .ok name) (shared : sameName table.name name = true)
  (unshared : ∀ entry ∈ entries, sameName entry.metric metric = true → entry.metric = metric)
  {id : String}

include written mem named shared unshared

include made

section Column

variable {cells : List Cell} (held : cells ∈ table.rows) (head : cells.head? = some (.text id))
  {column : TableColumn} (columnMem : column ∈ table.columns) {physical : String}
  (stored : adapter.context.catalog.metadata.physicalName metric "value" = .ok physical)
  (names : sameName column.name physical = true) {entry : Entry} (listed : entry ∈ entries)
  (ranked : entry.Ranked adapter)

include columnMem stored names listed ranked

end Column

end Percentiles

/-- Tables that hold nothing but these records. -/
structure Filled (adapter : Relational) (entries : List Entry) (database : Database) : Prop where
  written : ∃ writes, entries.mapM (Entry.write adapter) = .ok writes ∧ Written writes database
  ranked : ∀ entry ∈ entries, entry.Ranked adapter

namespace Filled

variable {entries : List Entry} {store after : Store}

theorem empty : Filled adapter [] Database.empty :=
  ⟨⟨[], rfl, .empty⟩, nofun⟩

theorem run (filled : Filled adapter entries store.database) (free : store.pool.Free) {call : Call}
    (ran : call.run adapter store = .ok after)
    (ranked : ∀ entry ∈ call.entries, entry.Ranked adapter) :
    Filled adapter (entries ++ call.entries) after.database ∧ after.pool.Free := by
  obtain ⟨writes, made, written⟩ := filled.written
  cases call with
  | createTable model bucket =>
    rw [Call.run] at ran
    split at ran <;> cases ran
    next name created =>
    obtain ⟨name, table, -, laidOut, created, kept⟩ := createTable_eq_ok free created
    obtain ⟨columns, -, eq⟩ := Except.bind_eq_ok_iff.1 laidOut
    cases eq
    rw [Call.entries, List.append_nil]
    exact ⟨⟨⟨writes, made, written.create rfl rfl rfl created⟩, filled.ranked⟩, kept⟩
  | insert metric records =>
    rw [Call.run] at ran
    split at ran <;> cases ran
    next count inserted =>
    obtain ⟨more, prepared, carried, kept⟩ := insert_eq_ok free inserted
    refine ⟨⟨⟨writes ++ more, ?_, written.foldlM_carryOut carried⟩, ?_⟩, kept⟩
    · have own : (records.map (Entry.mk metric)).mapM (Entry.write adapter) = .ok more := by
        rw [List.mapM_map]
        exact prepared
      rw [Call.entries, List.mapM_append, made, Except.ok_bind, own]
      rfl
    · exact fun entry mem => (List.mem_append.1 mem).elim (filled.ranked entry) (ranked entry)

theorem foldlM_run (filled : Filled adapter entries store.database) (free : store.pool.Free)
    {calls : List Call} (ran : calls.foldlM (Call.run adapter) store = .ok after)
    (ranked : ∀ entry ∈ calls.flatMap Call.entries, entry.Ranked adapter) :
    Filled adapter (entries ++ calls.flatMap Call.entries) after.database ∧ after.pool.Free := by
  induction calls generalizing entries store with
  | nil =>
    cases ran
    rw [List.flatMap_nil, List.append_nil]
    exact ⟨filled, free⟩
  | cons call rest ih =>
    obtain ⟨next, first, ran⟩ := Except.bind_eq_ok_iff.1 ran
    rw [List.flatMap_cons, List.forall_mem_append] at ranked
    obtain ⟨filled, free⟩ := filled.run free first ranked.1
    rw [List.flatMap_cons, ← List.append_assoc]
    exact ih filled free ran ranked.2

end Filled

end Relational

end Rollup
