import Rollup.Proofs.Relational.Integrity
import Mathlib

/-!
Batches of records. A batch is written as a whole or not at all, and it is written exactly if each
of its records could be written alone. A written record stands in the table of its own bucket
(`Stands`). Whatever comes of a call, it gives its connection back, and a query changes nothing.
-/
namespace Rollup

namespace Table

variable {table : Table} {given prepared : List (String × Cell)} {column : TableColumn}

theorem isSome_givenFor? : (givenFor? given column).isSome = true ↔
    ∃ name ∈ given.map (·.1), sameName name column.name = true := by
  simp [givenFor?]

theorem castFor_eq_ok {named cast : String × Cell} (h : table.castFor named = .ok cast) :
    cast.1 = named.1 ∧ ∃ column ∈ table.columns, sameName column.name named.1 = true ∧
      named.2.cast column.type = .ok cast.2 := by
  rw [castFor] at h
  split at h
  · contradiction
  · next column found =>
    obtain ⟨cell, eq, rfl⟩ := Except.map_eq_ok_iff.1 h
    exact ⟨rfl, column, List.mem_of_find?_eq_some found, by simpa using List.find?_some found, eq⟩

theorem names_prepare (h : table.prepare given = .ok prepared) :
    prepared.map (·.1) = given.map (·.1) := by
  have casts := Except.mapM_eq_ok_iff.1 (prepare_eq_ok h).2.1
  clear h
  induction casts with
  | nil => rfl
  | cons cast _ ih => rw [List.map_cons, List.map_cons, (castFor_eq_ok cast).1, ih]

theorem givenFor?_prepare (h : table.prepare given = .ok prepared) {named : String × Cell}
    (mem : named ∈ given) : ∃ column ∈ table.columns, sameName column.name named.1 = true ∧
      ∃ cell, named.2.cast column.type = .ok cell ∧ givenFor? prepared column = some cell := by
  obtain ⟨checked, casts, -⟩ := prepare_eq_ok h
  have distinct := distinct_of_checkNames checked
  rw [← names_prepare h, List.pairwise_map] at distinct
  obtain ⟨cast, listed, eq⟩ := (Except.mem_of_mapM_eq_ok casts).1 named mem
  obtain ⟨name, column, own, same, typed⟩ := castFor_eq_ok eq
  have back : sameName cast.1 column.name = true := by
    rw [sameName_iff] at same ⊢
    rw [name, same]
  refine ⟨column, own, same, cast.2, typed, ?_⟩
  rw [givenFor?, find?_of_distinct distinct listed back]
  rfl

end Table

namespace Relational

variable {adapter : Relational} {metric : String} {record aligned : Record} {write : Write}

theorem align_eq_ok (h : adapter.align record = .ok aligned) :
    aligned.key = record.key ∧ aligned.kind = record.kind := by
  rw [align] at h
  split at h
  · next ranked changed =>
    rw [Record.setRanks] at changed
    split at changed
    · next p percentile =>
      split at changed
      · cases changed
      · cases changed
        obtain ⟨measure, calculated, eq⟩ := Except.bind_eq_ok_iff.1 h
        cases eq
        obtain ⟨own, -, eq⟩ := Except.bind_eq_ok_iff.1 calculated
        cases eq
        simp [Record.kind, percentile, Measure.kind]
    · cases changed
  · cases h
    exact ⟨rfl, rfl⟩

/-- Of a record, its kind and whether it has an owner decide which columns it is written to. -/
theorem names_row {other : Record} (key : other.key = record.key)
    (kind : other.kind = record.kind) : other.row.map (·.1) = record.row.map (·.1) := by
  obtain ⟨⟨_, service, _⟩, measure⟩ := record
  obtain ⟨⟨_, owner, _⟩, measured⟩ := other
  cases key
  cases service <;> cases measure <;> cases measured <;>
    simp_all [Record.row, Record.kind, Measure.kind, Measure.columns]

def cellOf (adapter : Relational) (metric : String) (entry : String × Scalar) :
    Outcome (String × Cell) := do
  let storage ← adapter.storageColumn metric entry.1
  .ok (storage, entry.2.toCell)

theorem cellOf_eq_ok_iff {entry : String × Scalar} {cell : String × Cell} :
    adapter.cellOf metric entry = .ok cell ↔
      adapter.storageColumn metric entry.1 = .ok cell.1 ∧ entry.2.toCell = cell.2 := by
  rw [cellOf, Except.bind_eq_ok_iff]
  constructor
  · rintro ⟨storage, eq, made⟩
    cases made
    exact ⟨Outcome.ofExcept_eq_ok_iff.1 eq, rfl⟩
  · rintro ⟨eq, value⟩
    exact ⟨cell.1, Outcome.ofExcept_eq_ok_iff.2 eq, by rw [value]⟩

/-- What is written for a record: its id first, and the columns of its row under their names. -/
theorem write_eq_ok (h : adapter.write metric record = .ok write) :
    adapter.tableName metric record.key.bucket = .ok write.1 ∧
      (∃ rest, write.2 = (keyColumns.id, .text record.id) :: rest) ∧
      ∀ name, name ∈ write.2.map (·.1) ↔
        ∃ column ∈ record.row.map (·.1), adapter.storageColumn metric column = .ok name := by
  obtain ⟨table, named, h⟩ := Except.bind_eq_ok_iff.1 h
  obtain ⟨own, eq, h⟩ := Except.bind_eq_ok_iff.1 h
  obtain ⟨cells, stored, h⟩ := Except.bind_eq_ok_iff.1 h
  have stored : own.row.mapM (adapter.cellOf metric) = .ok cells := stored
  cases h
  obtain ⟨key, kind⟩ := align_eq_ok eq
  refine ⟨named, ?_, fun name => ?_⟩
  · have row : own.row = (keyColumns.id, .text own.id) :: own.row.tail := rfl
    have id : adapter.cellOf metric (keyColumns.id, .text own.id) =
        .ok (keyColumns.id, .text own.id) := cellOf_eq_ok_iff.2 ⟨if_pos rfl, rfl⟩
    rw [row, List.mapM_cons, id, Except.ok_bind] at stored
    obtain ⟨rest, -, eq⟩ := Except.bind_eq_ok_iff.1 stored
    cases eq
    exact ⟨rest, by rw [Record.id, Record.id, key]⟩
  · rw [← names_row key kind]
    obtain ⟨written, sources⟩ := Except.mem_of_mapM_eq_ok stored
    constructor
    · intro mem
      obtain ⟨cell, listed, rfl⟩ := List.mem_map.1 mem
      obtain ⟨entry, source, eq⟩ := sources cell listed
      exact ⟨entry.1, List.mem_map_of_mem source, (cellOf_eq_ok_iff.1 eq).1⟩
    · rintro ⟨column, mem, eq⟩
      obtain ⟨entry, source, rfl⟩ := List.mem_map.1 mem
      obtain ⟨cell, listed, made⟩ := written entry source
      have same := (cellOf_eq_ok_iff.1 made).1
      rw [eq, Except.ok.injEq] at same
      rw [same]
      exact List.mem_map_of_mem listed

theorem head?_newRow_of_write {table : Table} (sound : table.Sound)
    (h : adapter.write metric record = .ok write) {given : List (String × Cell)}
    (prepared : table.prepare write.2 = .ok given) :
    (table.newRow given).head? = some (.text record.id) := by
  obtain ⟨-, ⟨rest, eq⟩, -⟩ := write_eq_ok h
  obtain ⟨-, casts, keyed⟩ := Table.prepare_eq_ok prepared
  obtain ⟨others, columns⟩ : ∃ others, table.columns = ⟨keyColumns.id, .varchar⟩ :: others := by
    simpa using List.head?_eq_some_iff.1 (sound.key keyed)
  have own : table.castFor (keyColumns.id, .text record.id) =
      .ok (keyColumns.id, .text record.id) := by
    simp [Table.castFor, columns, Cell.cast, Except.map]
  rw [eq, List.mapM_cons, own, Except.ok_bind] at casts
  obtain ⟨cells, -, casts⟩ := Except.bind_eq_ok_iff.1 casts
  cases casts
  simp [Table.newRow, columns, Table.givenFor?]

theorem sets?_of_write {table : Table} (sound : table.Sound)
    (h : adapter.write metric record = .ok write) (key : Option Cell) :
    table.sets? key write =
      if key = some (.text record.id) then table.accepted? write else none := by
  rw [Table.sets?]
  cases accepted : table.accepted? write with
  | none => simp
  | some given =>
    obtain ⟨-, prepared⟩ := Table.accepted?_eq_some_iff.1 accepted
    rw [Option.filter_some, head?_newRow_of_write sound h prepared]
    simp [eq_comm]

/-- The record has its row in the table of its bucket. A cell written for it is in the row unless a
later record of the batch, of the same id, wrote to the column again. -/
def Stands (adapter : Relational) (metric : String) (record : Record) (later : List Record)
    (database : Database) : Prop :=
  ∃ write table row, adapter.write metric record = .ok write ∧
    adapter.tableName metric record.key.bucket = .ok write.1 ∧
    database.find? write.1 = some table ∧ table.rowAt? (some (.text record.id)) = some row ∧
    ∀ named ∈ write.2,
      (∀ other ∈ later, other.id = record.id → ∀ next, adapter.write metric other = .ok next →
        ∀ name ∈ next.2.map (·.1), sameName name named.1 = false) →
      ∃ (i : Nat) (column : TableColumn) (cell : Cell),
        table.columns[i]? = some column ∧ sameName column.name named.1 = true ∧
        named.2.cast column.type = .ok cell ∧ row[i]? = some cell

/-- Writes of which none is of this id and to this column leave the cell. -/
theorem latest_givenFor?_of_untouched {table : Table} (sound : table.Sound) {later : List Record}
    {writes : List Write} (prepared : later.mapM (adapter.write metric) = .ok writes)
    {column : TableColumn} {name : String} (columnName : sameName column.name name = true)
    (untouched : ∀ other ∈ later, other.id = record.id →
      ∀ write, adapter.write metric other = .ok write →
        ∀ written ∈ write.2.map (·.1), sameName written name = false) :
    latest (fun write => (table.sets? (some (.text record.id)) write).bind
      (Table.givenFor? · column)) writes = none := by
  rw [latest_eq_none_iff]
  intro write mem
  obtain ⟨other, listed, eq⟩ := (Except.mem_of_mapM_eq_ok prepared).2 write mem
  rw [sets?_of_write sound eq]
  by_cases id : other.id = record.id
  · rw [if_pos (by simp [id])]
    cases taken : table.accepted? write with
    | none => rfl
    | some given =>
      have names := Table.names_prepare (Table.accepted?_eq_some_iff.1 taken).2
      rw [Option.bind_some, ← Option.not_isSome_iff_eq_none, Table.isSome_givenFor?, names]
      rintro ⟨own, written, same⟩
      have free := untouched other listed id write eq own written
      rw [← sameName_congr columnName, same] at free
      contradiction
  · simp [Ne.symm id]

/-- Every record of a batch that is carried out stands in its table. -/
theorem stands_of_writes {database : Database} (sound : database.Sound) {before later : List Record}
    {writes : List Write}
    (prepared : (before ++ record :: later).mapM (adapter.write metric) = .ok writes)
    (accepts : ∀ write ∈ writes, database.Accepts write) :
    adapter.Stands metric record later (writes.foldl Database.absorb database) := by
  obtain ⟨first, write, last, -, made, others, rfl⟩ := Except.mapM_append_cons_eq_ok prepared
  obtain ⟨table, mem, taken⟩ := (accepts write (by simp)).taken
  obtain ⟨given, accepted⟩ := Option.isSome_iff_exists.1 taken
  obtain ⟨same, prepared⟩ := Table.accepted?_eq_some_iff.1 accepted
  have tableSound := sound.tables table mem
  let key : Option Cell := some (.text record.id)
  have sets : table.sets? key write = some given := by
    rw [sets?_of_write tableSound made, if_pos rfl, accepted]
  obtain ⟨row, held⟩ : ∃ row,
      (first ++ write :: last).foldl (table.revise key) (table.rowAt? key) = some row := by
    rw [← Option.isSome_iff_exists, Table.isSome_foldl_revise, latest_append, latest, sets]
    simp
  refine ⟨write, (first ++ write :: last).foldl Table.absorb table, row, made,
    (write_eq_ok made).1, ?_, ?_, ?_⟩
  · have final := sound.foldl_absorb (first ++ write :: last)
    apply find?_of_distinct final.names
    · rw [Database.tables_foldl_absorb]
      exact List.mem_map_of_mem mem
    · rw [Table.name_foldl_absorb]
      exact same
  · rw [Table.rowAt?_foldl_absorb]
    exact held
  · intro named listed untouched
    obtain ⟨column, own, columnName, cell, cast, given'⟩ := Table.givenFor?_prepare prepared listed
    obtain ⟨i, at_⟩ := List.mem_iff_getElem?.1 own
    refine ⟨i, column, cell, ?_, columnName, cast, ?_⟩
    · rw [Table.columns_foldl_absorb]
      exact at_
    -- of the writes to this cell, the one of the record is the last
    have silent := latest_givenFor?_of_untouched tableSound others columnName untouched
    obtain ⟨old, before⟩ := tableSound.exists_cell key at_
    have after := Table.getElem?_foldl_revise at_ key before (first ++ write :: last)
    rw [held, latest_append, latest, silent, sets] at after
    simpa [given'] using after

theorem eq_ok_of_commit {α : Type} {value result : α} {change : Database → Outcome Database}
    {store after : Store} (h : store.withConnection (commit value change) = (.ok result, after)) :
    store.pool.Free ∧ result = value ∧ change store.database = .ok after.database := by
  by_cases free : store.pool.Free
  · obtain ⟨pool, -, eq⟩ := Store.withConnection_eq free (commit value change)
    rw [eq, commit] at h
    split at h
    · next database changed =>
      cases h
      exact ⟨free, rfl, changed⟩
    · cases h
  · rw [Store.withConnection_of_not_free free] at h
    cases h

theorem database_of_commit_error {α : Type} {value : α} {change : Database → Outcome Database}
    {failure : Failure} {store after : Store}
    (h : store.withConnection (commit value change) = (.error failure, after)) :
    after.database = store.database := by
  by_cases free : store.pool.Free
  · obtain ⟨pool, -, eq⟩ := Store.withConnection_eq free (commit value change)
    rw [eq, commit] at h
    split at h <;> cases h
    rfl
  · rw [Store.withConnection_of_not_free free] at h
    cases h
    rfl

theorem writes_of_insert {records : List Record} {count : Nat} {store after : Store}
    (h : adapter.insert metric records store = (.ok count, after)) :
    store.pool.Free ∧ ∃ writes, records.mapM (adapter.write metric) = .ok writes ∧
      writes.foldlM carryOut store.database = .ok after.database ∧ count = records.length := by
  rw [insert] at h
  split at h
  · cases h
  · next writes prepared =>
    obtain ⟨free, length, written⟩ := eq_ok_of_commit h
    exact ⟨free, writes, prepared, written,
      length.trans (Except.mapM_eq_ok_iff.1 prepared).length_eq.symm⟩

theorem database_of_insert_error {records : List Record} {failure : Failure} {store after : Store}
    (h : adapter.insert metric records store = (.error failure, after)) :
    after.database = store.database := by
  rw [insert] at h
  split at h
  · cases h
    rfl
  · exact database_of_commit_error h

theorem insert_eq_ok_iff {store : Store} (sound : store.database.Sound) {records : List Record}
    {count : Nat} : (adapter.insert metric records store).1 = .ok count ↔
      count = records.length ∧ store.pool.Free ∧ ∃ writes,
        records.mapM (adapter.write metric) = .ok writes ∧
          ∀ write ∈ writes, store.database.Accepts write := by
  rw [insert]
  cases prepared : records.mapM (adapter.write metric) with
  | error failure => simp
  | ok writes =>
    have length : writes.length = records.length :=
      (Except.mapM_eq_ok_iff.1 prepared).length_eq.symm
    by_cases free : store.pool.Free
    · obtain ⟨pool, -, eq⟩ := Store.withConnection_eq free
        (commit writes.length (writes.foldlM carryOut))
      simp only [eq, commit, free, true_and, Except.ok.injEq, exists_eq_left']
      cases written : writes.foldlM carryOut store.database with
      | error failure =>
        have refused : ¬ ∀ write ∈ writes, store.database.Accepts write := by
          intro accepts
          rw [sound.foldlM_carryOut_eq_ok_iff.2 ⟨accepts, rfl⟩] at written
          contradiction
        exact iff_of_false (by simp) fun h => refused h.2
      | ok after =>
        have accepts := (sound.foldlM_carryOut_eq_ok_iff.1 written).1
        simp only [length, Except.ok.injEq, and_iff_left accepts]
        exact eq_comm
    · simp [Store.withConnection_of_not_free free, free]

theorem insert_one_eq_ok_iff {store : Store} (sound : store.database.Sound) {record : Record} :
    (adapter.insert metric [record] store).1 = .ok 1 ↔
      store.pool.Free ∧ ∃ write, adapter.write metric record = .ok write ∧
        store.database.Accepts write := by
  have one : [record].mapM (adapter.write metric) = (adapter.write metric record).map ([·]) := by
    rw [List.mapM_cons]
    cases adapter.write metric record <;> rfl
  rw [insert_eq_ok_iff sound, one]
  constructor
  · rintro ⟨-, free, writes, prepared, accepts⟩
    obtain ⟨write, eq, rfl⟩ := Except.map_eq_ok_iff.1 prepared
    exact ⟨free, write, eq, accepts write (List.mem_singleton_self _)⟩
  · rintro ⟨free, write, eq, accepts⟩
    refine ⟨rfl, free, [write], by rw [eq]; rfl, fun other mem => ?_⟩
    rw [List.mem_singleton.1 mem]
    exact accepts

/-- A batch is written if each of its records alone could be. -/
theorem exists_insert_iff {store : Store} (sound : store.database.Sound) (records : List Record) :
    (∃ count, (adapter.insert metric records store).1 = .ok count) ↔
      store.pool.Free ∧ ∀ record ∈ records, (adapter.insert metric [record] store).1 = .ok 1 := by
  simp only [insert_one_eq_ok_iff sound]
  simp only [insert_eq_ok_iff sound, exists_eq_left]
  constructor
  · rintro ⟨free, writes, prepared, accepts⟩
    refine ⟨free, fun record mem => ⟨free, ?_⟩⟩
    obtain ⟨write, listed, eq⟩ := (Except.mem_of_mapM_eq_ok prepared).1 record mem
    exact ⟨write, eq, accepts write listed⟩
  · rintro ⟨free, each⟩
    refine ⟨free, ?_⟩
    cases prepared : records.mapM (adapter.write metric) with
    | error failure =>
      obtain ⟨before, record, after, rfl, -, failed⟩ := Except.mapM_eq_error_iff.1 prepared
      obtain ⟨-, write, eq, -⟩ := each record (by simp)
      rw [failed] at eq
      contradiction
    | ok writes =>
      refine ⟨writes, rfl, fun write mem => ?_⟩
      obtain ⟨record, listed, eq⟩ := (Except.mem_of_mapM_eq_ok prepared).2 write mem
      obtain ⟨-, own, eq', accepts⟩ := each record listed
      rw [eq, Except.ok.injEq] at eq'
      rw [eq']
      exact accepts

/-- A batch of records of any kinds and buckets is written as a whole or not at all: an error leaves
the database as it was, and success means that every record stands in the table of its bucket while
the tables of other buckets are untouched. Success depends on each record by itself. No call, and no
attempt to get a connection, changes how many connections are in use, and a query changes no
table. -/
theorem insert_all_or_nothing (adapter : Relational) (metric : String) (records : List Record)
    (store : Store) :
    (∀ failure after, adapter.insert metric records store = (.error failure, after) →
      after.database = store.database) ∧
    (∀ count after, adapter.insert metric records store = (.ok count, after) →
      count = records.length ∧ (store.database.Sound →
        (∀ before record later, records = before ++ record :: later →
          adapter.Stands metric record later after.database) ∧
        ∀ table ∈ store.database.tables,
          (∀ record ∈ records, ∀ name, adapter.tableName metric record.key.bucket = .ok name →
            sameName table.name name = false) →
          table ∈ after.database.tables)) ∧
    (store.database.Sound →
      ((∃ count, (adapter.insert metric records store).1 = .ok count) ↔
        store.pool.Free ∧
          ∀ record ∈ records, (adapter.insert metric [record] store).1 = .ok 1)) ∧
    (adapter.insert metric records store).2.pool.inUse = store.pool.inUse ∧
    (∀ model bucket,
      (adapter.createTable model bucket store).2.pool.inUse = store.pool.inUse) ∧
    (∀ request bucket, (adapter.read request bucket store).2.pool.inUse = store.pool.inUse ∧
      (adapter.read request bucket store).2.database = store.database) ∧
    ∀ canConnect attempt taken, store.pool.acquire canConnect = (attempt, taken) →
      match attempt with
      | .granted connection => (taken.release connection).inUse = store.pool.inUse
      | _ => taken = store.pool := by
  refine ⟨?_, ?_, fun sound => exists_insert_iff sound records, ?_, ?_, ?_,
    store.pool.inUse_acquire⟩
  · intro failure after failed
    exact database_of_insert_error failed
  · intro count after inserted
    obtain ⟨-, writes, prepared, written, length⟩ := writes_of_insert inserted
    refine ⟨length, fun sound => ?_⟩
    obtain ⟨accepts, eq⟩ := sound.foldlM_carryOut_eq_ok_iff.1 written
    rw [← eq]
    constructor
    · rintro before record later rfl
      exact stands_of_writes sound prepared accepts
    · intro table mem elsewhere
      have kept : writes.foldl Table.absorb table = table := by
        apply Table.foldl_absorb_eq_self
        intro write listed
        obtain ⟨record, source, made⟩ := (Except.mem_of_mapM_eq_ok prepared).2 write listed
        have other := elsewhere record source write.1 (write_eq_ok made).1
        simp [Table.accepted?, other]
      rw [Database.tables_foldl_absorb, ← kept]
      exact List.mem_map_of_mem mem
  · rw [insert]
    split
    · rfl
    · exact Store.inUse_withConnection ..
  · intro model bucket
    simp only [createTable]
    split
    · rfl
    · exact Store.inUse_withConnection ..
  · intro request bucket
    rw [read]
    split
    · exact ⟨rfl, rfl⟩
    · exact ⟨Store.inUse_withConnection ..,
        Store.withConnection_keeps (P := (· = store.database)) rfl rfl⟩

/-- Of two records one has no table at its day. Neither is written, and the other one alone is. -/
theorem insert_all_or_nothing_second_fails :
    let model := Model.ofKind "m" .sum
    let adapter : Relational :=
      ⟨.ofCatalog ⟨⟨[.ofKind "m" .sum]⟩, ⟨[("m", model)], none⟩⟩, ""⟩
    let store := (adapter.createTable model 20240101 (Store.ofSize 1)).2
    let first : Record := ⟨⟨"a", none, 20240101⟩, .sum 1⟩
    let second : Record := ⟨⟨"a", none, 20240102⟩, .sum 2⟩
    (∃ failure after, adapter.insert "m" [first, second] store = (.error failure, after) ∧
      after.database = store.database) ∧
      ∃ after, adapter.insert "m" [first] store = (.ok 1, after) ∧
        adapter.Stands "m" first [] after.database := by
  intro model adapter store first second
  have sound : store.database.Sound :=
    Store.sound_of_uses 1 [.createTable adapter model 20240101]
  constructor
  · have fails : (adapter.insert "m" [first, second] store).1.isOk = false := by decide +kernel
    cases ran : adapter.insert "m" [first, second] store with
    | mk outcome after =>
      rw [ran] at fails
      cases outcome with
      | ok count => contradiction
      | error failure =>
        exact ⟨failure, after, rfl, (insert_all_or_nothing ..).1 failure after ran⟩
  · have succeeds : (adapter.insert "m" [first] store).1.isOk = true := by decide +kernel
    cases ran : adapter.insert "m" [first] store with
    | mk outcome after =>
      rw [ran] at succeeds
      cases outcome with
      | error failure => contradiction
      | ok count =>
        obtain ⟨length, stored⟩ := (insert_all_or_nothing ..).2.1 count after ran
        cases length
        exact ⟨after, rfl, (stored sound).1 [] first [] rfl⟩

end Relational

end Rollup
