import Rollup.Proofs.Relational.Calls
import Rollup.Proofs.Relational.Upserts
import Rollup.Relational.Transfer

/-!
What every database keeps to: tables and columns have different names, rows are full, and a keyed
table has one row for an id. Every call keeps it, whatever catalog it comes from (`Use.sound_run`),
so it holds of all stores that calls reach (`sound_of_uses`). In such a database a batch of writes
is carried out exactly if each of them is acceptable by itself, and each table takes in those that
are for it (`foldlM_carryOut_eq_ok_iff`).
-/
namespace Rollup

structure Table.Sound (table : Table) : Prop where
  distinct : table.Distinct
  full : ∀ row ∈ table.rows, row.length = table.columns.length
  key : table.keyed = true → table.columns.head? = some ⟨keyColumns.id, .varchar⟩
  unique : table.keyed = true → (table.rows.map List.head?).Nodup

namespace Table

theorem prepare_eq_ok {table : Table} {given prepared : List (String × Cell)}
    (h : table.prepare given = .ok prepared) :
    checkNames (given.map (·.1)) = .ok () ∧ given.mapM table.castFor = .ok prepared ∧
      table.keyed = true := by
  obtain ⟨⟨⟩, named, h⟩ := Except.bind_eq_ok_iff.1 h
  obtain ⟨cells, cast, h⟩ := Except.bind_eq_ok_iff.1 h
  split at h
  · next keyed =>
    obtain ⟨_, _, h⟩ := Except.bind_eq_ok_iff.1 h
    cases h
    exact ⟨named, cast, keyed⟩
  · contradiction

theorem accepted?_eq_some_iff {table : Table} {write : Write} {given : List (String × Cell)} :
    table.accepted? write = some given ↔
      sameName table.name write.1 = true ∧ table.prepare write.2 = .ok given := by
  rw [accepted?]
  split
  · next own =>
    rw [and_iff_right own]
    cases table.prepare write.2 <;> simp [Except.toOption]
  · next other => simp [other]

theorem absorb_of_prepare {table : Table} {write : Write} {given : List (String × Cell)}
    (own : sameName table.name write.1 = true) (prepared : table.prepare write.2 = .ok given) :
    table.absorb write = table.upsertRow given := by
  rw [absorb, accepted?_eq_some_iff.2 ⟨own, prepared⟩]

theorem accepted?_absorb (table : Table) (write : Write) :
    (table.absorb write).accepted? = table.accepted? := by
  rw [← accepted?_shape, shape_absorb, accepted?_shape]

theorem Sound.absorb {table : Table} (sound : table.Sound) (write : Write) :
    (table.absorb write).Sound := by
  refine ⟨?_, ?_, ?_, ?_⟩
  · rw [Distinct, columns_absorb]
    exact sound.distinct
  · rw [columns_absorb, Table.absorb]
    split
    · next given _ =>
      intro row mem
      rw [rows_upsertRow] at mem
      split at mem
      · obtain ⟨old, listed, rfl⟩ := List.mem_map.1 mem
        rw [rewrite]
        split
        · exact length_setRow (sound.full old listed)
        · exact sound.full old listed
      · rcases List.mem_append.1 mem with mem | mem
        · exact sound.full row mem
        · simp [List.mem_singleton.1 mem, newRow]
    · exact sound.full
  · rw [columns_absorb, keyed_absorb]
    exact sound.key
  · rw [keyed_absorb, Table.absorb]
    intro key
    split
    · next given _ =>
      rw [rows_upsertRow]
      split
      · simpa [Function.comp_def] using sound.unique key
      · next free =>
        rw [List.map_append, List.nodup_append]
        refine ⟨sound.unique key, List.pairwise_singleton .., ?_⟩
        simpa using free
    · exact sound.unique key

/-- A row that is appended to a table without a key is a full one. -/
theorem Sound.append {table longer : Table} (sound : table.Sound) (plain : table.keyed = false)
    {row : List Cell} (appended : table.append row = .ok longer) :
    longer.Sound ∧ longer.name = table.name ∧ longer.keyed = false := by
  rw [Table.append] at appended
  split at appended
  swap
  · contradiction
  next full =>
  obtain ⟨cells, cast, eq⟩ := Except.bind_eq_ok_iff.1 appended
  cases eq
  have length : cells.length = table.columns.length := by
    have pairs := (Except.mapM_eq_ok_iff.1 cast).length_eq
    simp [full] at pairs
    exact pairs.symm
  refine ⟨⟨sound.distinct, ?_, sound.key, by simp [plain]⟩, rfl, plain⟩
  intro row mem
  rcases List.mem_append.1 mem with mem | mem
  · exact sound.full row mem
  · rw [List.mem_singleton.1 mem, length]

theorem Sound.length_rowAt? {table : Table} (sound : table.Sound) (key : Option Cell) :
    ((table.rowAt? key).getD table.blank).length = table.columns.length := by
  cases held : table.rowAt? key with
  | none => simp [blank]
  | some row => exact sound.full row (List.mem_of_find?_eq_some held)

/-- A row, or a blank one where there is none, has a cell for every column. -/
theorem Sound.exists_cell {table : Table} (sound : table.Sound) (key : Option Cell) {i : Nat}
    {column : TableColumn} (h : table.columns[i]? = some column) :
    ∃ cell, ((table.rowAt? key).getD table.blank)[i]? = some cell := by
  have bound : i < table.columns.length := (List.getElem?_eq_some_iff.1 h).1
  rw [← sound.length_rowAt? key] at bound
  exact ⟨_, List.getElem?_eq_getElem bound⟩

end Table

structure Database.Sound (database : Database) : Prop where
  names : database.tables.Pairwise fun a b => sameName a.name b.name = false
  tables : ∀ table ∈ database.tables, table.Sound

namespace Database

/-- Every table takes in a write that is for it. -/
def absorb (database : Database) (write : Write) : Database :=
  ⟨database.tables.map (·.absorb write)⟩

/-- A write that can be sent and that the table of its name takes. -/
structure Accepts (database : Database) (write : Write) : Prop where
  sendable : Relational.checkSendable (Relational.namesOf write) = .ok ()
  taken : ∃ table ∈ database.tables, (table.accepted? write).isSome

variable {database after : Database}

theorem accepts_absorb (write other : Write) :
    (database.absorb write).Accepts other ↔ database.Accepts other := by
  have taken : (∃ table ∈ (database.absorb write).tables, (table.accepted? other).isSome) ↔
      ∃ table ∈ database.tables, (table.accepted? other).isSome := by
    simp [absorb, Table.accepted?_absorb]
  exact ⟨fun h => ⟨h.sendable, taken.1 h.taken⟩, fun h => ⟨h.sendable, taken.2 h.taken⟩⟩

theorem accepts_foldl_absorb (writes : List Write) (other : Write) :
    (writes.foldl absorb database).Accepts other ↔ database.Accepts other := by
  induction writes generalizing database with
  | nil => rfl
  | cons write rest ih => rw [List.foldl_cons, ih, accepts_absorb]

theorem tables_foldl_absorb (writes : List Write) :
    (writes.foldl absorb database).tables =
      database.tables.map fun table => writes.foldl Table.absorb table := by
  induction writes generalizing database with
  | nil => simp
  | cons write rest ih => simp [ih, absorb]

namespace Sound

theorem empty : Database.empty.Sound :=
  ⟨.nil, nofun⟩

theorem absorb (sound : database.Sound) (write : Write) : (database.absorb write).Sound := by
  refine ⟨?_, fun table mem => ?_⟩
  · simpa [Database.absorb, List.pairwise_map] using sound.names
  · obtain ⟨table, listed, rfl⟩ := List.mem_map.1 mem
    exact (sound.tables table listed).absorb write

/-- Of the tables of a database a write changes only the one that it is for. -/
theorem map_eq_absorb (sound : database.Sound) {write : Write} {table : Table}
    (mem : table ∈ database.tables) (own : sameName table.name write.1 = true) :
    database.tables.map (fun other =>
        if sameName other.name write.1 then table.absorb write else other) =
      (database.absorb write).tables := by
  apply List.map_congr_left
  intro other listed
  by_cases same : sameName other.name write.1
  · rw [if_pos same, eq_of_distinct sound.names listed mem ((sameName_congr own _).trans same)]
  · simp [same, Table.absorb, Table.accepted?]

theorem carryOut_eq_ok_iff (sound : database.Sound) {write : Write} :
    Relational.carryOut database write = .ok after ↔
      database.Accepts write ∧ database.absorb write = after := by
  rw [Relational.carryOut, Except.bind_eq_ok_iff]
  simp only [Relational.refuse_eq_ok_iff]
  constructor
  · rintro ⟨⟨⟩, sendable, written⟩
    obtain ⟨table, mem, own, changed, upserted, rfl⟩ := exists_of_update written
    rw [Table.upsert_eq_map_prepare] at upserted
    obtain ⟨given, prepared, rfl⟩ := Except.map_eq_ok_iff.1 upserted
    have accepted := Table.accepted?_eq_some_iff.2 ⟨own, prepared⟩
    refine ⟨⟨sendable, table, mem, by simp [accepted]⟩, ?_⟩
    rw [← Table.absorb_of_prepare own prepared, sound.map_eq_absorb mem own]
  · rintro ⟨⟨sendable, table, mem, taken⟩, rfl⟩
    obtain ⟨given, accepted⟩ := Option.isSome_iff_exists.1 taken
    obtain ⟨own, prepared⟩ := Table.accepted?_eq_some_iff.1 accepted
    have found : database.find? write.1 = some table := find?_of_distinct sound.names mem own
    refine ⟨(), sendable, ?_⟩
    rw [update, found]
    simp only [Table.upsert_eq_map_prepare, prepared, Except.map, Except.ok_bind,
      ← Table.absorb_of_prepare own prepared, sound.map_eq_absorb mem own]

/-- By induction on the writes: whether a write is acceptable does not depend on those before. -/
theorem foldlM_carryOut_eq_ok_iff (sound : database.Sound) {writes : List Write} :
    writes.foldlM Relational.carryOut database = .ok after ↔
      (∀ write ∈ writes, database.Accepts write) ∧
        writes.foldl Database.absorb database = after := by
  induction writes generalizing database with
  | nil => simp [pure, Except.pure]
  | cons write rest ih =>
    rw [List.foldlM_cons, Except.bind_eq_ok_iff, List.foldl_cons, List.forall_mem_cons]
    constructor
    · rintro ⟨next, first, later⟩
      obtain ⟨accepts, rfl⟩ := sound.carryOut_eq_ok_iff.1 first
      obtain ⟨others, eq⟩ := (ih (sound.absorb write)).1 later
      exact ⟨⟨accepts, fun other mem => (accepts_absorb ..).1 (others other mem)⟩, eq⟩
    · rintro ⟨⟨accepts, others⟩, eq⟩
      exact ⟨database.absorb write, sound.carryOut_eq_ok_iff.2 ⟨accepts, rfl⟩,
        (ih (sound.absorb write)).2
          ⟨fun other mem => (accepts_absorb ..).2 (others other mem), eq⟩⟩

theorem foldl_absorb (sound : database.Sound) (writes : List Write) :
    (writes.foldl Database.absorb database).Sound := by
  induction writes generalizing database with
  | nil => exact sound
  | cons write rest ih => exact ih (sound.absorb write)

theorem create (sound : database.Sound) {table : Table} {new : Bool} (empty : table.rows = [])
    (key : table.keyed = true → table.columns.head? = some ⟨keyColumns.id, .varchar⟩)
    (created : database.create table new = .ok after) : after.Sound := by
  obtain ⟨checked, ⟨-, rfl⟩ | ⟨others, rfl⟩⟩ := create_cases created
  · exact sound
  · constructor
    · rw [List.pairwise_append]
      simpa using ⟨sound.names, others⟩
    · intro other mem
      rcases List.mem_append.1 mem with mem | mem
      · exact sound.tables other mem
      · cases List.mem_singleton.1 mem
        exact ⟨distinct_of_checkTable checked, by simp [empty], key, by simp [empty]⟩

theorem eq_of_create {table : Table} (created : database.create table true = .ok after) :
    ∀ other ∈ after.tables, sameName other.name table.name = true → other = table := by
  obtain ⟨-, ⟨old, -⟩ | ⟨others, rfl⟩⟩ := create_cases created
  · contradiction
  · intro other mem same
    rcases List.mem_append.1 mem with mem | mem
    · rw [others other mem] at same
      contradiction
    · exact List.mem_singleton.1 mem

theorem append (sound : database.Sound) {name : String} {row : List Cell}
    (plain : ∀ table ∈ database.tables, sameName table.name name = true → table.keyed = false)
    (appended : database.update name (·.append row) = .ok after) :
    after.Sound ∧
      ∀ table ∈ after.tables, sameName table.name name = true → table.keyed = false := by
  obtain ⟨table, mem, own, changed, longer, rfl⟩ := exists_of_update appended
  obtain ⟨kept, name_eq, unkeyed⟩ := (sound.tables table mem).append (plain table mem own) longer
  rw [map_ite_sameName sound.names mem own]
  have names (other : Table) :
      (if other = table then changed else other).name = other.name := by
    split
    · next same => rw [same, name_eq]
    · rfl
  refine ⟨⟨?_, ?_⟩, ?_⟩
  · refine List.pairwise_map.2 (sound.names.imp fun different => ?_)
    rw [names, names]
    exact different
  · intro other listed
    obtain ⟨other, before, rfl⟩ := List.mem_map.1 listed
    split
    · exact kept
    · exact sound.tables other before
  · intro other listed
    obtain ⟨other, before, rfl⟩ := List.mem_map.1 listed
    split
    · exact fun _ => unkeyed
    · exact plain other before

end Sound

end Database

namespace Relational

theorem commit_keeps {α : Type} {P : Database → Prop} {value : α}
    {change : Database → Outcome Database} {database : Database} (start : P database)
    (step : ∀ after, change database = .ok after → P after) :
    P (commit value change database).2 := by
  rw [commit]
  split
  · next after changed => exact step after changed
  · exact start

variable (adapter : Relational) {store : Store} (sound : store.database.Sound)

include sound

theorem sound_createTable (model : Model) (bucket : Int64) :
    (adapter.createTable model bucket store).2.database.Sound := by
  simp only [createTable]
  split
  · exact sound
  · next table prepared =>
    obtain ⟨name, -, made⟩ := Except.bind_eq_ok_iff.1 prepared
    obtain ⟨columns, -, eq⟩ := Except.bind_eq_ok_iff.1 (Outcome.ofExcept_eq_ok_iff.1 made)
    cases eq
    apply Store.withConnection_keeps sound
    apply commit_keeps sound
    intro after changed
    obtain ⟨_, -, created⟩ := Except.bind_eq_ok_iff.1 changed
    exact sound.create rfl (fun _ => rfl) (refuse_eq_ok_iff.1 created)

theorem sound_insert (metric : String) (records : List Record) :
    (adapter.insert metric records store).2.database.Sound := by
  rw [insert]
  split
  · exact sound
  · apply Store.withConnection_keeps sound
    apply commit_keeps sound
    intro after written
    obtain ⟨-, rfl⟩ := sound.foldlM_carryOut_eq_ok_iff.1 written
    exact sound.foldl_absorb _

theorem sound_read (request : Request) (bucket : Int64) :
    (adapter.read request bucket store).2.database.Sound := by
  rw [read]
  split
  · exact sound
  · exact Store.withConnection_keeps sound sound

end Relational

/-- By induction on the rows: each is appended to a table without a key. -/
theorem Database.Sound.appendRows {name : String} (rows : List (List Cell)) {database : Database}
    (sound : database.Sound)
    (plain : ∀ table ∈ database.tables, sameName table.name name = true → table.keyed = false) :
    (database.appendRows name rows).2.Sound := by
  induction rows generalizing database with
  | nil => exact sound
  | cons row rest ih =>
    rw [Database.appendRows, Relational.commit]
    cases appended : Relational.refuse (database.update name (·.append row)) with
    | error failure => exact sound
    | ok after =>
      obtain ⟨sound', plain'⟩ := sound.append plain (Relational.refuse_eq_ok_iff.1 appended)
      exact ih sound' plain'

theorem Store.sound_importTable {store : Store} (sound : store.database.Sound) (name : String)
    (columns : List TableColumn) (rows : List (List Cell)) :
    (store.importTable name columns rows).2.database.Sound := by
  apply withConnection_keeps sound
  rw [Database.createPlain, Relational.commit]
  cases made : (do
      Relational.checkSendable (name :: columns.map (·.name))
      Relational.refuse (store.database.create ⟨name, columns, false, []⟩ true) : Outcome _) with
  | error failure => exact sound
  | ok after =>
    obtain ⟨_, -, created⟩ := Except.bind_eq_ok_iff.1 made
    have created := Relational.refuse_eq_ok_iff.1 created
    apply (sound.create rfl (by simp) created).appendRows rows
    intro table mem own
    rw [Database.Sound.eq_of_create created table mem own]

namespace Store

/-- A call on a store: through an adapter, over whatever catalog it has, or for a plain table. -/
inductive Use
  | createTable (adapter : Relational) (model : Model) (bucket : Int64)
  | insert (adapter : Relational) (metric : String) (records : List Record)
  | read (adapter : Relational) (request : Request) (bucket : Int64)
  | importTable (name : String) (columns : List TableColumn) (rows : List (List Cell))
  | exportTable (name : String)

/-- The store after a call, also after one that fails. -/
def Use.run (store : Store) : Use → Store
  | createTable adapter model bucket => (adapter.createTable model bucket store).2
  | insert adapter metric records => (adapter.insert metric records store).2
  | read adapter request bucket => (adapter.read request bucket store).2
  | importTable name columns rows => (store.importTable name columns rows).2
  | exportTable name => (store.exportTable name).2

theorem Use.sound_run {store : Store} (sound : store.database.Sound) (use : Use) :
    (use.run store).database.Sound := by
  cases use with
  | createTable adapter model bucket => exact adapter.sound_createTable sound model bucket
  | insert adapter metric records => exact adapter.sound_insert sound metric records
  | read adapter request bucket => exact adapter.sound_read sound request bucket
  | importTable name columns rows => exact sound_importTable sound name columns rows
  | exportTable name => exact withConnection_keeps sound sound

/-- By induction on the calls, whichever of them fail. -/
theorem sound_foldl_run {store : Store} (sound : store.database.Sound) (uses : List Use) :
    (uses.foldl Use.run store).database.Sound := by
  induction uses generalizing store with
  | nil => exact sound
  | cons use rest ih => exact ih (use.sound_run sound)

/-- Every store that calls can reach from a new one is sound. -/
theorem sound_of_uses (size : Nat) (uses : List Use) :
    (uses.foldl Use.run (.ofSize size)).database.Sound :=
  sound_foldl_run .empty uses

end Store

end Rollup
