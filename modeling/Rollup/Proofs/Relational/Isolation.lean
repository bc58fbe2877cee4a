import Rollup.Proofs.Relational.Transactions

/-!
Metrics in one database. A call on a metric reaches only tables that go by the name of a table of
the metric, and a query reads a table only if it is listed under exactly the name asked for. Main
statement: `metrics_are_isolated`, calls on other metrics change no answer, unless the names differ
in the case of letters alone and the table that is read was there before (`metrics_share_tables`).
-/
namespace Rollup

namespace Database

variable {database after other third : Database} {name written : String}

def under (database : Database) (name : String) : List Table :=
  database.tables.filter fun table => sameName table.name name

theorem find?_eq_head?_under (database : Database) (name : String) :
    database.find? name = (database.under name).head? :=
  List.head?_filter.symm

theorem lists_eq_any_under (database : Database) (name : String) :
    database.lists name = (database.under name).any (·.name = name) := by
  rw [lists, under, List.any_filter]
  congr 1
  funext table
  by_cases own : table.name = name
  · simp [own]
  · simp [own]

/-- The same tables go by a name, or none is listed under it. -/
def AgreeOn (name : String) (database other : Database) : Prop :=
  database.under name = other.under name ∨ database.lists name = false ∧ other.lists name = false

namespace AgreeOn

theorem refl (name : String) (database : Database) : AgreeOn name database database :=
  .inl rfl

theorem lists_eq (agree : AgreeOn name database other) :
    database.lists name = other.lists name := by
  rcases agree with same | ⟨none, nothing⟩
  · rw [lists_eq_any_under, lists_eq_any_under, same]
  · rw [none, nothing]

theorem trans (first : AgreeOn name database other) (second : AgreeOn name other third) :
    AgreeOn name database third := by
  cases listed : third.lists name with
  | false => exact .inr ⟨by rw [first.lists_eq, second.lists_eq, listed], listed⟩
  | true =>
    have here := second.lists_eq.trans listed
    rcases first with same | ⟨-, none⟩
    · rcases second with same' | ⟨-, none⟩
      · exact .inl (same.trans same')
      · simp [listed] at none
    · simp [here] at none

end AgreeOn

/-- Changing the table that goes by one name cannot be seen under another name. -/
structure Spares (database : Database) (written name : String) : Prop where
  other : written ≠ name
  unlisted : sameName written name = true → database.lists name = false

theorem Spares.of_agreeOn (spares : database.Spares written name)
    (agree : AgreeOn name after database) : after.Spares written name :=
  ⟨spares.other, fun same => agree.lists_eq.trans (spares.unlisted same)⟩

theorem agreeOn_create {table : Table} {new : Bool}
    (created : database.create table new = .ok after) (spares : database.Spares table.name name) :
    AgreeOn name after database := by
  obtain ⟨-, ⟨-, rfl⟩ | ⟨-, rfl⟩⟩ := create_cases created
  · exact .refl name _
  · by_cases same : sameName table.name name = true
    · have unlisted := spares.unlisted same
      refine .inr ⟨?_, unlisted⟩
      rw [lists] at unlisted ⊢
      simp [unlisted, spares.other]
    · exact .inl (by simp [under, same])

theorem tables_of_update {cells : List (String × Cell)}
    (changed : database.update written (·.upsert cells) = .ok after) :
    ∃ found ∈ database.tables, sameName found.name written = true ∧
      ∃ given, after.tables = database.tables.map fun table =>
        if sameName table.name written then found.upsertRow given else table := by
  obtain ⟨found, mem, own, _, upserted, rfl⟩ := exists_of_update changed
  rw [Table.upsert_eq_map_prepare] at upserted
  obtain ⟨given, -, rfl⟩ := Except.map_eq_ok_iff.1 upserted
  exact ⟨found, mem, own, given, rfl⟩

theorem agreeOn_carryOut {write : Write} (carried : Relational.carryOut database write = .ok after)
    (spares : database.Spares write.1 name) : AgreeOn name after database := by
  obtain ⟨_, -, changed⟩ := Except.bind_eq_ok_iff.1 carried
  obtain ⟨found, held, own, given, tables⟩ :=
    tables_of_update (Relational.refuse_eq_ok_iff.1 changed)
  by_cases same : sameName write.1 name = true
  · -- names that are there afterwards were there before
    have unlisted := spares.unlisted same
    refine .inr ⟨?_, unlisted⟩
    rw [lists, List.any_eq_false] at unlisted ⊢
    rw [tables]
    intro table listed
    obtain ⟨old, before, rfl⟩ := List.mem_map.1 listed
    split
    · rw [Table.name_upsertRow]
      exact unlisted found held
    · exact unlisted old before
  · left
    have apart {table : Table} (reached : sameName table.name write.1 = true) :
        sameName table.name name = false := by
      rw [sameName, sameName_iff.1 reached]
      exact Bool.eq_false_iff.2 same
    rw [under, tables, List.filter_map]
    have names : (fun table : Table => sameName table.name name) ∘ (fun table =>
        if sameName table.name write.1 then found.upsertRow given else table) =
          fun table => sameName table.name name := by
      funext table
      simp only [Function.comp_apply]
      split
      · next reached => rw [Table.name_upsertRow, apart own, apart reached]
      · rfl
    rw [names]
    refine (List.map_congr_left fun table kept => ?_).trans (List.map_id _)
    have asked := (List.mem_filter.1 kept).2
    refine if_neg fun reached => ?_
    rw [apart reached] at asked
    contradiction

theorem agreeOn_foldlM_carryOut {writes : List Write}
    (carried : writes.foldlM Relational.carryOut database = .ok after)
    (spares : ∀ write ∈ writes, database.Spares write.1 name) : AgreeOn name after database := by
  induction writes generalizing database with
  | nil =>
    cases carried
    exact .refl name _
  | cons write rest ih =>
    rw [List.forall_mem_cons] at spares
    rw [List.foldlM_cons] at carried
    obtain ⟨next, first, later⟩ := Except.bind_eq_ok_iff.1 carried
    have here := agreeOn_carryOut first spares.1
    exact (ih later fun other mem => (spares.2 other mem).of_agreeOn here).trans here

end Database

/-- Stores that agree on some names, and both hand out a connection or both do not. -/
structure Store.AgreeOn (names : String → Prop) (store other : Store) : Prop where
  tables : ∀ name, names name → Database.AgreeOn name store.database other.database
  free : store.pool.Free ↔ other.pool.Free

namespace Store.AgreeOn

variable {names : String → Prop} {store other third : Store}

theorem refl (names : String → Prop) (store : Store) : AgreeOn names store store :=
  ⟨fun name _ => .refl name _, Iff.rfl⟩

theorem trans (first : AgreeOn names store other) (second : AgreeOn names other third) :
    AgreeOn names store third :=
  ⟨fun name asked => (first.tables name asked).trans (second.tables name asked),
    first.free.trans second.free⟩

theorem withConnection {α : Type} {action : Database → Outcome α × Database}
    (agree : ∀ name, names name →
      Database.AgreeOn name (action store.database).2 store.database) :
    AgreeOn names (store.withConnection action).2 store := by
  by_cases free : store.pool.Free
  · obtain ⟨pool, still, ran⟩ := Store.withConnection_eq free action
    rw [ran]
    exact ⟨agree, iff_of_true still free⟩
  · rw [Store.withConnection_of_not_free free]
    exact refl names store

end Store.AgreeOn

namespace Relational

variable {adapter : Relational} {names : String → Prop} {request : Request} {bucket : Int64}

namespace Call

/-- The store after a call, also after one that fails. -/
def attempt (adapter : Relational) (store : Store) : Call → Store
  | createTable model bucket => (adapter.createTable model bucket store).2
  | insert metric records => (adapter.insert metric records store).2

/-- The metric whose tables a call is for. -/
def metric : Call → String
  | createTable model _ => model.name
  | insert metric _ => metric

/-- No table of the metric of a call is seen under the names. -/
def Spares (adapter : Relational) (names : String → Prop) (database : Database) (call : Call) :
    Prop :=
  ∀ bucket table, adapter.tableName call.metric bucket = .ok table →
    ∀ name, names name → database.Spares table name

theorem agreeOn_attempt {call : Call} {store : Store}
    (spares : call.Spares adapter names store.database) :
    Store.AgreeOn names (call.attempt adapter store) store := by
  cases call with
  | createTable model bucket =>
    simp only [attempt, Relational.createTable]
    split
    · exact .refl names store
    next table prepared =>
    obtain ⟨name, named, made⟩ := Except.bind_eq_ok_iff.1 prepared
    obtain ⟨columns, -, eq⟩ := Except.bind_eq_ok_iff.1 (Outcome.ofExcept_eq_ok_iff.1 made)
    cases eq
    apply Store.AgreeOn.withConnection
    intro asked isAsked
    apply commit_keeps (P := (Database.AgreeOn asked · store.database)) (.refl asked _)
    intro after changed
    obtain ⟨_, -, created⟩ := Except.bind_eq_ok_iff.1 changed
    exact Database.agreeOn_create (refuse_eq_ok_iff.1 created) (spares bucket name named _ isAsked)
  | insert metric records =>
    simp only [attempt, Relational.insert]
    split
    · exact .refl names store
    next writes prepared =>
    apply Store.AgreeOn.withConnection
    intro asked isAsked
    apply commit_keeps (P := (Database.AgreeOn asked · store.database)) (.refl asked _)
    intro after carried
    apply Database.agreeOn_foldlM_carryOut carried
    intro write mem
    obtain ⟨record, -, made⟩ := (Except.mem_of_mapM_eq_ok prepared).2 write mem
    exact spares _ _ (write_eq_ok made).1 _ isAsked

/-- By induction on the calls: what the first one cannot be seen by stays so for the others. -/
theorem agreeOn_attempts {calls : List Call} {store : Store}
    (spares : ∀ call ∈ calls, call.Spares adapter names store.database) :
    Store.AgreeOn names (calls.foldl (attempt adapter) store) store := by
  induction calls generalizing store with
  | nil => exact .refl names store
  | cons call rest ih =>
    rw [List.forall_mem_cons] at spares
    have here := agreeOn_attempt spares.1
    refine (ih fun other mem at_ table named name asked => ?_).trans here
    exact (spares.2 other mem at_ table named name asked).of_agreeOn (here.tables name asked)

end Call

theorem readTable_congr {database other : Database} {name : String}
    (agree : Database.AgreeOn name database other) (context : Context) (scope : Scope)
    (bucket : Int64) (metric : String) :
    readTable context database scope bucket metric name =
      readTable context other scope bucket metric name := by
  have unlisted {database : Database} (none : database.lists name = false) :
      readTable context database scope bucket metric name = .ok [] := by
    rw [readTable]
    split
    · rfl
    · rw [none, if_neg (by decide)]
  rcases agree with same | ⟨none, nothing⟩
  · rw [readTable, readTable, Database.find?_eq_head?_under, Database.find?_eq_head?_under,
      Database.lists_eq_any_under, Database.lists_eq_any_under, same]
  · rw [unlisted none, unlisted nothing]

def Asks (adapter : Relational) (request : Request) (bucket : Int64) (name : String) : Prop :=
  ∃ metric ∈ request.names, adapter.tableName metric bucket = .ok name

theorem read_congr {store other : Store}
    (agree : Store.AgreeOn (adapter.Asks request bucket) store other) :
    (adapter.read request bucket store).1 = (adapter.read request bucket other).1 := by
  rw [read, read]
  split
  · rfl
  next tables named =>
  have same : readTables adapter.context store.database request bucket tables =
      readTables adapter.context other.database request bucket tables := by
    have each := Except.mapM_congr (List.forall₂_same.2 fun place
        (mem : place ∈ request.names.zip tables) =>
      have asked := (Except.mem_of_mapM_eq_ok named).2 place.2 (List.of_mem_zip mem).2
      readTable_congr (agree.tables place.2 asked) adapter.context request.scope bucket place.1)
    rw [readTables, readTables]
    exact congrArg (· >>= fun found => .ok (Result.collect request.scope bucket found.flatten)) each
  by_cases free : store.pool.Free
  · obtain ⟨_, -, here⟩ := Store.withConnection_eq free fun database =>
      (Outcome.ofExcept (readTables adapter.context database request bucket tables), database)
    obtain ⟨_, -, there⟩ := Store.withConnection_eq (agree.free.1 free) fun database =>
      (Outcome.ofExcept (readTables adapter.context database request bucket tables), database)
    rw [here, there, same]
  · rw [Store.withConnection_of_not_free free,
      Store.withConnection_of_not_free (mt agree.free.2 free)]

/-- Whatever the store, calls on other metrics leave the answer of a query as it is, be they carried
out or not. Where the name of such a metric differs from one asked for in the case of letters alone,
the table to be read must not be there before. -/
theorem metrics_are_isolated (adapter : Relational) {store : Store} {calls : List Call}
    (others : ∀ call ∈ calls, call.metric ∉ request.names)
    (apart : ∀ call ∈ calls, ∀ metric ∈ request.names, sameName call.metric metric = true →
      ∀ name, adapter.tableName metric bucket = .ok name → store.database.lists name = false) :
    (adapter.read request bucket (calls.foldl (Call.attempt adapter) store)).1 =
      (adapter.read request bucket store).1 := by
  apply read_congr
  apply Call.agreeOn_attempts
  rintro call mem at_ table named name ⟨metric, asked, own⟩
  refine ⟨?_, fun same => ?_⟩
  · rintro rfl
    exact others call mem (metric_eq_of_tableName named own ▸ asked)
  · exact apart call mem metric asked (sameName_of_tableName named own same).1 name own

/-- Two sums whose names differ in a letter. -/
theorem metrics_are_isolated_sums :
    let catalog : Catalog := ⟨⟨[.ofKind "m" .sum, .ofKind "n" .sum]⟩,
      ((Metadata.empty none).add (.ofKind "m" .sum)).add (.ofKind "n" .sum)⟩
    let adapter : Relational := ⟨.ofCatalog catalog, ""⟩
    let record : Record := ⟨⟨"a", none, 20240101⟩, .sum 7⟩
    let own : Call := .createTable (.ofKind "m" .sum) 20240101
    let calls := [Call.createTable (.ofKind "n" .sum) 20240101, .insert "n" [record]]
    let store := own.attempt adapter (.ofSize 1)
    (adapter.read ⟨["n"], .unrestricted⟩ 20240101 (calls.foldl (Call.attempt adapter) store)).1 =
        .ok [⟨"20240101_a", "", "20240101", [⟨"n", [⟨"value", 7⟩]⟩]⟩] ∧
      (adapter.read ⟨["m"], .unrestricted⟩ 20240101 (calls.foldl (Call.attempt adapter) store)).1 =
        (adapter.read ⟨["m"], .unrestricted⟩ 20240101 store).1 := by
  intro catalog adapter record own calls store
  have names : ∀ call ∈ calls, call.metric = "n" := by
    simp [calls, Call.metric, Model.ofKind]
  refine ⟨by decide +kernel, metrics_are_isolated adapter (fun call mem => ?_)
    fun call mem metric asked same => ?_⟩
  · rw [names call mem]
    decide
  · rw [names call mem, List.mem_singleton.1 asked] at same
    contradiction

/-- Two registered sums whose names differ in case alone. Before the calls on one of them the other
one is found to hold nothing. Its table is there already when that of the first one is to be
created, so the record of the first one is written to it and read back as one of the second. -/
theorem metrics_share_tables :
    let catalog : Catalog := ⟨⟨[.ofKind "m" .sum, .ofKind "M" .sum]⟩,
      ((Metadata.empty none).add (.ofKind "m" .sum)).add (.ofKind "M" .sum)⟩
    let adapter : Relational := ⟨.ofCatalog catalog, ""⟩
    let record : Record := ⟨⟨"a", none, 20240101⟩, .sum 7⟩
    let own : Call := .createTable (.ofKind "m" .sum) 20240101
    let calls := [Call.createTable (.ofKind "M" .sum) 20240101, .insert "M" [record]]
    let store := own.attempt adapter (.ofSize 1)
    catalog.knows "m" = true ∧ catalog.knows "M" = true ∧ (∀ call ∈ calls, call.metric = "M") ∧
      (adapter.read ⟨["m"], .unrestricted⟩ 20240101 store).1 = .ok [] ∧
      (adapter.read ⟨["m"], .unrestricted⟩ 20240101
        (calls.foldl (Call.attempt adapter) store)).1 =
          .ok [⟨"20240101_a", "", "20240101", [⟨"m", [⟨"value", 7⟩]⟩]⟩] := by
  intro catalog adapter record own calls store
  refine ⟨by decide, by decide, ?_, by decide +kernel, by decide +kernel⟩
  simp [calls, Call.metric, Model.ofKind]

end Relational

end Rollup
