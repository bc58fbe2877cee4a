import Rollup.Proofs.Query.Grouping
import Rollup.Proofs.Relational.Integrity
import Mathlib

/-!
Queries do not depend on the order of the rows. Tables are alike if they hold the same rows, in the
same order unless a key tells them apart. Alike tables answer with the same sets under each id, so
databases of alike tables give the same results up to their order (`agree_read`).
-/
namespace Rollup

/-- The same columns and the same rows, whose order is left open where there is a key. -/
structure Table.Alike (table other : Table) : Prop where
  shape : table.shape = other.shape
  rows : table.rows.Perm other.rows
  order : table.keyed = false → table.rows = other.rows

def Database.Alike (database other : Database) : Prop :=
  List.Forall₂ Table.Alike database.tables other.tables

namespace Table

variable {table other : Table}

theorem name_shape (table : Table) : table.shape.name = table.name := rfl

theorem keyed_shape (table : Table) : table.shape.keyed = table.keyed := rfl

theorem test_shape (table : Table) : table.shape.test = table.test := rfl

theorem row_shape (table : Table) : Relational.row table.shape = Relational.row table := rfl

namespace Alike

variable (alike : table.Alike other)

include alike

theorem name : table.name = other.name := by
  rw [← name_shape, alike.shape, name_shape]

theorem eq_of_unkeyed (unkeyed : table.keyed = false) : table = other := by
  have rows := alike.order unkeyed
  have shape := alike.shape
  cases table
  cases other
  simp_all [Table.shape]

theorem select (conditions : List (String × Cell)) :
    Except.Agree List.Perm (table.select conditions) (other.select conditions) := by
  have tests : table.test = other.test := by
    rw [← test_shape, alike.shape, test_shape]
  rw [Table.select, Table.select, tests]
  cases conditions.mapM other.test with
  | error cause => trivial
  | ok tests =>
    have kept := alike.rows.filter fun row => tests.all (Test.admits row)
    simp only [Except.ok_bind]
    split
    · next none =>
      rw [none] at kept
      rw [← kept.nil_eq]
      exact .nil
    · next some =>
      split
      · next none =>
        rw [none] at kept
        exact absurd kept.eq_nil some
      · cases tests.forM Test.check with
        | error cause => trivial
        | ok _ =>
          simp only [Except.ok_bind, Except.filterM_eq_map_mapM]
          exact (Except.Agree.mapM_perm kept _).map fun _ _ _ same => same.filterMap _

end Alike

/-- Rows are selected, not changed. -/
theorem sublist_of_select {conditions : List (String × Cell)} {rows : List (List Cell)}
    (h : table.select conditions = .ok rows) : rows.Sublist table.rows := by
  obtain ⟨tests, -, h⟩ := Except.bind_eq_ok_iff.1 h
  split at h
  · cases h
    exact List.nil_sublist _
  · obtain ⟨_, -, h⟩ := Except.bind_eq_ok_iff.1 h
    exact (Except.sublist_of_filterM h).trans List.filter_sublist

end Table

namespace Relational

variable {context : Context} {metric : String} {table other : Table}

theorem head?_of_decodeRow (key : table.columns.head? = some ⟨keyColumns.id, .varchar⟩)
    {cells : List Cell} {id : String} {set : ValueSet}
    (h : Decoder.decodeRow context metric (row table cells) = .ok (some (id, set))) :
    cells.head? = some (.text id) := by
  obtain ⟨rest, columns⟩ := List.head?_eq_some_iff.1 key
  have position : table.position? keyColumns.id = some 0 := by
    simp [Table.position?, columns, List.findIdx?_cons]
  obtain ⟨found, text, h⟩ := Except.bind_eq_ok_iff.1 h
  simp only [row, position] at text
  split at h
  · cases h
  · split at h
    · cases h
    · obtain ⟨own, -, eq⟩ := Except.bind_eq_ok_iff.1 h
      cases eq
      cases cells with
      | nil => simp at text
      | cons cell rest => cases cell <;> simp_all

/-- By induction on the rows that are decoded: no two have the same id. -/
theorem nodup_of_decodeRow (key : table.columns.head? = some ⟨keyColumns.id, .varchar⟩)
    {rows : List (List Cell)} (unique : (rows.map List.head?).Nodup)
    {found : List (Option (String × ValueSet))}
    (decoded : (rows.mapM fun cells => Decoder.decodeRow context metric (row table cells)) =
      .ok found) : ((found.filterMap id).map (·.1)).Nodup := by
  have heads : (((found.filterMap id).map (·.1)).map fun id => some (Cell.text id)).Sublist
      (rows.map List.head?) := by
    have pairs := Except.mapM_eq_ok_iff.1 decoded
    clear decoded unique
    induction pairs with
    | nil => exact .slnil
    | @cons cells result _ _ here _ ih =>
      cases result with
      | none => exact ih.cons _
      | some entry =>
        have head := head?_of_decodeRow key here
        simpa [head] using ih
  exact (heads.nodup unique).of_map _

def answer (context : Context) (metric : String) (scope : Scope) (bucket : Int64) (table : Table) :
    Except Error (List (String × ValueSet)) :=
  match table.select (conditions scope bucket) with
  | .error cause => .error (.refused cause)
  | .ok rows =>
    (rows.mapM fun cells => Decoder.decodeRow context metric (row table cells)).map
      (·.filterMap id)

/-- Alike tables answer with the same sets under each id. -/
theorem agree_answer (sound : table.Sound) (alike : table.Alike other) (scope : Scope)
    (bucket : Int64) :
    Except.Agree (fun found more => Result.setsOf found = Result.setsOf more)
      (answer context metric scope bucket table) (answer context metric scope bucket other) := by
  by_cases keyed : table.keyed
  · have selected := alike.select (conditions scope bucket)
    have rows : row table = row other := by
      rw [← Table.row_shape, alike.shape, Table.row_shape]
    rw [answer, answer, ← rows]
    cases here : table.select (conditions scope bucket) <;>
      cases there : other.select (conditions scope bucket) <;> rw [here, there] at selected
    · trivial
    · exact selected.elim
    · exact selected.elim
    · next kept more =>
      have unique := ((Table.sublist_of_select here).map List.head?).nodup (sound.unique keyed)
      apply (Except.Agree.mapM_perm selected _).map
      intro found _ decoded same
      exact Result.setsOf_congr (nodup_of_decodeRow (sound.key keyed) unique decoded)
        (same.filterMap id)
  · have same := alike.eq_of_unkeyed (by simpa using keyed)
    subst same
    apply Except.Agree.refl
    intro found
    rfl

end Relational

namespace Database

variable {database other : Database}

theorem Alike.find? (alike : database.Alike other) (name : String) :
    Option.Rel Table.Alike (database.find? name) (other.find? name) := by
  obtain ⟨tables⟩ := database
  obtain ⟨others⟩ := other
  replace alike : List.Forall₂ Table.Alike tables others := alike
  rw [Database.find?, Database.find?]
  induction alike with
  | nil => exact .none
  | cons same _ ih =>
    rw [List.find?_cons, List.find?_cons, ← same.name]
    split
    · exact .some same
    · exact ih

theorem Alike.lists (alike : database.Alike other) (name : String) :
    database.lists name = other.lists name := by
  obtain ⟨tables⟩ := database
  obtain ⟨others⟩ := other
  replace alike : List.Forall₂ Table.Alike tables others := alike
  rw [Database.lists, Database.lists]
  induction alike with
  | nil => rfl
  | cons same _ ih => rw [List.any_cons, List.any_cons, ← same.name, ih]

end Database

namespace Relational

variable {database other : Database} (sound : database.Sound) (alike : database.Alike other)

include sound alike

theorem agree_readTable (context : Context) (scope : Scope) (bucket : Int64)
    (metric name : String) :
    Except.Agree (fun found more => Result.setsOf found = Result.setsOf more)
      (readTable context database scope bucket metric name)
      (readTable context other scope bucket metric name) := by
  rw [readTable, readTable, ← alike.lists name]
  cases here : database.find? name with
  | none =>
    cases there : other.find? name with
    | none => exact (rfl : Result.setsOf [] = Result.setsOf [])
    | some _ =>
      have found := alike.find? name
      rw [here, there] at found
      contradiction
  | some table =>
    cases there : other.find? name with
    | none =>
      have found := alike.find? name
      rw [here, there] at found
      contradiction
    | some changed =>
      obtain ⟨same⟩ : Option.Rel Table.Alike (some table) (some changed) :=
        here ▸ there ▸ alike.find? name
      have own := sound.tables table (List.mem_of_find?_eq_some here)
      simp only
      split
      · exact agree_answer own same scope bucket
      · exact (rfl : Result.setsOf [] = Result.setsOf [])

theorem agree_readTables (context : Context) (request : Request) (bucket : Int64)
    (tables : List String) :
    Except.Agree List.Perm (readTables context database request bucket tables)
      (readTables context other request bucket tables) := by
  apply (Except.Agree.mapM fun place _ =>
    agree_readTable sound alike context request.scope bucket place.1 place.2).bind
  intro found more _ each
  apply Result.collect_perm
  clear * - each
  induction each with
  | nil => rfl
  | cons same _ ih =>
    funext id
    rw [List.flatten_cons, List.flatten_cons, Result.setsOf_append, Result.setsOf_append, same, ih]

end Relational

/-- Queries to stores with alike databases get the same results, up to their order, or both fail. -/
theorem Relational.agree_read (adapter : Relational) {store other : Store}
    (sound : store.database.Sound) (alike : store.database.Alike other.database)
    (free : store.pool.Free ↔ other.pool.Free) (request : Request) (bucket : Int64) :
    Except.Agree List.Perm (adapter.read request bucket store).1
      (adapter.read request bucket other).1 := by
  rw [read, read]
  cases request.names.mapM fun name => adapter.tableName name bucket with
  | error failure => trivial
  | ok tables =>
    by_cases ready : store.pool.Free
    · obtain ⟨_, -, here⟩ := Store.withConnection_eq ready fun database =>
        (Outcome.ofExcept (readTables adapter.context database request bucket tables), database)
      obtain ⟨_, -, there⟩ := Store.withConnection_eq (free.1 ready) fun database =>
        (Outcome.ofExcept (readTables adapter.context database request bucket tables), database)
      simp only [here, there]
      have read := agree_readTables sound alike adapter.context request bucket tables
      revert read
      cases readTables adapter.context store.database request bucket tables <;>
        cases readTables adapter.context other.database request bucket tables <;> exact id
    · simp only [Store.withConnection_of_not_free ready,
        Store.withConnection_of_not_free (mt free.2 ready)]
      trivial

end Rollup
