import Rollup.Proofs.Relational.Identifiers

/-!
Rows of a table whose columns all have different names: a new row answers each column with the cell
that was given for it, and a selection by equality keeps the rows whose cells are equal. Values that
are of the type of their column are never converted on the way.
-/
namespace Rollup

theorem Cell.cast_eq_self_iff {cell : Cell} {type : Error.ColumnType} :
    cell.cast type = .ok cell ↔
      cell = .null ∨ (∃ value, cell = .long value) ∧ type = .bigint ∨
        (∃ value, cell = .text value) ∧ type = .varchar := by
  cases cell <;> cases type <;> simp only [cast] <;> try split
  all_goals simp

namespace Table

/-- No two columns have names that differ at most in case. -/
def Distinct (table : Table) : Prop :=
  table.columns.Pairwise fun a b => sameName a.name b.name = false

def cellFor (given : List (String × Cell)) (column : String) : Cell :=
  ((given.find? fun (name, _) => sameName name column).map (·.2)).getD .null

def Typed (table : Table) (named : String × Cell) : Prop :=
  ∃ column ∈ table.columns, column.name = named.1 ∧ named.2.cast column.type = .ok named.2

theorem getElem?_newRow {table : Table} (given : List (String × Cell)) {i : Nat}
    {column : TableColumn} (h : table.columns[i]? = some column) :
    (table.newRow given)[i]? = some (cellFor given column.name) := by
  rw [newRow, List.getElem?_map, h]
  rfl

section Distinct

variable {table : Table} (distinct : table.Distinct)

include distinct

theorem position?_of_mem {column : TableColumn} (mem : column ∈ table.columns) :
    ∃ i, table.position? column.name = some i ∧ table.columns[i]? = some column :=
  findIdx?_of_distinct distinct mem (sameName_refl _)

theorem castFor_eq {named : String × Cell} (typed : table.Typed named) :
    table.castFor named = .ok named := by
  obtain ⟨column, mem, name, cast⟩ := typed
  have found : table.columns.find? (fun column => sameName column.name named.1) = some column :=
    find?_of_distinct distinct mem (name ▸ sameName_refl _)
  rw [castFor, found]
  simp only [cast]
  rfl

theorem upsert_eq {given : List (String × Cell)} (typed : ∀ named ∈ given, table.Typed named)
    {after : Table} (h : table.upsert given = .ok after) : after = table.upsertRow given := by
  have casts : given.mapM table.castFor = .ok given := by
    rw [Except.mapM_eq_ok fun named mem => castFor_eq distinct (typed named mem), List.map_id']
  obtain ⟨_, _, h⟩ := Except.bind_eq_ok_iff.1 h
  rw [casts, Except.ok_bind] at h
  split at h
  · obtain ⟨_, _, h⟩ := Except.bind_eq_ok_iff.1 h
    exact (Except.ok.inj h).symm
  · contradiction

theorem test_eq {named : String × Cell} (typed : table.Typed named) :
    ∃ i column, table.test named = .ok (.equals i named.2) ∧ table.columns[i]? = some column ∧
      column.name = named.1 := by
  obtain ⟨⟨name, type⟩, mem, same, cast⟩ := typed
  obtain ⟨i, found, at_⟩ := position?_of_mem distinct mem
  refine ⟨i, _, ?_, at_, same⟩
  rw [test, ← same, found]
  simp only [at_]
  rcases Cell.cast_eq_self_iff.1 cast with null | ⟨⟨value, long⟩, rfl⟩ | ⟨⟨value, text⟩, rfl⟩
  · rw [null]
    cases type <;> rfl
  · rw [long]
  · rw [text]

/-- Tests of typed conditions compare without a conversion, and a new row passes them as far as
the cells given for it are the values asked for. -/
theorem mapM_test {conditions : List (String × Cell)}
    (typed : ∀ condition ∈ conditions, condition.2 ≠ .null ∧ table.Typed condition) :
    ∃ tests, conditions.mapM table.test = .ok tests ∧
      (∀ test ∈ tests, ∃ i value, test = .equals i value) ∧
      ∀ given, tests.all (Test.admits (table.newRow given)) =
        conditions.all fun condition => cellFor given condition.1 = condition.2 := by
  induction conditions with
  | nil => exact ⟨[], rfl, nofun, fun _ => rfl⟩
  | cons condition rest ih =>
    obtain ⟨set, first⟩ := typed condition List.mem_cons_self
    obtain ⟨i, column, test, at_, name⟩ := test_eq distinct first
    obtain ⟨tests, others, compare, admits⟩ :=
      ih fun other mem => typed other (List.mem_cons_of_mem _ mem)
    refine ⟨.equals i condition.2 :: tests, ?_, ?_, fun given => ?_⟩
    · rw [List.mapM_cons, test, Except.ok_bind, others]
      rfl
    · intro test mem
      rcases List.mem_cons.1 mem with rfl | mem
      · exact ⟨i, _, rfl⟩
      · exact compare test mem
    · have cell : Test.cellAt (table.newRow given) i = cellFor given condition.1 := by
        rw [Test.cellAt, getElem?_newRow given at_, name]
        rfl
      rw [List.all_cons, List.all_cons, admits given]
      congr 1
      rw [Test.admits, cell]
      by_cases equal : cellFor given condition.1 = condition.2
      · simp [equal, set]
      · simp [equal]

/-- Selecting by equality from new rows is selecting from what was given for them. -/
theorem select_eq_filter {conditions : List (String × Cell)}
    (typed : ∀ condition ∈ conditions, condition.2 ≠ .null ∧ table.Typed condition) {α : Type}
    {given : α → List (String × Cell)} {items : List α}
    (rows : table.rows = items.map fun item => table.newRow (given item)) :
    table.select conditions = .ok ((items.filter fun item =>
      conditions.all fun condition => cellFor (given item) condition.1 = condition.2).map
        fun item => table.newRow (given item)) := by
  obtain ⟨tests, found, compare, admits⟩ := mapM_test distinct typed
  have kept : (table.rows.filter fun row => tests.all (Test.admits row)) =
      (items.filter fun item => conditions.all fun condition =>
        cellFor (given item) condition.1 = condition.2).map
          fun item => table.newRow (given item) := by
    rw [rows, List.filter_map]
    congr 1
    exact List.filter_congr fun item _ => admits (given item)
  rw [select, found, Except.ok_bind, kept]
  split
  · next none => rw [none]
  · have check : tests.forM Test.check = .ok () := Except.forM_eq_ok fun test mem => by
      obtain ⟨i, value, rfl⟩ := compare test mem
      rfl
    have passes (row : List Cell) : tests.allM (Test.passes row) = .ok true :=
      Except.allM_eq_ok fun test mem => by
        obtain ⟨i, value, rfl⟩ := compare test mem
        rfl
    rw [check, Except.ok_bind]
    exact Except.filterM_eq_ok fun row _ => passes row

end Distinct

end Table

namespace Relational

open Table

variable {table : Table} (distinct : table.Distinct) {given : List (String × Cell)}
  {column : TableColumn} (mem : column ∈ table.columns)

include distinct mem

theorem row_long {value : Int64} (h : cellFor given column.name = .long value) :
    (row table (table.newRow given)).long column.name = .ok (some value) := by
  obtain ⟨i, found, at_⟩ := position?_of_mem distinct mem
  simp only [row, found, getElem?_newRow given at_, h, Option.getD_some]

theorem row_text {value : String} (h : cellFor given column.name = .text value) :
    (row table (table.newRow given)).text column.name = .ok (some value) := by
  obtain ⟨i, found, at_⟩ := position?_of_mem distinct mem
  simp only [row, found, getElem?_newRow given at_, h, Option.getD_some]

end Relational

end Rollup
