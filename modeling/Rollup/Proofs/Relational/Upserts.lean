import Rollup.Proofs.Relational.Rows

/-!
Rows under repeated writes. Whether a table takes a write depends on its columns alone
(`prepare`), and what the write does to the row of a key depends on that row alone
(`rowAt?_absorb`). So after any list of writes a cell of a row is what the last write of its column
under the key gave (`getElem?_foldl_revise`).
-/
namespace Rollup

/-- The name of a table and the cells that are given for its columns. -/
abbrev Write : Type :=
  String × List (String × Cell)

def latest {α β : Type} (value? : α → Option β) : List α → Option β
  | [] => none
  | item :: rest => (latest value? rest).or (value? item)

theorem latest_append {α β : Type} (value? : α → Option β) (items others : List α) :
    latest value? (items ++ others) = (latest value? others).or (latest value? items) := by
  induction items with
  | nil => simp [latest]
  | cons item rest ih => simp [latest, ih, Option.or_assoc]

theorem latest_eq_none_iff {α β : Type} {value? : α → Option β} {items : List α} :
    latest value? items = none ↔ ∀ item ∈ items, value? item = none := by
  induction items with
  | nil => simp [latest]
  | cons item rest ih => simp [latest, ih, and_comm]

namespace Table

def shape (table : Table) : Table :=
  { table with rows := [] }

def blank (table : Table) : List Cell :=
  table.columns.map fun _ => .null

/-- The cells of a write in the types of their columns, if the table takes the write. -/
def prepare (table : Table) (given : List (String × Cell)) :
    Except Error.Refusal (List (String × Cell)) := do
  checkNames (given.map (·.1))
  let given ← given.mapM table.castFor
  if table.keyed then
    checkKey table (table.newRow given)
    .ok given
  else .error (.unkeyedTable table.name)

theorem upsert_eq_map_prepare (table : Table) (given : List (String × Cell)) :
    table.upsert given = (table.prepare given).map table.upsertRow := by
  rw [upsert, prepare]
  cases checkNames (given.map (·.1)) with
  | error cause => rfl
  | ok _ =>
    cases given.mapM table.castFor with
    | error cause => rfl
    | ok given =>
      simp only [Except.ok_bind]
      split
      · cases checkKey table (table.newRow given) <;> rfl
      · rfl

theorem newRow_eq_setRow_blank (table : Table) (given : List (String × Cell)) :
    table.newRow given = table.setRow given table.blank := by
  rw [newRow, setRow, blank, List.zipWith_map_right, List.zipWith_self]

theorem getElem?_setRow {table : Table} {given : List (String × Cell)} {row : List Cell} {i : Nat}
    {column : TableColumn} {cell : Cell} (h : table.columns[i]? = some column)
    (held : row[i]? = some cell) :
    (table.setRow given row)[i]? = some ((givenFor? given column).getD cell) := by
  rw [setRow, List.getElem?_zipWith, h, held]

theorem length_setRow {table : Table} {given : List (String × Cell)} {row : List Cell}
    (full : row.length = table.columns.length) :
    (table.setRow given row).length = table.columns.length := by
  rw [setRow, List.length_zipWith, full, Nat.min_self]

def rowAt? (table : Table) (key : Option Cell) : Option (List Cell) :=
  table.rows.find? (·.head? = key)

@[simp] theorem shape_upsertRow (table : Table) (given : List (String × Cell)) :
    (table.upsertRow given).shape = table.shape := by
  rw [upsertRow]
  split <;> rfl

@[simp] theorem name_upsertRow (table : Table) (given : List (String × Cell)) :
    (table.upsertRow given).name = table.name := by
  rw [upsertRow]
  split <;> rfl

@[simp] theorem columns_upsertRow (table : Table) (given : List (String × Cell)) :
    (table.upsertRow given).columns = table.columns := by
  rw [upsertRow]
  split <;> rfl

@[simp] theorem keyed_upsertRow (table : Table) (given : List (String × Cell)) :
    (table.upsertRow given).keyed = table.keyed := by
  rw [upsertRow]
  split <;> rfl

theorem head?_setRow {table : Table} {given : List (String × Cell)} {row : List Cell}
    (h : row.head? = (table.newRow given).head?) : (table.setRow given row).head? = row.head? := by
  rw [newRow] at h
  cases columns : table.columns with
  | nil => simp_all [setRow]
  | cons column rest =>
    cases row with
    | nil => simp [columns] at h
    | cons cell cells =>
      simp only [columns, List.map_cons, List.head?_cons, Option.some.injEq] at h
      simp only [setRow, columns, List.zipWith_cons_cons, List.head?_cons, Option.some.injEq]
      cases given : givenFor? given column <;> simp_all

/-- A row after a write under a key: set if it is the row of the key. -/
def rewrite (table : Table) (given : List (String × Cell)) (row : List Cell) : List Cell :=
  if row.head? = (table.newRow given).head? then table.setRow given row else row

@[simp] theorem head?_rewrite (table : Table) (given : List (String × Cell)) (row : List Cell) :
    (table.rewrite given row).head? = row.head? := by
  rw [rewrite]
  split
  · next own => exact head?_setRow own
  · rfl

/-- A write sets the row of its key, and puts it at the end if there is none. -/
theorem rows_upsertRow (table : Table) (given : List (String × Cell)) :
    (table.upsertRow given).rows =
      if table.rows.any (·.head? = (table.newRow given).head?) then
        table.rows.map (table.rewrite given)
      else table.rows ++ [table.newRow given] := by
  rw [upsertRow]
  split <;> rfl

theorem rowAt?_upsertRow (table : Table) (given : List (String × Cell)) (key : Option Cell) :
    (table.upsertRow given).rowAt? key =
      if (table.newRow given).head? = key then
        some (table.setRow given ((table.rowAt? key).getD table.blank))
      else table.rowAt? key := by
  rw [rowAt?, rows_upsertRow]
  by_cases taken : table.rows.any (·.head? = (table.newRow given).head?)
  · have found : (table.rows.map (table.rewrite given)).find? (·.head? = key) =
        (table.rowAt? key).map (table.rewrite given) := by
      rw [List.find?_map, rowAt?]
      congr 2
      funext row
      simp
    rw [if_pos taken, found]
    by_cases own : (table.newRow given).head? = key
    · obtain ⟨row, held⟩ : ∃ row, table.rowAt? key = some row := by
        rw [← Option.isSome_iff_exists, rowAt?, List.find?_isSome]
        simpa [own] using taken
      have key' : row.head? = key := by simpa using List.find?_some held
      simp [held, rewrite, own, key']
    · rw [if_neg own]
      cases held : table.rowAt? key with
      | none => rfl
      | some row =>
        have key' : row.head? = key := by simpa using List.find?_some held
        simp [rewrite, key', Ne.symm own]
  · rw [if_neg taken, List.find?_append, ← rowAt?]
    by_cases own : (table.newRow given).head? = key
    · have free : table.rowAt? key = none := by
        rw [rowAt?, List.find?_eq_none]
        simpa [own] using taken
      simp [free, own, ← newRow_eq_setRow_blank]
    · simp [own]

/-- The cells that a write gives, if it is for this table and the table takes it. -/
def accepted? (table : Table) (write : Write) : Option (List (String × Cell)) :=
  if sameName table.name write.1 then (table.prepare write.2).toOption else none

/-- The table after a write, unless that is for another table or is refused. -/
def absorb (table : Table) (write : Write) : Table :=
  match table.accepted? write with
  | some given => table.upsertRow given
  | none => table

def sets? (table : Table) (key : Option Cell) (write : Write) : Option (List (String × Cell)) :=
  (table.accepted? write).filter fun given => (table.newRow given).head? = key

def revise (table : Table) (key : Option Cell) (row? : Option (List Cell)) (write : Write) :
    Option (List Cell) :=
  match table.sets? key write with
  | some given => some (table.setRow given (row?.getD table.blank))
  | none => row?

@[simp] theorem shape_absorb (table : Table) (write : Write) :
    (table.absorb write).shape = table.shape := by
  rw [absorb]
  split <;> simp

@[simp] theorem name_absorb (table : Table) (write : Write) :
    (table.absorb write).name = table.name := by
  rw [absorb]
  split <;> simp

@[simp] theorem columns_absorb (table : Table) (write : Write) :
    (table.absorb write).columns = table.columns := by
  rw [absorb]
  split <;> simp

@[simp] theorem keyed_absorb (table : Table) (write : Write) :
    (table.absorb write).keyed = table.keyed := by
  rw [absorb]
  split <;> simp

@[simp] theorem shape_foldl_absorb (table : Table) (writes : List Write) :
    (writes.foldl absorb table).shape = table.shape := by
  induction writes generalizing table with
  | nil => rfl
  | cons write rest ih => rw [List.foldl_cons, ih, shape_absorb]

@[simp] theorem name_foldl_absorb (table : Table) (writes : List Write) :
    (writes.foldl absorb table).name = table.name := by
  change (writes.foldl absorb table).shape.name = table.shape.name
  rw [shape_foldl_absorb]

@[simp] theorem columns_foldl_absorb (table : Table) (writes : List Write) :
    (writes.foldl absorb table).columns = table.columns := by
  change (writes.foldl absorb table).shape.columns = table.shape.columns
  rw [shape_foldl_absorb]

theorem foldl_absorb_eq_self {table : Table} {writes : List Write}
    (h : ∀ write ∈ writes, table.accepted? write = none) : writes.foldl absorb table = table := by
  induction writes with
  | nil => rfl
  | cons write rest ih =>
    have first : table.absorb write = table := by rw [absorb, h write List.mem_cons_self]
    rw [List.foldl_cons, first, ih fun other mem => h other (List.mem_cons_of_mem _ mem)]

theorem accepted?_shape (table : Table) : table.shape.accepted? = table.accepted? := rfl

theorem revise_shape (table : Table) (key : Option Cell) :
    table.shape.revise key = table.revise key := rfl

theorem rowAt?_absorb (table : Table) (write : Write) (key : Option Cell) :
    (table.absorb write).rowAt? key = table.revise key (table.rowAt? key) write := by
  rw [absorb, revise, sets?]
  cases table.accepted? write with
  | none => rfl
  | some given =>
    simp only [rowAt?_upsertRow, Option.filter_some]
    by_cases own : (table.newRow given).head? = key <;> simp [own]

theorem rowAt?_foldl_absorb (table : Table) (writes : List Write) (key : Option Cell) :
    (writes.foldl absorb table).rowAt? key =
      writes.foldl (table.revise key) (table.rowAt? key) := by
  induction writes generalizing table with
  | nil => rfl
  | cons write rest ih =>
    have kept : (table.absorb write).revise key = table.revise key := by
      rw [← revise_shape, shape_absorb, revise_shape]
    rw [List.foldl_cons, ih, kept, rowAt?_absorb, List.foldl_cons]

theorem isSome_foldl_revise (table : Table) (key : Option Cell) (row? : Option (List Cell))
    (writes : List Write) :
    (writes.foldl (table.revise key) row?).isSome =
      (row?.isSome || (latest (table.sets? key) writes).isSome) := by
  induction writes generalizing row? with
  | nil => simp [latest]
  | cons write rest ih =>
    rw [List.foldl_cons, ih, latest, revise]
    cases table.sets? key write <;> simp

/-- By induction on the writes: each cell of a row is what the last of them gave for its column. -/
theorem getElem?_foldl_revise {table : Table} {i : Nat} {column : TableColumn}
    (h : table.columns[i]? = some column) (key : Option Cell) {row? : Option (List Cell)}
    {cell : Cell} (held : (row?.getD table.blank)[i]? = some cell) (writes : List Write) :
    ((writes.foldl (table.revise key) row?).getD table.blank)[i]? =
      some ((latest (fun write => (table.sets? key write).bind (givenFor? · column)) writes).getD
        cell) := by
  induction writes generalizing row? cell with
  | nil => exact held
  | cons write rest ih =>
    rw [List.foldl_cons, latest]
    cases given : table.sets? key write with
    | none =>
      have same : table.revise key row? write = row? := by rw [revise, given]
      rw [same, ih held]
      simp
    | some given' =>
      have set : table.revise key row? write =
          some (table.setRow given' (row?.getD table.blank)) := by rw [revise, given]
      have own : ((some (table.setRow given' (row?.getD table.blank))).getD table.blank)[i]? =
          some ((givenFor? given' column).getD cell) := getElem?_setRow h held
      rw [set, ih own]
      cases latest _ rest <;> simp

end Table

end Rollup
