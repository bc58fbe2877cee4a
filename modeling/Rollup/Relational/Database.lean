import Rollup.Record.Basic
import Rollup.Relational.IntegerText
import Rollup.Storage.Naming

/-!
Tables in memory. Names of tables and columns are compared without regard to the case of ASCII
letters, values exactly. A keyed table has its first column for a key, and writing a row under a
key that is taken changes the written columns of the row that stands there.
-/
namespace Rollup

def sameName (a b : String) : Bool :=
  Spelling.lower a = Spelling.lower b

inductive Cell
  | null
  | long (value : Int64)
  | text (value : String)
deriving DecidableEq, Repr

def Scalar.toCell : Scalar → Cell
  | long value => .long value
  | text value => .text value

structure TableColumn where
  name : String
  type : Error.ColumnType
deriving DecidableEq, Repr

structure Table where
  name : String
  columns : List TableColumn
  keyed : Bool
  rows : List (List Cell)
deriving DecidableEq, Repr

structure Database where
  tables : List Table
deriving DecidableEq, Repr

namespace Cell

def shown : Cell → String
  | null => "NULL"
  | long value => Numeral.render value.toInt
  | text value => "'" ++ value ++ "'"

def cast (type : Error.ColumnType) : Cell → Except Error.Refusal Cell
  | null => .ok null
  | long value =>
    match type with
    | .bigint => .ok (long value)
    | .varchar => .ok (text (Numeral.render value.toInt))
  | text value =>
    match type with
    | .varchar => .ok (text value)
    | .bigint =>
      match IntegerText.value? value.toList with
      | some value => .ok (long value)
      | none => .error (.badValue (shown (text value)) .bigint)

end Cell

namespace Table

def position? (table : Table) (column : String) : Option Nat :=
  table.columns.findIdx? fun c => sameName c.name column

def givenFor? (given : List (String × Cell)) (column : TableColumn) : Option Cell :=
  (given.find? fun (name, _) => sameName name column.name).map (·.2)

def setRow (table : Table) (given : List (String × Cell)) (row : List Cell) : List Cell :=
  List.zipWith (fun column cell => (givenFor? given column).getD cell) table.columns row

/-- A new row with the given columns set and null in the others. -/
def newRow (table : Table) (given : List (String × Cell)) : List Cell :=
  table.columns.map fun column => (givenFor? given column).getD .null

/-- Sets the row with the key of a row, or puts the row at the end. -/
def upsertRow (table : Table) (given : List (String × Cell)) : Table :=
  let row := table.newRow given
  if table.rows.any (·.head? = row.head?) then
    { table with
      rows := table.rows.map fun old =>
        if old.head? = row.head? then table.setRow given old else old }
  else { table with rows := table.rows ++ [row] }

/-- Checks that each column is named once, none of them emptily. -/
def checkNames : List String → Except Error.Refusal Unit
  | [] => .ok ()
  | name :: rest =>
    if name = "" then .error .namelessColumn
    else if rest.any (sameName name) then .error (.repeatedColumn name)
    else checkNames rest

def castFor (table : Table) (given : String × Cell) : Except Error.Refusal (String × Cell) :=
  match table.columns.find? fun column => sameName column.name given.1 with
  | none => .error (.unknownColumn given.1)
  | some column => (given.2.cast column.type).map fun cell => (given.1, cell)

/-- The bytes of a text as a key of the index: two for a byte 0 or 1, and one to end the key. -/
def keyBytes (key : String) : Nat :=
  key.utf8ByteSize + key.toList.countP (·.toNat ≤ 1) + 1

def greatestKey : Nat := 122880

def checkKey (table : Table) (row : List Cell) : Except Error.Refusal Unit :=
  match row.head? with
  | some (.text key) =>
    if keyBytes key ≤ greatestKey then .ok () else .error (.longKey table.name)
  | _ => .ok ()

/-- Writes the given columns under the key among them. -/
def upsert (table : Table) (given : List (String × Cell)) : Except Error.Refusal Table := do
  checkNames (given.map (·.1))
  let given ← given.mapM table.castFor
  if table.keyed then
    checkKey table (table.newRow given)
    .ok (table.upsertRow given)
  else .error (.unkeyedTable table.name)

/-- Appends a row that has a value for every column. -/
def append (table : Table) (row : List Cell) : Except Error.Refusal Table :=
  if row.length = table.columns.length then do
    let row ← (table.columns.zip row).mapM fun (column, cell) => cell.cast column.type
    .ok { table with rows := table.rows ++ [row] }
  else .error (.badRow table.name)

inductive Test
  /-- A cell with this value, which is of the type of its column. -/
  | equals (position : Nat) (value : Cell)
  /-- A text that stands for this integer. -/
  | standsFor (position : Nat) (value : Int64)
  /-- A value that the type of the column does not have. -/
  | fails (cause : Error.Refusal)
deriving Repr

namespace Test

def cellAt (row : List Cell) (position : Nat) : Cell :=
  row[position]?.getD .null

/-- Whether a row passes a test in which nothing is converted. Null equals nothing. -/
def admits (row : List Cell) : Test → Bool
  | equals position value => cellAt row position ≠ .null && cellAt row position = value
  | _ => true

/-- Whether a row passes a test in which its text is converted. -/
def passes (row : List Cell) : Test → Except Error.Refusal Bool
  | standsFor position value => do
    let cell ← (cellAt row position).cast .bigint
    .ok (cell = .long value)
  | _ => .ok true

/-- Fails where the value of the condition has no conversion. -/
def check : Test → Except Error.Refusal Unit
  | fails cause => .error cause
  | _ => .ok ()

end Test

/-- The test of a condition, which is a column and a value to equal. Between an integer and a text
the text is converted, be it the value or the cell. -/
def test (table : Table) (condition : String × Cell) : Except Error.Refusal Test :=
  match table.position? condition.1 with
  | none => .error (.unknownColumn condition.1)
  | some position =>
    match table.columns[position]?, condition.2 with
    | some ⟨_, .varchar⟩, .long value => .ok (.standsFor position value)
    | some ⟨_, .bigint⟩, .text value =>
      match (Cell.text value).cast .bigint with
      | .ok value => .ok (.equals position value)
      | .error cause => .ok (.fails cause)
    | _, value => .ok (.equals position value)

/-- The rows that meet all conditions. The columns of the conditions are checked first. Then the
rows are compared without a conversion; texts are converted only if a row is left, and the texts of
cells only in the rows that are left. -/
def select (table : Table) (conditions : List (String × Cell)) :
    Except Error.Refusal (List (List Cell)) := do
  let tests ← conditions.mapM table.test
  match table.rows.filter fun row => tests.all (Test.admits row) with
  | [] => .ok []
  | rows => do
    tests.forM Test.check
    rows.filterM fun row => tests.allM (Test.passes row)

end Table

namespace Database

def empty : Database := ⟨[]⟩

/-- Opens a database. Only databases in memory are kept here. -/
def open? (path : String) : Except Error Database :=
  if path = "" ∨ path = ":memory:" then .ok empty else .error (.refused (.cannotOpen path))

def find? (database : Database) (table : String) : Option Table :=
  database.tables.find? fun t => sameName t.name table

/-- Whether a table is listed under exactly this name. -/
def lists (database : Database) (table : String) : Bool :=
  database.tables.any (·.name = table)

def checkTable (table : Table) : Except Error.Refusal Unit :=
  if table.name = "" then .error .namelessTable
  else if table.columns = [] then .error (.noColumns table.name)
  else Table.checkNames (table.columns.map (·.name))

/-- Creates a table unless there is one under its name, which is an error if it has to be new. -/
def create (database : Database) (table : Table) (new : Bool) : Except Error.Refusal Database := do
  checkTable table
  match database.find? table.name with
  | some _ => if new then .error (.tableExists table.name) else .ok database
  | none => .ok ⟨database.tables ++ [table]⟩

def update (database : Database) (table : String)
    (change : Table → Except Error.Refusal Table) : Except Error.Refusal Database :=
  match database.find? table with
  | none => .error (.unknownTable table)
  | some found => do
    let changed ← change found
    .ok ⟨database.tables.map fun t => if sameName t.name table then changed else t⟩

end Database

end Rollup
