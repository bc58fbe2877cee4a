import Rollup.Relational.Adapter

/-!
Whole tables, put into a database and taken out of it without a model. Such a table has no key. Its
rows come out in the order of their first cells.
-/
namespace Rollup

namespace Cell

/-- The order of cells: integers by value, then texts by their bytes, null last. -/
def before : Cell → Cell → Bool
  | _, null => true
  | null, _ => false
  | long a, long b => a ≤ b
  | text a, text b => a ≤ b
  | long _, text _ => true
  | text _, long _ => false

end Cell

namespace Table

def firstCell (row : List Cell) : Cell :=
  row.head?.getD .null

def sortedRows (table : Table) : List (List Cell) :=
  table.rows.mergeSort fun a b => (firstCell a).before (firstCell b)

end Table

namespace Database

/-- Creates a table without a key, which must not exist yet. -/
def createPlain (name : String) (columns : List TableColumn) (database : Database) :
    Outcome Unit × Database :=
  Relational.commit () (fun database => do
    Relational.checkSendable (name :: columns.map (·.name))
    Relational.refuse (database.create ⟨name, columns, false, []⟩ true)) database

/-- Appends rows to a table one after another. The rows before one that fails stay. -/
def appendRows (name : String) : List (List Cell) → Database → Outcome Unit × Database
  | [], database => (.ok (), database)
  | row :: rows, database =>
    match Relational.commit () (fun database =>
      Relational.refuse (database.update name (·.append row))) database with
    | (.ok (), database) => appendRows name rows database
    | failed => failed

def table (name : String) (database : Database) : Outcome Table := do
  Relational.checkSendable [name]
  match database.find? name with
  | some table => .ok table
  | none => .error (.error (.refused (.unknownTable name)))

end Database

namespace Store

def importTable (name : String) (columns : List TableColumn) (rows : List (List Cell))
    (store : Store) : Outcome Unit × Store :=
  store.withConnection fun database =>
    match database.createPlain name columns with
    | (.ok (), database) => database.appendRows name rows
    | failed => failed

def exportTable (name : String) (store : Store) : Outcome Table × Store :=
  store.withConnection fun database => (database.table name, database)

end Store

end Rollup
