import Rollup.Bucket.Partition
import Rollup.Relational.Pool

/-!
Metric tables in a relational database. Each metric has a table for each granularity and partition;
the columns of the key keep their names, all others have their physical names. Rows are written by
record id and read one table after another, in the order of the request.
-/
namespace Rollup

structure Relational where
  context : Context
  space : String
deriving DecidableEq, Repr

namespace Relational

def tableName (adapter : Relational) (metric : String) (bucket : Int64) : Outcome String := do
  let granularity ← Bucket.granularity bucket.toInt
  let name ← Partition.physicalName metric granularity bucket.toInt adapter.context.dayStep
  .ok (withNamespace adapter.space name)

def storageColumn (adapter : Relational) (metric column : String) : Except Error String :=
  if isKeyColumn column then .ok column
  else adapter.context.catalog.metadata.physicalName metric column

def columnType (role : Role) (column : String) : Error.ColumnType :=
  match role with
  | .key => if column = keyColumns.bucket then .bigint else .varchar
  | .histogram => .varchar
  | .storageOnly | .value => .bigint

/-- The table of a model: the id as its key, then the columns of the model. -/
def tableOf (adapter : Relational) (model : Model) (name : String) : Except Error Table := do
  let columns ← model.columns.mapM fun column => do
    let storage ← adapter.storageColumn model.name column.name
    .ok (⟨storage, columnType column.role column.name⟩ : TableColumn)
  .ok ⟨name, ⟨keyColumns.id, .varchar⟩ :: columns, true, []⟩

def refuse {α : Type} : Except Error.Refusal α → Outcome α
  | .ok value => .ok value
  | .error cause => .error (.error (.refused cause))

/-- A statement with a zero character in a name cannot be sent. -/
def checkSendable (names : List String) : Outcome Unit :=
  if names.any (·.toList.contains '\x00') then .error (.crash .nulInStatement) else .ok ()

/-- Replaces the database by what a change makes of it, unless the change fails. -/
def commit {α : Type} (value : α) (change : Database → Outcome Database) (database : Database) :
    Outcome α × Database :=
  match change database with
  | .ok database => (.ok value, database)
  | .error failure => (.error failure, database)

/-- Creates the table of a model at a bucket unless it exists, and gives its name. -/
def createTable (adapter : Relational) (model : Model) (bucket : Int64) (store : Store) :
    Outcome String × Store :=
  let prepared : Outcome Table := do
    let name ← adapter.tableName model.name bucket
    adapter.tableOf model name
  match prepared with
  | .error failure => (.error failure, store)
  | .ok table =>
    store.withConnection (commit table.name fun database => do
      checkSendable (table.name :: table.columns.map (·.name))
      refuse (database.create table false))

def align (adapter : Relational) (record : Record) : Outcome Record :=
  match record.setRanks adapter.context.ranks with
  | (aligned, true) => aligned.calculate
  | (_, false) => .ok record

def write (adapter : Relational) (metric : String) (record : Record) :
    Outcome (String × List (String × Cell)) := do
  let table ← adapter.tableName metric record.key.bucket
  let record ← adapter.align record
  let cells ← record.row.mapM fun (column, value) => do
    let storage ← adapter.storageColumn metric column
    .ok (storage, value.toCell)
  .ok (table, cells)

def namesOf (write : String × List (String × Cell)) : List String :=
  write.1 :: write.2.map (·.1)

def carryOut (database : Database) (write : String × List (String × Cell)) : Outcome Database := do
  checkSendable (namesOf write)
  refuse (database.update write.1 (·.upsert write.2))

/-- Writes records of a metric by their ids, all of them or none, and gives their number. -/
def insert (adapter : Relational) (metric : String) (records : List Record) (store : Store) :
    Outcome Nat × Store :=
  match records.mapM (adapter.write metric) with
  | .error failure => (.error failure, store)
  | .ok writes =>
    store.withConnection (commit writes.length (writes.foldlM carryOut))

/-- A row of a table. An integer is also read from a text that is a numeral without blanks. -/
def row (table : Table) (cells : List Cell) : Row where
  long column :=
    match table.position? column with
    | none => .error (.missingColumn column)
    | some position =>
      match cells[position]?.getD .null with
      | .null => .ok none
      | .long value => .ok (some value)
      | .text value => (readText position value).map some
  text column :=
    match table.position? column with
    | none => .error (.missingColumn column)
    | some position =>
      match cells[position]?.getD .null with
      | .null => .ok none
      | .text value => .ok (some value)
      | .long _ => .error (.unexpectedType (storedName position) position .bigint)
where
  storedName (position : Nat) : String :=
    (table.columns[position]?.map (·.name)).getD ""
  readText (position : Nat) (value : String) : Except Error Int64 :=
    match Numeral.signed? value.toList with
    | none => .error (.unexpectedType (storedName position) position .varchar)
    | some n =>
      match Amount.ofInt? n with
      | some value => .ok value
      | none =>
        if -Int.pow 2 127 ≤ n ∧ n < Int.pow 2 127 then
          .error (.refused (.badValue (Numeral.render n) .bigint))
        else .error (.unexpectedType (storedName position) position .varchar)

def conditions (scope : Scope) (bucket : Int64) : List (String × Cell) :=
  (keyColumns.bucket, .long bucket) ::
    (scope.filter?.map fun (field, id) => (field, Cell.text id)).toList

/-- What one table holds for a request; a table that is not listed holds nothing. -/
def readTable (context : Context) (database : Database) (scope : Scope) (bucket : Int64)
    (metric name : String) : Except Error (List (String × ValueSet)) :=
  match database.find? name with
  | none => .ok []
  | some table =>
    if database.lists name then
      match table.select (conditions scope bucket) with
      | .error cause => .error (.refused cause)
      | .ok rows =>
        (rows.mapM fun cells => Decoder.decodeRow context metric (row table cells)).map
          (·.filterMap id)
    else .ok []

def readTables (context : Context) (database : Database) (request : Request) (bucket : Int64)
    (tables : List String) : Except Error (List Result) := do
  let found ← (request.names.zip tables).mapM fun (metric, name) =>
    readTable context database request.scope bucket metric name
  .ok (Result.collect request.scope bucket found.flatten)

def read (adapter : Relational) : Storage Store := fun request bucket store =>
  match request.names.mapM fun name => adapter.tableName name bucket with
  | .error failure => (.error failure, store)
  | .ok tables =>
    store.withConnection fun database =>
      (.ofExcept (readTables adapter.context database request bucket tables), database)

end Relational

end Rollup
