import Rollup.Storage.Naming

/-!
Queries over a time-series database. A command holds one statement for each requested metric, each
ended by a semicolon; names and ids stand in it as quoted tokens. The name of a returned series
tells its metric, and the `id` column of a row is the record id.
-/
namespace Rollup

namespace TimeSeries

def escape (c : Char) (text : List Char) : List Char :=
  text.flatMap fun d => if d = c then ['\\', d] else [d]

/-- A text between quotes of one kind. First its backslashes are escaped, then its quotes of that
kind. -/
def quote (mark : Char) (text : String) : List Char :=
  mark :: escape mark (escape '\\' text.toList) ++ [mark]

def identifier (name : String) : List Char :=
  quote '"' name

def literal (value : String) : List Char :=
  quote '\x27' value

/-- The statement for one measurement, without the semicolon. -/
def statement (database measurement : String) (scope : Scope) (bucket : Int64) : List Char :=
  "SELECT * FROM ".toList ++ identifier database ++ "..".toList ++ identifier measurement ++
    " WHERE ".toList ++ identifier keyColumns.bucket ++ " = ".toList ++
    Numeral.write bucket.toInt ++
    match scope.filter? with
    | some (field, id) => " AND ".toList ++ identifier field ++ " = ".toList ++ literal id
    | none => []

def command (database : String) (measurements : List String) (scope : Scope) (bucket : Int64) :
    String :=
  String.ofList (measurements.flatMap fun measurement =>
    statement database measurement scope bucket ++ [';'])

structure Series where
  name : String
  columns : List String
  rows : List (List Json)
deriving Repr

structure StatementResult where
  series : List Series
  error : Option String
deriving Repr

namespace Series

def ofJson (json : Json) : Except Error Series := do
  let fields ← json.readFields ["name", "columns", "values"]
  let name ← fields.required "name" Json.readString
  let columns ← fields.required "columns" (Json.readList Json.readString)
  let rows ← fields.withDefault "values" [] (Json.readList (Json.readList .ok))
  .ok ⟨name, columns, rows⟩

end Series

namespace StatementResult

def ofJson (json : Json) : Except Error StatementResult := do
  let fields ← json.readFields ["series", "error"]
  let series ← fields.withDefault "series" [] (Json.readList Series.ofJson)
  let error ← fields.optional "error" Json.readString
  .ok ⟨series, error⟩

end StatementResult

structure Client where
  format : String → String
  query : String → Except Error (List StatementResult)

structure Adapter where
  client : Client
  context : Context
  database : String

def readSeries (context : Context) (metric? : String → Option String) (series : Series) :
    Except Error (List (String × ValueSet)) :=
  match metric? series.name with
  | none => .error (.unrequestedMeasurement series.name)
  | some metric => do
    let found ← series.rows.mapM fun values =>
      Decoder.decodeRow context metric (.ofColumns series.columns values)
    .ok (found.filterMap id)

/-- What the series of a statement hold, unless the statement failed. -/
def readResult (context : Context) (metric? : String → Option String) (result : StatementResult) :
    Except Error (List (String × ValueSet)) :=
  match result.error with
  | some report => .error (.reported .backend report)
  | none => (result.series.mapM (readSeries context metric?)).map List.flatten

namespace Adapter

/-- The metric behind the name of a measurement; of several the last one requested. -/
def metric? (adapter : Adapter) (names : List String) (measurement : String) : Option String :=
  (names.map fun name => (adapter.client.format name, name)).reverse.lookup measurement

def readResults (adapter : Adapter) (request : Request) (bucket : Int64)
    (results : List StatementResult) : Except Error (List Result) := do
  let found ← results.mapM (readResult adapter.context (adapter.metric? request.names))
  .ok (Result.collect request.scope bucket found.flatten)

/-- The adapter as a storage whose state is the list of commands so far, the latest first. -/
def read (adapter : Adapter) : Storage (List String) := fun request bucket sent =>
  let measurements := request.names.map adapter.client.format
  let text := command adapter.database measurements request.scope bucket
  let outcome := do
    let results ← adapter.client.query text
    adapter.readResults request bucket results
  (.ofExcept outcome, text :: sent)

end Adapter

end TimeSeries

end Rollup
