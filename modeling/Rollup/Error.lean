import Rollup.Histogram.Codec
import Rollup.Kind

/-!
What can go wrong, by cause. Every error belongs to one of ten categories; the category gives the
opening words of its message and the status under which a remote caller sees it.
-/
namespace Rollup

namespace Error

inductive Category
  | notFound
  | kindMismatch
  | decode
  | backend
  | registration
  | timeBucket
  | state
  | settings
  | io
  | serialization
deriving DecidableEq, Repr

inductive ColumnType
  | bigint
  | varchar
deriving DecidableEq, Repr

/-- Statements that the relational engine refuses. -/
inductive Refusal
  | unknownTable (table : String)
  | tableExists (table : String)
  | unknownColumn (column : String)
  | repeatedColumn (column : String)
  | namelessTable
  | namelessColumn
  | noColumns (table : String)
  | unkeyedTable (table : String)
  | badValue (shown : String) (target : ColumnType)
  | badRow (table : String)
  | longKey (table : String)
  | cannotOpen (path : String)
deriving DecidableEq, Repr

end Error

/-- An error, by its cause. `reported` is for words that come from a client or a caller. -/
inductive Error
  | unknownMetric (name : String)
  | noTable (metric : String)
  | undefinedColumn (column metric : String)
  | noValueColumn (metric : String)
  | kindMismatch (expected found : Kind)
  | histogram (fault : Histogram.Fault)
  | missingColumn (column : String)
  | notAnInteger (column shown : String)
  | unexpectedType (column : String) (position : Nat) (found : Error.ColumnType)
  | unrequestedIndex (index : String)
  | unrequestedMeasurement (name : String)
  | refused (cause : Error.Refusal)
  | conflictingKind (metric : String) (registered offered : Kind)
  | timeBucket (bucket : Int)
  | zeroCount (record : String)
  | averageOutOfRange (record : String)
  | zeroTotal (record : String)
  | percentageOutOfRange (record : String)
  | abstractKind
  | zeroDayStep
  | zeroPoolSize
  | noRanks
  | unsupportedEngine (name : String)
  | noSearchClient
  | noTimeSeriesClient
  | badSettings (detail : String)
  | malformed (expected : String)
  | reported (category : Error.Category) (text : String)
deriving DecidableEq, Repr

namespace Error

def ColumnType.sqlName : ColumnType → String
  | bigint => "BIGINT"
  | varchar => "VARCHAR"

/-- The name of a column's type in messages about a value found there. -/
def ColumnType.shownName : ColumnType → String
  | bigint => "BigInt"
  | varchar => "Text"

namespace Refusal

def text : Refusal → String
  | unknownTable table => s!"table {table} does not exist"
  | tableExists table => s!"table {table} already exists"
  | unknownColumn column => s!"column {column} does not exist"
  | repeatedColumn column => s!"column {column} is named twice"
  | namelessTable => "a table has an empty name"
  | namelessColumn => "a column has an empty name"
  | noColumns table => s!"table {table} has no columns"
  | unkeyedTable table => s!"table {table} has no primary key"
  | badValue shown target => s!"cannot store {shown} as {target.sqlName}"
  | badRow table => s!"a row does not fit the columns of {table}"
  | longKey table => s!"a key is too long for table {table}"
  | cannotOpen path => s!"cannot open {path}"

end Refusal

def category : Error → Category
  | unknownMetric _ | noTable _ | undefinedColumn _ _ | noValueColumn _ => .notFound
  | kindMismatch _ _ => .kindMismatch
  | histogram _ | missingColumn _ | notAnInteger _ _ | unexpectedType _ _ _ => .decode
  | unrequestedIndex _ | unrequestedMeasurement _ => .decode
  | refused _ => .backend
  | conflictingKind _ _ _ => .registration
  | timeBucket _ => .timeBucket
  | zeroCount _ | averageOutOfRange _ | zeroTotal _ | percentageOutOfRange _ => .state
  | abstractKind => .state
  | zeroDayStep | zeroPoolSize | noRanks | unsupportedEngine _ => .settings
  | noSearchClient | noTimeSeriesClient | badSettings _ => .settings
  | malformed _ => .serialization
  | reported category _ => category

/-- The words of an error after the opening words of its category. -/
def text : Error → String
  | unknownMetric name => s!"Can't find metrics, {name}"
  | noTable metric => s!"no table metadata for {metric}"
  | undefinedColumn column metric => s!"column {column} is not defined for {metric}"
  | noValueColumn metric => s!"{metric} declares no value column"
  | kindMismatch expected found => s!"cannot combine {expected.name} with {found.name}"
  | histogram fault => fault.text
  | missingColumn column => s!"column {column} is missing"
  | notAnInteger column shown => s!"column {column} is not an integer: {shown}"
  | unexpectedType column position found =>
    s!"column {column} ({position}) has unexpected type {found.shownName}"
  | unrequestedIndex index => s!"hit from unrequested index {index}"
  | unrequestedMeasurement name => s!"series from unrequested measurement {name}"
  | refused cause => s!"DuckDB error: {cause.text}"
  | conflictingKind metric registered offered =>
    s!"metric {metric} is already registered as {registered.name}, " ++
      s!"cannot re-register as {offered.name}"
  | timeBucket bucket => Numeral.render bucket
  | zeroCount record => s!"average {record} has a zero count"
  | averageOutOfRange record => s!"average {record} is out of range"
  | zeroTotal record => s!"percentage {record} has a zero total"
  | percentageOutOfRange record => s!"percentage {record} is out of range"
  | abstractKind => "SingleValue is abstract and has no record type"
  | zeroDayStep => "naming.day_step must be at least 1"
  | zeroPoolSize => "relational.pool_size must be at least 1"
  | noRanks => "query.percentile_ranks must not be empty"
  | unsupportedEngine name => s!"Unsupported storage engine: {name}"
  | noSearchClient => "elasticsearch engine selected without a search client"
  | noTimeSeriesClient => "influxdb engine selected without a time-series client"
  | badSettings detail => detail
  | malformed expected => s!"expected {expected}"
  | reported _ text => text

namespace Category

/-- The opening words of a message. -/
def label : Category → String
  | notFound => "Not found"
  | kindMismatch => "Type mismatch"
  | decode => "Decode error"
  | backend => "Storage backend error"
  | registration => "Registration error"
  | timeBucket => "Invalid time bucket"
  | state => "Invalid state"
  | settings => "Configuration error"
  | io => "I/O error"
  | serialization => "Serialization error"

def statusCode : Category → Nat
  | timeBucket => 3
  | notFound => 5
  | registration | settings => 9
  | kindMismatch | state | io | serialization => 13
  | backend => 14
  | decode => 15

/-- The opening words of the status text; two categories send their bare text. -/
def statusLabel? : Category → Option String
  | notFound | registration => none
  | settings => some "Config error"
  | category => some category.label

end Category

/-- The whole message: the label of the category, a colon and the text. -/
def message (error : Error) : String :=
  s!"{error.category.label}: {error.text}"

def statusCode (error : Error) : Nat :=
  error.category.statusCode

def statusMessage (error : Error) : String :=
  match error.category.statusLabel? with
  | some label => s!"{label}: {error.text}"
  | none => error.text

/-- The text of the underlying cause, which only input and output errors carry. -/
def source? (error : Error) : Option String :=
  if error.category = .io then some error.text else none

end Error

/-- Arithmetic or a statement that ends the run instead of giving an error. -/
inductive Crash
  | zeroPrecision
  | bucketOverflow
  | dateOutOfRange
  | listPosition
  | poolTooLarge
  | nulInStatement
deriving DecidableEq, Repr

/-- An operation that has no value: it failed with an error, or it ended the run. -/
inductive Failure
  | error (error : Error)
  | crash (crash : Crash)
deriving DecidableEq, Repr

abbrev Outcome (α : Type) := Except Failure α

/-- An operation that can only fail with an error is also one that could end the run. -/
def Outcome.ofExcept {α : Type} : Except Error α → Outcome α
  | .ok value => .ok value
  | .error error => .error (.error error)

instance : MonadLift (Except Error) (Except Failure) := ⟨Outcome.ofExcept⟩

end Rollup
