import Rollup.Storage.Naming

/-!
The engines that metrics can be stored in.
-/
namespace Rollup

inductive Engine
  | document
  | timeSeries
  | relational
deriving DecidableEq, Repr

namespace Engine

def name : Engine → String
  | document => "elasticsearch"
  | timeSeries => "influxdb"
  | relational => "duckdb"

/-- The names under which settings know an engine, in lower case. -/
def aliases : Engine → List String
  | document => ["elasticsearch", "es"]
  | timeSeries => ["influxdb", "influx"]
  | relational => ["duckdb"]

/-- The engine of a name, whatever the case of its ASCII letters. -/
def ofName (name : String) : Except Error Engine :=
  match [document, timeSeries, relational].find? fun engine =>
      engine.aliases.contains (Spelling.lower name) with
  | some engine => .ok engine
  | none => .error (.unsupportedEngine name)

end Engine

end Rollup
