import Rollup.Catalog.Overrides
import Rollup.Record.Percentile

/-!
Settings of a deployment: the storage engine and its connection, how physical names are formed, what
queries report, and the size and the column renames of the relational storage.
-/
namespace Rollup

structure Settings where
  engine : String
  connection : String
  space : String
  dayStep : UInt32
  ranks : List Int32
  maxHits : UInt64
  database : String
  poolSize : UInt64
  renames : Overrides
deriving DecidableEq, Repr

namespace Settings

/-- The settings that hold for an engine where nothing else is said. -/
def standard (engine connection : String) : Settings :=
  ⟨engine, connection, "", 1, Percentile.defaultRanks, 10000, "skywalking", 4, .empty⟩

/-- Refuses settings under which nothing could be stored or reported. -/
def validate (settings : Settings) : Except Error Unit :=
  if settings.dayStep = 0 then .error .zeroDayStep
  else if settings.poolSize = 0 then .error .zeroPoolSize
  else if settings.ranks = [] then .error .noRanks
  else .ok ()

def overrides? (settings : Settings) : Option Overrides :=
  if settings.renames.isEmpty then none else some settings.renames

def renamesToJson (renames : Renames) : Json :=
  .object (renames.map fun (column, storage) => (column, .string storage))

def toJson (settings : Settings) : Json :=
  .object [
    ("storage", .object [("engine", .string settings.engine),
      ("connection", .string settings.connection)]),
    ("naming", .object [("namespace", .string settings.space),
      ("day_step", .int settings.dayStep.toNat)]),
    ("query", .object [("percentile_ranks", Json.ofList Json.ofInt32 settings.ranks),
      ("max_hits", .int settings.maxHits.toNat), ("database", .string settings.database)]),
    ("relational", .object [("pool_size", .int settings.poolSize.toNat),
      ("column_overrides", renamesToJson settings.renames.everywhere),
      ("metric_column_overrides",
        .object (settings.renames.perMetric.map fun (metric, renames) =>
          (metric, renamesToJson renames)))])]

end Settings

end Rollup
