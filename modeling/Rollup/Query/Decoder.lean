import Rollup.Catalog.Metadata
import Rollup.Query.Result
import Rollup.Query.Row
import Rollup.Record.Percentile

/-!
Decoding of rows. The kind of a metric says which logical columns are read from its rows and under
which ids their values are reported.
-/
namespace Rollup

structure Context where
  catalog : Catalog
  ranks : List Int32
  dayStep : Nat
deriving DecidableEq, Repr

namespace Context

/-- A context with the default ranks and one day to a partition. -/
def ofCatalog (catalog : Catalog) : Context :=
  ⟨catalog, Percentile.defaultRanks, 1⟩

def withRanks (context : Context) (ranks : List Int32) : Context :=
  { context with ranks }

/-- The context with another day step; zero counts as one. -/
def withDayStep (context : Context) (dayStep : Nat) : Context :=
  { context with dayStep := max dayStep 1 }

end Context

namespace Decoder

/-- Reads the integer in a logical column; null is zero. -/
def readLong (metadata : Metadata) (metric : String) (row : Row) (column : String) :
    Except Error NamedValue := do
  let physical ← metadata.physicalName metric column
  let value ← row.long physical
  .ok ⟨column, value.getD 0⟩

/-- The values of a histogram of percentiles under their ranks; a position without a rank is left
out. -/
def rankValues (ranks : List Int32) (histogram : Histogram) : List NamedValue :=
  histogram.entries.filterMap fun (position, value) =>
    ranks[position.toNat]?.map fun rank => ⟨Numeral.render rank.toInt, value⟩

def readRanks (context : Context) (metric : String) (row : Row) :
    Except Error (List NamedValue) := do
  let physical ← context.catalog.metadata.physicalName metric "value"
  let text ← row.text physical
  match Histogram.decode (text.getD "") with
  | .ok histogram => .ok (rankValues context.ranks histogram)
  | .error fault => .error (.histogram fault)

def readValues (context : Context) (metric : String) (row : Row) :
    Kind → Except Error (List NamedValue)
  | .percentile => readRanks context metric row
  | .average => ["value", "count", "max", "min"].mapM (readLong context.catalog.metadata metric row)
  | .percentage =>
    ["match", "total", "percentage"].mapM (readLong context.catalog.metadata metric row)
  | .singleValue | .cpm | .sum | .max => do
    let column ← context.catalog.metadata.valueColumn metric
    let value ← readLong context.catalog.metadata metric row column
    .ok [value]

def decode (context : Context) (metric : String) (row : Row) : Except Error ValueSet := do
  let descriptor ← context.catalog.registry.resolve metric
  let values ← readValues context metric row descriptor.kind
  .ok ⟨metric, values⟩

/-- Decodes a row under the record id in it; a row without an id gives nothing. -/
def decodeRow (context : Context) (metric : String) (row : Row) :
    Except Error (Option (String × ValueSet)) := do
  match ← row.text keyColumns.id with
  | none => .ok none
  | some id =>
    if id = "" then .ok none
    else
      let set ← decode context metric row
      .ok (some (id, set))

end Decoder

end Rollup
