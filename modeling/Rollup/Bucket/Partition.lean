import Rollup.Bucket.Granularity
import Rollup.Calendar

/-!
Physical names. A metric is stored per granularity and per partition of days; a partition is named
by its first day. With a day step of at most one every day is its own partition, otherwise
consecutive days, counted from 1970-01-01, share one.
-/
namespace Rollup

namespace Partition

/-- The first day that a date can take: 1 January of the year -262143. -/
def firstDay : Int :=
  Date.dayNumber ⟨-262143, 1, 1⟩

/-- Reads a row of digits as a date: four for the year, then up to two for the month and up to two
for the day, taken greedily from the left with nothing left over. -/
def dateOfDigits? (row : List Char) : Option Date :=
  let year := row.take 4
  let month := (row.drop 4).take 2
  let day := (row.drop 6).take 2
  let date : Date := ⟨Numeral.valueOf year, Numeral.valueOf month, Numeral.valueOf day⟩
  if row.length ≤ 8 ∧ month ≠ [] ∧ day ≠ [] ∧ date.valid then some date else none

def dateOf? (day : Int) : Option Date :=
  if day < 0 then none else dateOfDigits? (Numeral.digits day.toNat)

/-- The day number that names the partition of a day. -/
def ofDay (day : Int) (dayStep : Nat) : Outcome Int :=
  match dateOf? day with
  | none => .error (.error (.timeBucket day))
  | some date =>
    if dayStep ≤ 1 then .ok day
    else
      let first := date.dayNumber - date.dayNumber % dayStep
      if first < firstDay then .error (.crash .dateOutOfRange)
      else .ok (Date.ofDayNumber first).stamp

def physicalName (metric : String) (granularity : Granularity) (bucket : Int) (dayStep : Nat) :
    Outcome String := do
  let partition ← ofDay (Bucket.dayOf bucket granularity) dayStep
  .ok (metric ++ "_" ++ granularity.name ++ "-" ++ Numeral.render partition)

end Partition

/-- The physical names of the metrics of one request, in request order, beside the logical ones. -/
structure PhysicalNames where
  granularity : Granularity
  bucket : Int
  names : List (String × String)
deriving Repr

namespace PhysicalNames

def pair (granularity : Granularity) (bucket : Int) (dayStep : Nat) (metric : String) :
    Outcome (String × String) := do
  let physical ← Partition.physicalName metric granularity bucket dayStep
  .ok (metric, physical)

/-- The names of a request at one bucket. The width of the bucket is checked first. -/
def ofRequest (metrics : List String) (bucket : Int) (dayStep : Nat) : Outcome PhysicalNames := do
  let granularity ← Bucket.granularity bucket
  let names ← metrics.mapM (pair granularity bucket dayStep)
  .ok ⟨granularity, bucket, names⟩

def physical (names : PhysicalNames) : List String :=
  names.names.map (·.2)

def formatted (names : PhysicalNames) (format : String → String) : List (String × String) :=
  names.names.map fun (metric, physical) => (format physical, metric)

/-- The metric behind a formatted physical name; of several the last one requested. -/
def metric? (names : PhysicalNames) (format : String → String) (name : String) : Option String :=
  (names.formatted format).reverse.lookup name

end PhysicalNames

end Rollup
