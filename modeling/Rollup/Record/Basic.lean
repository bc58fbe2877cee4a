import Rollup.Record.Average
import Rollup.Record.Key
import Rollup.Record.Percentage
import Rollup.Record.Percentile

/-!
Mergeable metric records: a key and a measure of one kind. A measure keeps accumulators, which
feeding and combining change, and fields for display, which `calculate` derives from them.
-/
namespace Rollup

/-- Calls over the width of a bucket, and calls per minute. -/
structure Rate where
  total : Int64
  value : Int64
deriving DecidableEq, Repr

/-- What a record measures. Sums and maxima show their accumulator itself. -/
inductive Measure
  | average (average : Average)
  | percentile (percentile : Percentile)
  | percentage (share : Percentage)
  | cpm (rate : Rate)
  | sum (value : Int64)
  | max (value : Int64)
deriving DecidableEq, Repr

structure Record where
  key : Record.Key
  measure : Measure
deriving DecidableEq, Repr

inductive Scalar
  | long (value : Int64)
  | text (value : String)
deriving DecidableEq, Repr

namespace Measure

def kind : Measure → Kind
  | average _ => .average
  | percentile _ => .percentile
  | percentage _ => .percentage
  | cpm _ => .cpm
  | sum _ => .sum
  | max _ => .max

/-- The measure of a kind before anything was fed. The abstract kind has none. -/
def empty (precision : UInt32) (ranks : List Int32) : Kind → Except Error Measure
  | .average => .ok (.average .empty)
  | .percentile => .ok (.percentile (.empty precision ranks))
  | .percentage => .ok (.percentage .empty)
  | .cpm => .ok (.cpm ⟨0, 0⟩)
  | .sum => .ok (.sum 0)
  | .max => .ok (.max 0)
  | .singleValue => .error .abstractKind

/-- The greater of two amounts; a maximum starts at zero and never falls. -/
def greater (value next : Int64) : Int64 :=
  if value < next then next else value

def merge : Measure → Measure → Except Error Measure
  | average a, average b => .ok (.average (a.merge b))
  | percentile a, percentile b => .ok (.percentile (a.merge b))
  | percentage a, percentage b => .ok (.percentage (a.merge b))
  | cpm a, cpm b => .ok (.cpm { a with total := Amount.add a.total b.total })
  | sum a, sum b => .ok (.sum (Amount.add a b))
  | max a, max b => .ok (.max (greater a b))
  | a, b => .error (.kindMismatch a.kind b.kind)

def calculate (key : Record.Key) : Measure → Outcome Measure
  | average a => do
    let a ← a.calculate key.id
    .ok (.average a)
  | percentile p => do
    let p ← p.calculate
    .ok (.percentile p)
  | percentage p => do
    let p ← p.calculate key.id
    .ok (.percentage p)
  | cpm rate => do
    let granularity ← Bucket.granularity key.bucket.toInt
    let value := rate.total.toInt.tdiv granularity.minutes
    .ok (.cpm { rate with value := Int64.ofInt value })
  | sum value => .ok (.sum value)
  | max value => .ok (.max value)

def columns : Measure → List (String × Scalar)
  | average a =>
    [("summation", .long a.summation), ("count", .long a.count), ("max", .long a.max),
      ("min", .long a.min), ("value", .long a.value)]
  | percentile p =>
    [("precision", .long (Int64.ofInt p.precision.toNat)), ("dataset", .text p.dataset.encode),
      ("value", .text p.values.encode)]
  | percentage p =>
    [("total", .long p.total), ("percentage", .long p.percentage), ("match", .long p.matched)]
  | cpm rate => [("total", .long rate.total), ("value", .long rate.value)]
  | sum value => [("value", .long value)]
  | max value => [("value", .long value)]

end Measure

/-- What can be fed into a record, by the shape of what its kind takes in. -/
inductive Feed
  | aggregate (summation count max min : Int64)
  | event (isMatch : Bool)
  | counts (matched total : Int64)
  | observed (value : UInt64)
  | amount (value : Int64)
deriving DecidableEq, Repr

namespace Measure

def feed : Measure → Feed → Outcome Measure
  | average a, .aggregate summation count greatest least =>
    .ok (.average (a.feed summation count greatest least))
  | percentage p, .event isMatch => .ok (.percentage (p.feedEvent isMatch))
  | percentage p, .counts matched total => .ok (.percentage (p.feedCounts matched total))
  | percentile p, .observed value => do
    let p ← p.feed value
    .ok (.percentile p)
  | cpm rate, .amount value => .ok (.cpm { rate with total := Amount.add rate.total value })
  | sum total, .amount value => .ok (.sum (Amount.add total value))
  | max greatest, .amount value => .ok (.max (greater greatest value))
  | _, _ => .error (.error (.malformed "a feed of the kind of the record"))

end Measure

namespace Record

def kind (record : Record) : Kind :=
  record.measure.kind

def id (record : Record) : String :=
  record.key.id

def empty (kind : Kind) (key : Key) (precision : UInt32) (ranks : List Int32) :
    Except Error Record :=
  (Measure.empty precision ranks kind).map fun measure => ⟨key, measure⟩

def feed (record : Record) (feed : Feed) : Outcome Record := do
  let measure ← record.measure.feed feed
  .ok { record with measure }

/-- Takes in the accumulators of another record; the key stays. -/
def combine (record other : Record) : Except Error Record :=
  (record.measure.merge other.measure).map fun measure => { record with measure }

def calculate (record : Record) : Outcome Record := do
  let measure ← record.measure.calculate record.key
  .ok { record with measure }

def toHour (record : Record) : Except Error Record :=
  record.key.toHour.map fun key => { record with key }

def toDay (record : Record) : Except Error Record :=
  record.key.toDay.map fun key => { record with key }

/-- The record with other ranks for its percentiles, and whether that changed anything. -/
def setRanks (record : Record) (ranks : List Int32) : Record × Bool :=
  match record.measure with
  | .percentile p =>
    if p.ranks = ranks then (record, false)
    else ({ record with measure := .percentile { p with ranks } }, true)
  | _ => (record, false)

/-- The row of a record: id and key, then the columns of its kind. A record without an owning
service has no such column. -/
def row (record : Record) : List (String × Scalar) :=
  [(keyColumns.id, .text record.id), (keyColumns.entity, .text record.key.entity),
    (keyColumns.bucket, .long record.key.bucket)] ++
    (match record.key.service with
      | some service => [(keyColumns.service, .text service)]
      | none => []) ++
    record.measure.columns

end Record

end Rollup
