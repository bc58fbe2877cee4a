import Rollup.Error

/-!
Percentiles from a histogram. Observed values are counted in buckets of one width, the precision;
a percentile is the lower bound of the bucket at which the count reaches the rank's share of all
observations.
-/
namespace Rollup

/-- `values` holds under `i` the percentile of the rank at position `i`. -/
structure Percentile where
  precision : UInt32
  dataset : Histogram
  values : Histogram
  ranks : List Int32
deriving DecidableEq, Repr

namespace Percentile

def defaultRanks : List Int32 := [50, 75, 90, 95, 99]

/-- A record without observations; a precision of zero is raised to one. -/
def empty (precision : UInt32) (ranks : List Int32) : Percentile :=
  ⟨if precision = 0 then 1 else precision, .empty, .empty, ranks⟩

def feed (percentile : Percentile) (value : UInt64) : Outcome Percentile :=
  if percentile.precision = 0 then .error (.crash .zeroPrecision)
  else
    let bucket := UInt64.ofNat (value.toNat / percentile.precision.toNat)
    .ok { percentile with dataset := percentile.dataset.increment bucket 1 }

def merge (percentile other : Percentile) : Percentile :=
  { percentile with dataset := percentile.dataset.append other.dataset }

/-- The count at which a rank is reached: the rank's share of the total, a half rounded up. -/
def roof (total : Int) (rank : Int32) : Int :=
  (total * rank.toInt + 50).tdiv 100

/-- The lower bound of a bucket, at most the greatest amount. -/
def lowerBound (precision : UInt32) (bucket : UInt64) : Outcome Int64 :=
  let bound := bucket.toNat * precision.toNat
  if bound < UInt64.size then .ok (Amount.ofClamped bound) else .error (.crash .bucketOverflow)

/-- The percentiles of the roofs, in order. The buckets are passed once, with the count of all
observations up to them; each bucket answers the roofs that its count reaches. -/
def bounds (precision : UInt32) : List (UInt64 × Int64) → Int → List Int → Outcome (List Int64)
  | [], _, _ => .ok []
  | (bucket, count) :: rest, before, roofs => do
    let seen := before + count.toInt
    let reached := roofs.takeWhile (· ≤ seen)
    let here ← if reached = [] then .ok [] else
      (lowerBound precision bucket).map (List.replicate reached.length ·)
    let later ← bounds precision rest seen (roofs.dropWhile (· ≤ seen))
    .ok (here ++ later)

def table (counts : List Int64) : Histogram :=
  .ofList (counts.zipIdx.map fun (count, index) => (UInt64.ofNat index, count))

/-- Derives the values anew from the observations; without any there are none. -/
def calculate (percentile : Percentile) : Outcome Percentile :=
  let total := percentile.dataset.total
  if total = 0 then .ok { percentile with values := .empty }
  else do
    let roofs := percentile.ranks.map (roof total.toInt)
    let found ← bounds percentile.precision percentile.dataset.entries 0 roofs
    .ok { percentile with values := table found }

end Percentile

end Rollup
