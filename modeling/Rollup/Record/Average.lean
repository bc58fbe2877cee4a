import Rollup.Error

/-!
Running averages with the greatest and the least value seen. A least value of zero means that none
has been seen: the next one replaces it, even a greater one.
-/
namespace Rollup

structure Average where
  summation : Int64
  count : Int64
  max : Int64
  min : Int64
  value : Int64
deriving DecidableEq, Repr

namespace Average

def empty : Average := ⟨0, 0, 0, 0, 0⟩

def feed (average : Average) (summation count max min : Int64) : Average :=
  { average with
    summation := Amount.add average.summation summation
    count := Amount.add average.count count
    max := if average.max < max then max else average.max
    min := if min < average.min ∨ average.min = 0 then min else average.min }

def merge (average other : Average) : Average :=
  average.feed other.summation other.count other.max other.min

/-- Sets the value to the summation over the count, cut off towards zero. -/
def calculate (record : String) (average : Average) : Except Error Average :=
  if average.count = 0 then .error (.zeroCount record)
  else
    match Amount.ofInt? (average.summation.toInt.tdiv average.count.toInt) with
    | some value => .ok { average with value }
    | none => .error (.averageOutOfRange record)

end Average

end Rollup
