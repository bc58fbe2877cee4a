import Rollup.Error

/-!
The share of matching events among all events, in hundredths of a percent.
-/
namespace Rollup

structure Percentage where
  total : Int64
  matched : Int64
  percentage : Int64
deriving DecidableEq, Repr

namespace Percentage

/-- The percentage that stands for all events. -/
def full : Int := 10000

def empty : Percentage := ⟨0, 0, 0⟩

def feedCounts (share : Percentage) (matched total : Int64) : Percentage :=
  { share with
    matched := Amount.add share.matched matched
    total := Amount.add share.total total }

def feedEvent (share : Percentage) (isMatch : Bool) : Percentage :=
  { share with
    matched := if isMatch then Amount.add share.matched 1 else share.matched
    total := Amount.add share.total 1 }

def merge (share other : Percentage) : Percentage :=
  share.feedCounts other.matched other.total

/-- Sets the percentage to the scaled share, cut off towards zero. -/
def calculate (record : String) (share : Percentage) : Except Error Percentage :=
  if share.total = 0 then .error (.zeroTotal record)
  else
    match Amount.ofInt? ((share.matched.toInt * full).tdiv share.total.toInt) with
    | some percentage => .ok { share with percentage }
    | none => .error (.percentageOutOfRange record)

end Percentage

end Rollup
