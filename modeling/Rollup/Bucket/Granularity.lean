import Rollup.Error

/-!
Time buckets. A bucket is a decimal time stamp cut off at its granularity: twelve digits for a
minute, ten for an hour, eight for a day. The number of digits is all that tells them apart.
-/
namespace Rollup

inductive Granularity
  | minute
  | hour
  | day
deriving DecidableEq, Repr

namespace Granularity

def name : Granularity → String
  | minute => "minute"
  | hour => "hour"
  | day => "day"

def ofName? (name : String) : Option Granularity :=
  [minute, hour, day].find? fun granularity => granularity.name = name

def minutes : Granularity → Int
  | minute => 1
  | hour => 60
  | day => 24 * 60

end Granularity

namespace Bucket

/-- The granularity that the width of a bucket stands for. -/
def granularity (bucket : Int) : Except Error Granularity :=
  if bucket ≤ 0 then .error (.timeBucket bucket)
  else
    match (Numeral.digits bucket.toNat).length with
    | 12 => .ok .minute
    | 10 => .ok .hour
    | 8 => .ok .day
    | _ => .error (.timeBucket bucket)

/-- The day number of a bucket that is taken to have this granularity. -/
def dayOf (bucket : Int) : Granularity → Int
  | .minute => bucket.tdiv 10000
  | .hour => bucket.tdiv 100
  | .day => bucket

/-- The hour bucket that holds a minute or an hour; a day lies in no hour. -/
def toHour (bucket : Int) : Except Error Int := do
  match ← granularity bucket with
  | .minute => .ok (bucket.tdiv 100)
  | .hour => .ok bucket
  | .day => .error (.timeBucket bucket)

def toDay (bucket : Int) : Except Error Int := do
  let granularity ← granularity bucket
  .ok (dayOf bucket granularity)

end Bucket

end Rollup
