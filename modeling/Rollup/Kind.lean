/-!
The closed set of metric kinds. Calls per minute, sums and maxima are all single-value kinds: each
shows one number, and each counts as its parent `singleValue` too.
-/
namespace Rollup

inductive Kind
  | average
  | percentile
  | percentage
  | singleValue
  | cpm
  | sum
  | max
deriving DecidableEq, Repr

namespace Kind

/-- All kinds in their declared order. -/
def all : List Kind :=
  [.average, .percentile, .percentage, .singleValue, .cpm, .sum, .max]

def name : Kind → String
  | .average => "Average"
  | .percentile => "Percentile"
  | .percentage => "Percentage"
  | .singleValue => "SingleValue"
  | .cpm => "Cpm"
  | .sum => "Sum"
  | .max => "Max"

def ofName? (name : String) : Option Kind :=
  all.find? fun kind => kind.name = name

/-- The declared label of the aggregation function, empty for the abstract kind. -/
def functionName : Kind → String
  | .average => "longAvg"
  | .percentile => "percentile"
  | .percentage => "percent"
  | .singleValue => ""
  | .cpm => "cpm"
  | .sum => "sum"
  | .max => "max"

def parent? : Kind → Option Kind
  | .cpm | .sum | .max => some .singleValue
  | _ => none

/-- Zero or more steps from a kind to its parent. -/
inductive Specializes : Kind → Kind → Prop
  | refl (kind : Kind) : Specializes kind kind
  | step {kind parent ancestor : Kind} :
      kind.parent? = some parent → Specializes parent ancestor → Specializes kind ancestor

/-- How many steps up there are from a kind. -/
def depth : Kind → Nat
  | .cpm | .sum | .max => 1
  | _ => 0

theorem depth_of_parent? {kind parent : Kind} (h : kind.parent? = some parent) :
    parent.depth < kind.depth := by
  cases kind <;> cases h <;> decide

/-- Whether a kind is another one or specializes it, found by going up from parent to parent. -/
def isA (kind other : Kind) : Bool :=
  if kind = other then true
  else
    match h : kind.parent? with
    | some parent =>
      have := depth_of_parent? h
      parent.isA other
    | none => false
termination_by kind.depth

end Kind

end Rollup
