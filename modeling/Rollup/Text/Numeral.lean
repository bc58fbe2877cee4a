/-!
Decimal numerals. Integers are written with the fewest digits and a leading `-` when negative.
Reading is more lenient than writing: a sign `+` and leading zeros are allowed, but nothing else
besides ASCII digits, and the value has to fit the range that is asked for.
-/
namespace Rollup.Numeral

/-- The digits of a natural number, most significant first; zero is the one digit `0`. -/
def digits (n : Nat) : List Char :=
  Nat.toDigits 10 n

def write : Int → List Char
  | .ofNat n => digits n
  | .negSucc n => '-' :: digits (n + 1)

def render (n : Int) : String :=
  String.ofList (write n)

def digitValue (c : Char) : Nat :=
  c.toNat - 48

def hexValue? (c : Char) : Option Nat :=
  if c.isDigit then some (digitValue c)
  else if 'a' ≤ c ∧ c ≤ 'f' then some (c.toNat - 87)
  else if 'A' ≤ c ∧ c ≤ 'F' then some (c.toNat - 55)
  else none

def valueOf (row : List Char) : Nat :=
  row.foldl (fun value c => 10 * value + digitValue c) 0

/-- The number that a row of one or more ASCII digits stands for. -/
def magnitude? (row : List Char) : Option Nat :=
  if row ≠ [] ∧ row.all Char.isDigit then some (valueOf row) else none

/-- A number without a sign or with the sign `+`. -/
def unsigned? : List Char → Option Nat
  | '+' :: row => magnitude? row
  | row => magnitude? row

/-- A number with at most one sign, `+` or `-`; `-0` is zero. -/
def signed? : List Char → Option Int
  | '-' :: row => (magnitude? row).map fun n => -(n : Int)
  | row => (unsigned? row).map Int.ofNat

end Rollup.Numeral
