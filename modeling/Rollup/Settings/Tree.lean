import Rollup.Binary64.Shortest
import Rollup.Catalog.Overrides
import Rollup.Json.Numeral
import Rollup.Text.Blank

/-!
Trees of settings. A layer of settings is laid over a tree value by value: a table is merged into
the table that stands there, field by field, and any other value takes the place of what was there.
A value can also be put at a path of fields and positions; what is missing on the way is made.
-/
namespace Rollup

/-- A number with a point: a binary number, an infinity, or no number at all. -/
inductive Setting.Floating
  | finite (value : Binary64)
  | infinite (negative : Bool)
  | notANumber
deriving DecidableEq, Repr

inductive Setting
  | null
  | bool (value : Bool)
  | integer (value : Int64)
  | floating (value : Setting.Floating)
  | text (value : String)
  | list (items : List Setting)
  | table (fields : List (String × Setting))
deriving Repr

namespace Setting

/-- The fields of a table; anything else has none. -/
def fields : Setting → List (String × Setting)
  | table fields => fields
  | _ => []

def items : Setting → List Setting
  | list items => items
  | _ => []

mutual

def assign (name : String) : Setting → Setting → Setting
  | .table incoming, target =>
    let below := (target.fields.lookup name).getD (.table [])
    .table (putUnder name (merge incoming below) target.fields)
  | .null, target => .table (putUnder name .null target.fields)
  | .bool value, target => .table (putUnder name (.bool value) target.fields)
  | .integer value, target => .table (putUnder name (.integer value) target.fields)
  | .floating value, target => .table (putUnder name (.floating value) target.fields)
  | .text value, target => .table (putUnder name (.text value) target.fields)
  | .list items, target => .table (putUnder name (.list items) target.fields)

def merge : List (String × Setting) → Setting → Setting
  | [], target => target
  | (name, value) :: rest, target => merge rest (assign name value target)

end

/-- A step from a value to one inside it. A negative position counts from the end. -/
inductive Step
  | field (name : String)
  | item (position : Int)
deriving DecidableEq, Repr

/-- Lists grow to at most this length. -/
def greatestLength : Nat := UInt32.size

def position (length : Nat) (position : Int) : Except Crash Nat :=
  let place := if position < 0 then length + position else position
  if 0 ≤ place ∧ place < greatestLength then .ok place.toNat else .error .listPosition

/-- Sets the item at a position; a list that is too short is filled up with null. -/
def setItem (position : Nat) (value : Setting) (items : List Setting) : List Setting :=
  (items ++ List.replicate (position + 1 - items.length) null).set position value

/-- Puts a value where the steps lead. A field at the end of the steps is merged. -/
def assignAt (value : Setting) : List Step → Setting → Except Crash Setting
  | [], _ => .ok value
  | [.field name], target => .ok (target |> assign name value)
  | .field name :: rest, target => do
    let below ← assignAt value rest ((target.fields.lookup name).getD .null)
    .ok (.table (putUnder name below target.fields))
  | .item index :: rest, target => do
    let place ← position target.items.length index
    let below ← assignAt value rest (target.items[place]?.getD .null)
    .ok (.list (setItem place below target.items))

def isNameChar (c : Char) : Bool :=
  c.isAlphanum || c = ' ' || c = '_' || c = '-'

def isPadding (c : Char) : Bool :=
  c = ' ' || c = '\t'

def index? (text : List Char) : Option Int :=
  let body := Text.strip isPadding text
  let value? := match body with
    | '-' :: row => (Numeral.magnitude? row).map fun n => -(n : Int)
    | row => (Numeral.magnitude? row).map Int.ofNat
  (value?.bind Amount.ofInt?).map Int64.toInt

def steps? : List Char → Option (List Step)
  | [] => some []
  | c :: rest =>
    if c = '.' then
      let name := rest.takeWhile isNameChar
      if name = [] then none
      else (steps? (rest.dropWhile isNameChar)).map (.field (String.ofList name) :: ·)
    else if c = '[' then
      let inside := rest.takeWhile (· ≠ ']')
      if inside = rest then none
      else (index? inside).bind fun index =>
        (steps? ((rest.dropWhile (· ≠ ']')).drop 1)).map (.item index :: ·)
    else none
termination_by text => text.length
decreasing_by
  · have := (List.dropWhile_sublist isNameChar (l := rest)).length_le
    simp only [List.length_cons]
    omega
  · have := (List.dropWhile_sublist (· ≠ ']') (l := rest)).length_le
    simp only [List.length_cons, List.length_drop]
    omega

/-- The steps that a key stands for. A key that is no path is the name of a field. -/
def stepsOf (key : String) : List Step :=
  let text := key.toList
  let name := text.takeWhile isNameChar
  if name = [] then [.field key]
  else
    match steps? (text.dropWhile isNameChar) with
    | some steps => .field (String.ofList name) :: steps
    | none => [.field key]

def layer (tree : Setting) (entries : List (String × Setting)) : Except Crash Setting :=
  entries.foldlM (fun tree (key, value) => assignAt value (stepsOf key) tree) tree

mutual

/-- The tree of a JSON value. An integer beyond 64 signed bits becomes a binary number. -/
def ofJson : Json → Setting
  | .null => .null
  | .bool value => .bool value
  | .number (.integer value) =>
    match Amount.ofInt? value with
    | some value => .integer value
    | none => ((Binary64.ofFraction? (value < 0) value.natAbs 1).map fun x =>
        Setting.floating (.finite x)).getD .null
  | .number (.float value) => .floating (.finite value)
  | .string value => .text value
  | .array items => .list (ofJsonItems items)
  | .object fields => .table (ofJsonFields fields)

def ofJsonItems : List Json → List Setting
  | [] => []
  | item :: rest => ofJson item :: ofJsonItems rest

def ofJsonFields : List (String × Json) → List (String × Setting)
  | [] => []
  | (key, value) :: rest => (key, ofJson value) :: ofJsonFields rest

end

end Setting

end Rollup
