import Rollup.Json.Numeral

/-!
Drafts of JSON values: texts that have been taken apart but not yet read. In a draft a number is
still its numeral, a string may be none, and nothing limits how deep arrays and objects stand
inside one another. Reading is where values are refused. A shape says what is read; a field that it
passes over is left out, whatever its draft is like.
-/
namespace Rollup

namespace Json

inductive Draft
  | null
  | bool (value : Bool)
  | number (parts : Json.Number.Parts)
  /-- A string, unless it holds half of a surrogate pair. -/
  | string (value : Option String)
  | array (items : List Draft)
  | object (fields : List (Option String × Draft))
deriving Repr

/-- What is read of a draft: all of it, lists of drafts that have one shape, or some fields of a
structure, which is an object or the array of its fields. -/
inductive Shape
  | all
  | list (item : Shape)
  | fields (shapes : List (String × Shape))
deriving Repr

namespace Shape

def item (position : Nat) : Shape → Shape
  | .all => .all
  | .list item => item
  | .fields shapes => (shapes[position]?.map (·.2)).getD .all

/-- The shape of a field of an object, unless it is passed over. -/
def field? (name : String) : Shape → Option Shape
  | .all | .list _ => some .all
  | .fields shapes => shapes.lookup name

end Shape

namespace Draft

/-- Arrays and objects inside one another, at most. -/
def greatestDepth : Nat := 127

mutual

/-- Reads a value of a shape, with room for so many arrays and objects inside one another. -/
def readWithin? (room : Nat) (shape : Shape) : Draft → Option Json
  | .null => some .null
  | .bool value => some (.bool value)
  | .number parts => parts.toNumber?.map .number
  | .string value => value.map .string
  | .array items =>
    if room = 0 then none else (readItems? (room - 1) shape 0 items).map .array
  | .object fields =>
    if room = 0 then none else (readFields? (room - 1) shape fields).map .object

def readItems? (room : Nat) (shape : Shape) (position : Nat) : List Draft → Option (List Json)
  | [] => some []
  | item :: rest => do
    let value ← readWithin? room (shape.item position) item
    let values ← readItems? room shape (position + 1) rest
    some (value :: values)

def readFields? (room : Nat) (shape : Shape) :
    List (Option String × Draft) → Option (List (String × Json))
  | [] => some []
  | (none, _) :: _ => none
  | (some name, draft) :: rest =>
    match shape.field? name with
    | none => readFields? room shape rest
    | some inner => do
      let value ← readWithin? room inner draft
      let values ← readFields? room shape rest
      some ((name, value) :: values)

end

def read? (shape : Shape) (draft : Draft) : Option Json :=
  draft.readWithin? greatestDepth shape

end Draft

end Json

end Rollup
