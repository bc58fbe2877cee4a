import Rollup.Query.Service

/-!
Names under which storages know metrics: with a namespace in front of physical names, and the
lettering that a storage may require.
-/
namespace Rollup

/-- Puts a namespace in front of a name; an empty one leaves the name alone. -/
def withNamespace (space name : String) : String :=
  if space = "" then name else space ++ "_" ++ name

/-- How a client spells the names it stores data under. -/
structure Spelling where
  lead : String
  lowercase : Bool
deriving DecidableEq, Repr

namespace Spelling

/-- A text with its ASCII letters in lower case. -/
def lower (text : String) : String :=
  String.ofList (text.toList.map Char.toLower)

def apply (spelling : Spelling) (name : String) : String :=
  if spelling.lowercase then lower (spelling.lead ++ name) else spelling.lead ++ name

end Spelling

end Rollup
