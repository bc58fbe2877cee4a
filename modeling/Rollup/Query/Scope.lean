import Rollup.Json.Reading
import Rollup.Record.Key

/-!
The entity scope of a query. A service scope asks for the records of one entity, a scope of
children for the records of all entities that a service owns, and an empty id for all records.
-/
namespace Rollup

structure Scope where
  id : String
  isService : Bool
deriving DecidableEq, Repr

namespace Scope

def service (id : String) : Scope := ⟨id, true⟩

def ofService (id : String) : Scope := ⟨id, false⟩

def unrestricted : Scope := ⟨"", false⟩

def filter? (scope : Scope) : Option (String × String) :=
  if scope.id = "" then none
  else some (if scope.isService then keyColumns.entity else keyColumns.service, scope.id)

def ofJson (json : Json) : Except Error Scope := do
  let fields ← json.readFields ["id", "is_service"]
  let id ← fields.required "id" Json.readString
  let isService ← fields.required "is_service" Json.readBool
  .ok ⟨id, isService⟩

def toJson (scope : Scope) : Json :=
  .object [("id", .string scope.id), ("is_service", .bool scope.isService)]

end Scope

end Rollup
