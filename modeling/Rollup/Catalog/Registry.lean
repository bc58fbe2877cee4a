import Rollup.Json.Reading

/-!
The registry of metric names. The first descriptor under a name stays for ever: registering an
equal one again changes nothing, any other one is refused.
-/
namespace Rollup

structure Descriptor where
  name : String
  functionName : String
  kind : Kind
deriving DecidableEq, Repr

namespace Descriptor

def ofKind (name : String) (kind : Kind) : Descriptor :=
  ⟨name, kind.functionName, kind⟩

def ofJson (json : Json) : Except Error Descriptor := do
  let fields ← json.readFields ["name", "function_name", "kind"]
  let name ← fields.required "name" Json.readString
  let functionName ← fields.withDefault "function_name" "" Json.readString
  let kind ← fields.required "kind" Json.readKind
  .ok ⟨name, functionName, kind⟩

def toJson (descriptor : Descriptor) : Json :=
  .object [("name", .string descriptor.name), ("function_name", .string descriptor.functionName),
    ("kind", Json.ofKind descriptor.kind)]

end Descriptor

/-- The registered descriptors in the order of their registration. -/
structure Registry where
  descriptors : List Descriptor
deriving DecidableEq, Repr

namespace Registry

def empty : Registry := ⟨[]⟩

def find? (registry : Registry) (name : String) : Option Descriptor :=
  registry.descriptors.find? (·.name = name)

def register (registry : Registry) (descriptor : Descriptor) : Except Error Registry :=
  match registry.find? descriptor.name with
  | some registered =>
    if registered = descriptor then .ok registry
    else .error (.conflictingKind descriptor.name registered.kind descriptor.kind)
  | none => .ok ⟨registry.descriptors ++ [descriptor]⟩

def registerKind (registry : Registry) (name : String) (kind : Kind) : Except Error Registry :=
  registry.register (.ofKind name kind)

/-- The registry after an attempt to register, whether it succeeds or not. -/
def attempt (registry : Registry) (descriptor : Descriptor) : Registry :=
  match registry.register descriptor with
  | .ok registry => registry
  | .error _ => registry

def resolve (registry : Registry) (name : String) : Except Error Descriptor :=
  match registry.find? name with
  | some descriptor => .ok descriptor
  | none => .error (.unknownMetric name)

def contains (registry : Registry) (name : String) : Bool :=
  (registry.find? name).isSome

def isKind (registry : Registry) (name : String) (kind : Kind) : Except Error Bool :=
  (registry.resolve name).map (·.kind.isA kind)

def size (registry : Registry) : Nat :=
  registry.descriptors.length

def isEmpty (registry : Registry) : Bool :=
  registry.descriptors.isEmpty

end Registry

end Rollup
