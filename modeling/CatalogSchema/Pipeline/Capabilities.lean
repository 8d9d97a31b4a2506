/-
**Capabilities that contributors share.**

A state maps keys to values, each with the label of the contributor that brought it. A state only
grows: an extension adds all its keys at once, and it is refused as a whole if one of them is taken,
in the state or earlier in the extension.
-/

import CatalogSchema.Build.Error
import CatalogSchema.SortedMap

namespace CatalogSchema

/-- A value with the label of its contributor. -/
structure Capability (α : Type u) where
  label : String
  value : α

/-- Keyed capabilities, and the number of extensions that led to them. -/
structure Capabilities (α : Type u) where
  entries : SortedMap String (Capability α)
  version : Nat

namespace Capabilities

variable {α : Type u} {β : Type v}

/-- No capability. -/
def empty : Capabilities α := ⟨.empty, 0⟩

/-- Adds keyed values under a label, from left to right; a taken key ends the attempt. -/
def addAll (label : String) (entries : SortedMap String (Capability α)) :
    List (String × α) → Except PipelineError (SortedMap String (Capability α))
  | [] => .ok entries
  | (key, value) :: rest =>
    match entries.find? key with
    | some existing => .error (.duplicateCapability key existing.label label)
    | none => addAll label (entries.insert key ⟨label, value⟩) rest

/-- The state with more capabilities, all under one label. -/
def extend (state : Capabilities α) (additions : List (String × α)) (label : String) :
    Except PipelineError (Capabilities α) := do
  return ⟨← addAll label state.entries additions, state.version + 1⟩

/-- Holds of the keys that have a value. -/
def contains (state : Capabilities α) (key : String) : Bool := state.entries.contains key

/-- The label under which a key was added. -/
def labelOf? (state : Capabilities α) (key : String) : Option String :=
  (state.entries.find? key).map (·.label)

/-- The keys, in order. -/
def keys (state : Capabilities α) : List String := state.entries.keys

/-- The number of capabilities. -/
def size (state : Capabilities α) : Nat := state.entries.size

/-- The value of a key, if it is of the selected type. -/
def find? (state : Capabilities α) (select : α → Option β) (key : String) : Option β :=
  (state.entries.find? key).bind fun capability => select capability.value

/-- The value of a key, which must be there and of the selected type. -/
def require (state : Capabilities α) (select : α → Option β) (key : String) :
    Except PipelineError β :=
  match state.entries.find? key with
  | none => .error (.missingCapability key)
  | some capability =>
    match select capability.value with
    | some value => .ok value
    | none => .error (.capabilityType key)

end Capabilities

end CatalogSchema
