/-
**Scopes of fields.**

A field is defined under tags of its own, laid over the tags of its owner. The resulting scope
belongs to that field alone: it is what the field's definition and the hooks of the field phase see,
and what the finished definition carries.
-/

import CatalogSchema.Build.Error
import CatalogSchema.Json.Writer

namespace CatalogSchema

/-- Tags and their values. -/
structure FieldScope where
  tags : SortedMap String Json

namespace FieldScope

/-- No tag. -/
def empty : FieldScope := ⟨.empty⟩

instance : Inhabited FieldScope := ⟨empty⟩

/-- The scope with a tag set; an earlier value of the tag is dropped. -/
def withTag (scope : FieldScope) (key : String) (value : Json) : FieldScope :=
  ⟨scope.tags.insert key value⟩

/-- The scope of tags set from left to right. -/
def ofTags (tags : List (String × Json)) : FieldScope :=
  tags.foldl (fun scope tag => scope.withTag tag.1 tag.2) empty

/-- The value of a tag. -/
def find? (scope : FieldScope) (key : String) : Option Json := scope.tags.find? key

/-- The value of a tag that is a string. -/
def string? (scope : FieldScope) (key : String) : Option String :=
  (scope.find? key).bind Json.string?

/-- Holds of the tags whose value is neither null nor false. -/
def isSet (scope : FieldScope) (key : String) : Bool :=
  match scope.find? key with
  | none | some .null | some (.bool false) => false
  | some _ => true

/-- A scope laid over another: of a tag in both the upper value stays. -/
def «over» (upper lower : FieldScope) : FieldScope := ⟨lower.tags.insertMany upper.tags.entries⟩

/-- The tags with their values, in key order. -/
def toList (scope : FieldScope) : List (String × Json) := scope.tags.entries

/-- The tags with the texts of their values, in key order. -/
def toJson (scope : FieldScope) : Json :=
  .array (scope.toList.map fun (key, value) => .array [.string key, .string value.text])

/-- Equality of tags and values. -/
def same (first second : FieldScope) : Bool := Json.sameMembers first.toList second.toList

end FieldScope

/-- What the definition of a field and the hooks on it see. -/
structure FieldContext where
  /-- The type that owns the field. -/
  owner : String
  fieldName : String
  /-- The field's own tags over those of its owner. -/
  scope : FieldScope

/-- A defined field with the scope it was defined under. -/
structure FieldDefinition (S : Type u) where
  name : String
  value : S
  scope : FieldScope

/-- The fields of one type, in the order they were added, no two with one name. -/
structure FieldSet (S : Type u) where
  owner : String
  fields : List (FieldDefinition S)

namespace FieldSet

variable {S : Type u}

/-- No field. -/
def empty (owner : String) : FieldSet S := ⟨owner, []⟩

/-- The field with a name. -/
def find? (set : FieldSet S) (name : String) : Option (FieldDefinition S) :=
  set.fields.find? (·.name = name)

/-- Adds a field whose name is free. -/
def insert (set : FieldSet S) (field : FieldDefinition S) : Except PipelineError (FieldSet S) :=
  match set.find? field.name with
  | some _ => .error (.duplicateField set.owner field.name)
  | none => .ok { set with fields := set.fields ++ [field] }

/-- The values of the fields. -/
def values (set : FieldSet S) : List S := set.fields.map (·.value)

end FieldSet

/-- Defines the fields of one owner. -/
structure FieldTracker (m : Type → Type) (S : Type) where
  /-- The type that owns the fields. -/
  owner : String
  /-- The tags that all its fields share. -/
  scope : FieldScope
  /-- What happens to a field after its definition: the hooks of the field phase. -/
  finish : S → FieldContext → ExceptT PipelineError m S

/-- Defines a field: its definition is run in the field's context, and so are the hooks on it. -/
def FieldTracker.define {m : Type → Type} [Monad m] {S : Type} (tracker : FieldTracker m S)
    (name : String) (tags : FieldScope) (definition : FieldContext → ExceptT HookError m S) :
    ExceptT PipelineError m (FieldDefinition S) := do
  let context : FieldContext := ⟨tracker.owner, name, tags.«over» tracker.scope⟩
  let value ← ExceptT.adapt (.fieldDefinition (tracker.owner ++ "." ++ name)) (definition context)
  let value ← tracker.finish value context
  return ⟨name, value, context.scope⟩

end CatalogSchema
