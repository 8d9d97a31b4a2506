/-
**The types made so far.**

A `TypePool` hands out serial numbers and keeps the fields of objects and input objects. The fields
of a type are given once; until then it has none.
-/

import CatalogSchema.Schema.Field

namespace CatalogSchema

/-- The next serial number, and the fields of the objects made so far by serial number. -/
structure TypePool where
  next : Nat
  fields : SortedMap Nat (List Field)
  inputFields : SortedMap Nat (List InputField)
  deriving DecidableEq

namespace TypePool

/-- Makes a type with a new serial number. -/
def make (pool : TypePool) (type : Nat → SchemaType) : SchemaType × TypePool :=
  (type pool.next, { pool with next := pool.next + 1 })

/-- Makes a list type. -/
def list (pool : TypePool) (inner : SchemaType) : SchemaType × TypePool :=
  pool.make fun serial => .list serial inner

/-- The non-null type of a type: the type itself if it is one. -/
def nonNull (pool : TypePool) (inner : SchemaType) : SchemaType × TypePool :=
  match inner with
  | .nonNull serial inner => (.nonNull serial inner, pool)
  | inner => pool.make fun serial => .nonNull serial inner

/-- Makes an object type with its fields. -/
def object (pool : TypePool) (name : String) (description : Option String) (fields : List Field) :
    SchemaType × TypePool :=
  let (type, grown) := pool.make fun serial => .object serial name description
  (type, { grown with fields := grown.fields.insert type.serial fields })

/-- Makes an input object type with its fields. -/
def inputObject (pool : TypePool) (name : String) (description : Option String)
    (fields : List InputField) : SchemaType × TypePool :=
  let (type, grown) := pool.make fun serial => .inputObject serial name description
  (type, { grown with inputFields := grown.inputFields.insert type.serial fields })

/-- The fields of an object, behind aliases too; other types have none. -/
def fieldsOf (pool : TypePool) (type : SchemaType) : List Field :=
  match type.unwrapAlias with
  | .object serial _ _ => (pool.fields.find? serial).getD []
  | _ => []

/-- The fields of an input object, behind aliases too; other types have none. -/
def inputFieldsOf (pool : TypePool) (type : SchemaType) : List InputField :=
  match type.unwrapAlias with
  | .inputObject serial _ _ => (pool.inputFields.find? serial).getD []
  | _ => []

/-- Gives an object its fields, once; other types have no fields to give. -/
def setFields (pool : TypePool) (type : SchemaType) (fields : List Field) :
    Except BuildError TypePool :=
  match type with
  | .object serial name _ =>
    if pool.fields.contains serial then .error (.configuration (.fieldsDefined name))
    else .ok { pool with fields := pool.fields.insert serial fields }
  | _ => .ok pool

/-- Gives an input object its fields, once; other types have no fields to give. -/
def setInputFields (pool : TypePool) (type : SchemaType) (fields : List InputField) :
    Except BuildError TypePool :=
  match type with
  | .inputObject serial name _ =>
    if pool.inputFields.contains serial then .error (.configuration (.fieldsDefined name))
    else .ok { pool with inputFields := pool.inputFields.insert serial fields }
  | _ => .ok pool

end TypePool

end CatalogSchema
