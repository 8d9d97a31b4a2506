/-
**What hooks report.**

A hook can leave notices on its way: an override that was tried, or what the hook saw when its phase
ran. They stay when the build fails later. `Notice.text` is the line of a notice.
-/

import CatalogSchema.Pipeline.Scope

namespace CatalogSchema

/-- A report of one step of a build. -/
inductive Notice where
  /-- An override of a type id, and whether it was taken. -/
  | overridden (id : TypeId) (taken : Bool)
  /-- A hook of the state phase, with the size of the catalog and the version of the state. -/
  | state (plugin : String) (catalogSize version : Nat)
  /-- A hook of the types phase, with the number of types contributed before it. -/
  | types (plugin : String) (contributed : Nat)
  /-- A hook of the fields phase on an object type. -/
  | fields (plugin typeName : String) (id : TypeId) (scope : FieldScope)
  /-- A hook of the field phase. -/
  | field (plugin owner fieldName : String) (scope : FieldScope)

/-- The line of a notice. -/
def Notice.text : Notice → String
  | .overridden id taken => "override " ++ toString id.toNat ++ " " ++ toString taken
  | .state plugin catalogSize version =>
    "build " ++ plugin ++ " types=" ++ toString catalogSize ++ " version=" ++ toString version
  | .types plugin contributed => "init " ++ plugin ++ " " ++ toString contributed
  | .fields plugin typeName id scope =>
    "object " ++ plugin ++ " " ++ typeName ++ " " ++ toString id.toNat ++ " " ++ scope.toJson.text
  | .field plugin owner fieldName scope =>
    "field " ++ plugin ++ " " ++ owner ++ "." ++ fieldName ++ " " ++ scope.toJson.text

end CatalogSchema
