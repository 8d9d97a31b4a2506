/-
**Types of the schema.**

A schema type is one particular type, not only its structure: each carries a serial number that no
other type has, so that equality of values is identity of types. Lists, non-null types and aliases
hold the type they wrap; the fields of objects are kept apart (`TypePool`), because they may lead
back to the object itself.
-/

import CatalogSchema.Naming.EnumMember

namespace CatalogSchema

/-- How the values of a scalar are represented. -/
inductive ScalarKind where
  | boolean
  | int
  | float
  | string
  | json
  deriving DecidableEq

/-- A type of the schema. -/
inductive SchemaType where
  | scalar (serial : Nat) (name : String) (description : Option String) (kind : ScalarKind)
  | enumeration (serial : Nat) (name : String) (description : Option String)
      (members : List EnumMember)
  | object (serial : Nat) (name : String) (description : Option String)
  | inputObject (serial : Nat) (name : String) (description : Option String)
  /-- Another name for a type. -/
  | «alias» (serial : Nat) (name : String) (description : Option String) (delegate : SchemaType)
  | list (serial : Nat) (inner : SchemaType)
  | nonNull (serial : Nat) (inner : SchemaType)
  deriving DecidableEq

namespace SchemaType

/-- The number that tells this type from all others. -/
def serial : SchemaType → Nat
  | .scalar serial _ _ _ | .enumeration serial _ _ _ | .object serial _ _ | .inputObject serial _ _
  | .«alias» serial _ _ _ | .list serial _ | .nonNull serial _ => serial

/-- The name of a type; lists and non-null types have none. -/
def name? : SchemaType → Option String
  | .scalar _ name _ _ | .enumeration _ name _ _ | .object _ name _ | .inputObject _ name _
  | .«alias» _ name _ _ => some name
  | .list _ _ | .nonNull _ _ => none

/-- The description of a type. -/
def description? : SchemaType → Option String
  | .scalar _ _ description _ | .enumeration _ _ description _ | .object _ _ description
  | .inputObject _ _ description | .«alias» _ _ description _ => description
  | .list _ _ | .nonNull _ _ => none

/-- The type behind all aliases. -/
def unwrapAlias : SchemaType → SchemaType
  | .«alias» _ _ _ delegate => delegate.unwrapAlias
  | type => type

/-- The named type inside lists and non-null types. -/
def named : SchemaType → SchemaType
  | .list _ inner | .nonNull _ inner => inner.named
  | type => type

/-- Holds of lists, behind aliases and non-null types too. -/
def isList : SchemaType → Bool
  | .list _ _ => true
  | .nonNull _ inner => inner.isList
  | .«alias» _ _ _ delegate => delegate.isList
  | _ => false

/-- How a type is written where it is used. -/
def text : SchemaType → String
  | .list _ inner => "[" ++ inner.text ++ "]"
  | .nonNull _ inner => inner.text ++ "!"
  | .scalar _ name _ _ | .enumeration _ name _ _ | .object _ name _ | .inputObject _ name _
  | .«alias» _ name _ _ => name

/-- The member of an enumeration for a label, behind aliases too. -/
def memberFor? (type : SchemaType) (label : String) : Option EnumMember :=
  match type.unwrapAlias with
  | .enumeration _ _ _ members => members.find? (·.label = label)
  | _ => none

end SchemaType

end CatalogSchema
