/-
**Descriptors of database types.**

A descriptor names a type, its kind and category, and refers to other types by id: the items of an
array, the base of a domain, the subtype of a range, the types of a row's attributes.
-/
import CatalogSchema.Sql.Fragment

namespace CatalogSchema

/-- The id of a database type. -/
abbrev TypeId := UInt32

/-- The structural kind of a database type. -/
inductive TypeKind where
  | base
  | array
  | domain
  | range
  | enumeration
  | composite
  deriving DecidableEq

/-- The name of a kind, in descriptors and in messages. -/
def TypeKind.text : TypeKind → String
  | .base => "base"
  | .array => "array"
  | .domain => "domain"
  | .range => "range"
  | .enumeration => "enum"
  | .composite => "composite"

/-- What a type is to a type built over it. -/
inductive ChildRole where
  | arrayItem
  | domainBase
  | rangeSubtype
  deriving DecidableEq

/-- The name of a role, in messages. -/
def ChildRole.text : ChildRole → String
  | .arrayItem => "array item type"
  | .domainBase => "domain base type"
  | .rangeSubtype => "range subtype"

/-- The role of the child that a kind of type cannot be without. -/
def TypeKind.requiredChild : TypeKind → Option ChildRole
  | .array => some .arrayItem
  | .domain => some .domainBase
  | .range => some .rangeSubtype
  | .base | .enumeration | .composite => none

/-- One attribute of a row type. -/
structure Attribute where
  name : String
  typeId : TypeId
  notNull : Bool
  primaryKey : Bool
  description : Option String
  deriving DecidableEq

/-- One database type. -/
structure Descriptor where
  id : TypeId
  name : String
  /-- The namespace. -/
  space : String
  kind : TypeKind
  /-- The category code, a character. -/
  category : Char
  description : Option String
  arrayItem : Option TypeId
  domainBase : Option TypeId
  rangeSubtype : Option TypeId
  /-- The labels of an enumeration, in declaration order. -/
  labels : Option (List String)
  /-- The attributes of a row type, in declaration order. -/
  attributes : List Attribute
  deriving DecidableEq

namespace Category

/-- Arrays. -/
def array : Char := 'A'

/-- Truth values. -/
def boolean : Char := 'B'

/-- Row types. -/
def composite : Char := 'C'

/-- Dates and times. -/
def datetime : Char := 'D'

/-- Enumerations. -/
def enumeration : Char := 'E'

/-- Geometric values. -/
def geometric : Char := 'G'

/-- Network addresses. -/
def network : Char := 'I'

/-- Numbers. -/
def numeric : Char := 'N'

/-- Ranges. -/
def range : Char := 'R'

/-- Texts. -/
def string : Char := 'S'

/-- Spans of time. -/
def timespan : Char := 'T'

/-- Types defined by users. -/
def user : Char := 'U'

/-- Bit strings. -/
def bitstring : Char := 'V'

end Category

namespace Descriptor

/-- A descriptor without children, labels and attributes. -/
def plain (id : TypeId) (space name : String) (kind : TypeKind) (category : Char) : Descriptor :=
  ⟨id, name, space, kind, category, none, none, none, none, none, []⟩

/-- The qualified name of a type. -/
def qualifiedName (descriptor : Descriptor) : QualifiedName := ⟨descriptor.space, descriptor.name⟩

/-- The name of a type in messages. -/
def displayName (descriptor : Descriptor) : String := descriptor.qualifiedName.text

/-- The child in a role. -/
def child? (descriptor : Descriptor) : ChildRole → Option TypeId
  | .arrayItem => descriptor.arrayItem
  | .domainBase => descriptor.domainBase
  | .rangeSubtype => descriptor.rangeSubtype

/-- The role of a child that the kind requires and the descriptor lacks. -/
def missingChild? (descriptor : Descriptor) : Option ChildRole :=
  descriptor.kind.requiredChild.filter fun role => (descriptor.child? role).isNone

/-- The attributes of the primary key, in declaration order. -/
def primaryKey (descriptor : Descriptor) : List Attribute :=
  descriptor.attributes.filter (·.primaryKey)

/-- The role of the child over which the type is built: the required child of its kind, and the item
of a base or row type of the array category that has one. -/
def builtOver (descriptor : Descriptor) : Option ChildRole :=
  match descriptor.kind with
  | .base | .composite =>
    if descriptor.category = Category.array ∧ descriptor.arrayItem.isSome then some .arrayItem
    else none
  | kind => kind.requiredChild

end Descriptor

end CatalogSchema
