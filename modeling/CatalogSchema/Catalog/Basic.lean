/-
**Catalogs of database types.**

A catalog holds descriptors by id. A descriptor enters only under its own id, if that id is free,
and only with the child that its kind requires.
-/

import CatalogSchema.Build.Error
import CatalogSchema.SortedMap

namespace CatalogSchema

/-- Refuses a descriptor without the child that its kind requires. -/
def Descriptor.validate (descriptor : Descriptor) : Except BuildError Unit :=
  match descriptor.missingChild? with
  | some role =>
    .error (.configuration (.missingChild descriptor.displayName descriptor.kind role))
  | none => .ok ()

/-- Descriptors by id. -/
structure Catalog where
  types : SortedMap TypeId Descriptor
  deriving DecidableEq

namespace Catalog

/-- The catalog without descriptors. -/
def empty : Catalog := ⟨.empty⟩

instance : Inhabited Catalog := ⟨empty⟩

/-- The descriptor of an id. -/
def find? (catalog : Catalog) (id : TypeId) : Option Descriptor := catalog.types.find? id

/-- The descriptors in id order. -/
def toList (catalog : Catalog) : List Descriptor := catalog.types.values

/-- The number of descriptors. -/
def size (catalog : Catalog) : Nat := catalog.types.size

/-- Adds a descriptor that is complete and whose id is free. -/
def insert (catalog : Catalog) (descriptor : Descriptor) : Except BuildError Catalog := do
  descriptor.validate
  match catalog.find? descriptor.id with
  | some existing =>
    .error (.configuration
      (.duplicateId descriptor.id existing.displayName descriptor.displayName))
  | none => .ok ⟨catalog.types.insert descriptor.id descriptor⟩

/-- Adds descriptors from left to right; the first that is refused ends the attempt. -/
def insertMany (catalog : Catalog) (descriptors : List Descriptor) : Except BuildError Catalog :=
  descriptors.foldlM insert catalog

/-- The catalog of a list of descriptors. -/
def ofList (descriptors : List Descriptor) : Except BuildError Catalog :=
  empty.insertMany descriptors

/-- The descriptor of an id that a referrer depends on. -/
def require (catalog : Catalog) (id : TypeId) (referrer : Option Descriptor) :
    Except BuildError Descriptor :=
  match catalog.find? id with
  | some descriptor => .ok descriptor
  | none =>
    .error (.missingDescriptor id ((referrer.map Descriptor.displayName).getD "the caller"))

/-- The first descriptor in id order with a namespace and a name. -/
def findNamed? (catalog : Catalog) (space name : String) : Option Descriptor :=
  catalog.toList.find? fun descriptor => descriptor.space = space ∧ descriptor.name = name

/-- The row types in id order. -/
def composites (catalog : Catalog) : List Descriptor :=
  catalog.toList.filter fun descriptor => descriptor.kind = .composite

end Catalog

end CatalogSchema
