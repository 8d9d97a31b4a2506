/-
**Descriptors in documents.**

A descriptor is a record; the fields that not every kind of type has may be left out.
-/

import CatalogSchema.Catalog.Descriptor
import CatalogSchema.Json.Record

namespace CatalogSchema

/-- The kind with a name. -/
def TypeKind.ofText? (name : String) : Option TypeKind :=
  [TypeKind.base, .array, .domain, .range, .enumeration, .composite].find? (·.text = name)

/-- Reads a type id. -/
def readTypeId? (tree : JsonTree) : Option TypeId := (tree.natBelow? UInt32.size).map UInt32.ofNat

/-- Reads an attribute. -/
def Attribute.ofTree? (tree : JsonTree) : Option Attribute := do
  let fields ← tree.recordFields? false
      ["name", "type_id", "not_null", "primary_key", "description"]
  match fields with
  | [name, typeId, notNull, primaryKey, description] =>
    return {
      name := ← JsonTree.field? JsonTree.string? name
      typeId := ← JsonTree.field? readTypeId? typeId
      notNull := ← JsonTree.fieldOr false JsonTree.bool? notNull
      primaryKey := ← JsonTree.fieldOr false JsonTree.bool? primaryKey
      description := ← JsonTree.fieldOr none (JsonTree.optional? JsonTree.string?) description }
  | _ => none

/-- Reads a descriptor. -/
def Descriptor.ofTree? (tree : JsonTree) : Option Descriptor := do
  let fields ← tree.recordFields? false [
    "id", "name", "namespace", "kind", "category", "description", "array_item_type",
    "domain_base_type", "range_sub_type", "enum_variants", "attributes"]
  match fields with
  | [id, name, space, kind, category, description, arrayItem, domainBase, rangeSubtype, labels,
      attributes] =>
    return {
      id := ← JsonTree.field? readTypeId? id
      name := ← JsonTree.field? JsonTree.string? name
      space := ← JsonTree.field? JsonTree.string? space
      kind := ← JsonTree.field? (fun tree => tree.variant?.bind TypeKind.ofText?) kind
      category := ← JsonTree.field? JsonTree.char? category
      description := ← JsonTree.fieldOr none (JsonTree.optional? JsonTree.string?) description
      arrayItem := ← JsonTree.fieldOr none (JsonTree.optional? readTypeId?) arrayItem
      domainBase := ← JsonTree.fieldOr none (JsonTree.optional? readTypeId?) domainBase
      rangeSubtype := ← JsonTree.fieldOr none (JsonTree.optional? readTypeId?) rangeSubtype
      labels :=
        ← JsonTree.fieldOr none (JsonTree.optional? (JsonTree.list? JsonTree.string?)) labels
      attributes := ← JsonTree.fieldOr [] (JsonTree.list? Attribute.ofTree?) attributes }
  | _ => none

/-- Reads the document of a descriptor. -/
def Descriptor.parse? (text : String) : Option Descriptor :=
  (JsonTree.read? text.toList).bind Descriptor.ofTree?

end CatalogSchema
