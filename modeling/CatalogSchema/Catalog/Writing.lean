/-
**Writing descriptors.**

A descriptor is written as an object of all its fields, null for those it does not have, so that
reading it back gives the same descriptor.
-/

import CatalogSchema.Catalog.Reading

namespace CatalogSchema

/-- A text or null. -/
def Json.ofText? (text : Option String) : Json := (text.map Json.string).getD .null

/-- A type id. -/
def writeTypeId (id : TypeId) : Json := .ofInt id.toNat

/-- A type id or null. -/
def writeTypeId? (id : Option TypeId) : Json := (id.map writeTypeId).getD .null

/-- The document of an attribute. -/
def Attribute.toJson (column : Attribute) : Json := .ofMembers [
  ("name", .string column.name),
  ("type_id", writeTypeId column.typeId),
  ("not_null", .bool column.notNull),
  ("primary_key", .bool column.primaryKey),
  ("description", .ofText? column.description)]

/-- The document of a descriptor. -/
def Descriptor.toJson (descriptor : Descriptor) : Json := .ofMembers [
  ("id", writeTypeId descriptor.id),
  ("name", .string descriptor.name),
  ("namespace", .string descriptor.space),
  ("kind", .string descriptor.kind.text),
  ("category", .string (String.singleton descriptor.category)),
  ("description", .ofText? descriptor.description),
  ("array_item_type", writeTypeId? descriptor.arrayItem),
  ("domain_base_type", writeTypeId? descriptor.domainBase),
  ("range_sub_type", writeTypeId? descriptor.rangeSubtype),
  ("enum_variants",
    (descriptor.labels.map fun labels => Json.array (labels.map .string)).getD .null),
  ("attributes", .array (descriptor.attributes.map Attribute.toJson))]

end CatalogSchema
