/-
**Objects for row types.**

The plugin maps every row type to an object and an input object before anything is resolved, so that
a row type can refer to itself. In the types phase the objects get their fields, one for each
attribute; then the fields phase completes them.
-/

import CatalogSchema.Build.Schema

namespace CatalogSchema

namespace Tables

/-- The tag of every field of a row type. -/
def tableTag : String := "isTableType"

/-- The tag of the database name of the row type. -/
def typeTag : String := "pgType"

/-- The tag of the database name of a column. -/
def columnTag : String := "pgColumn"

/-- Registers the objects of a row type, still without fields. -/
def declare (setting : Setting) (table : Descriptor) : Build Unit := do
  let name := setting.naming.tableType table
  let output ← Build.make fun pool => pool.make fun serial => .object serial name table.description
  let input ← Build.make fun pool => pool.make fun serial =>
    .inputObject serial (setting.naming.inputType name) table.description
  let _ ← Build.ofResolve
    (Resolve.registerOverride setting table.id ⟨output, some input, none⟩ .fail)

/-- The tags that all fields of a row type share. -/
def tableScope (table : Descriptor) : FieldScope :=
  .ofTags [(tableTag, .bool true), (typeTag, .string table.displayName)]

/-- The conversion of a column, which its type must have. -/
def columnCodec (setting : Setting) (table : Descriptor) (column : Attribute) : Build Codec := do
  match (← get).registry.codecFor setting column.typeId with
  | .ok served => return served.codec
  | .error error =>
    throw (.configuration (.columnConversion column.name table.displayName error))

/-- Defines the output field of a column and gives its input field, if its type has an input
type. -/
def columnFields (context : TypesContext) (tracker : FieldTracker (StateM Workspace) Field)
    (table : Descriptor) (column : Attribute) :
    Build (FieldDefinition Field × Option InputField) := do
  let entry ← Build.ofResolve (Resolve.entry context.setting column.typeId)
  let codec ← columnCodec context.setting table column
  let type ← if column.notNull then Build.make (·.nonNull entry.output) else pure entry.output
  let name := context.setting.naming.columnField column.name
  let field ← Build.ofPhase
    (tracker.define name (.ofTags [(columnTag, .string column.name)]) fun field =>
      pure ⟨field.fieldName, column.description, type, .column column.name codec⟩)
  return (field, entry.input.map fun input => ⟨name, column.description, input⟩)

/-- Defines the fields of columns in order. -/
def columnsFields (context : TypesContext) (tracker : FieldTracker (StateM Workspace) Field)
    (table : Descriptor) (fields : FieldSet Field) (inputs : List InputField) :
    List Attribute → Build (FieldSet Field × List InputField)
  | [] => pure (fields, inputs)
  | column :: rest => do
    let (field, input) ← columnFields context tracker table column
    let fields ← Build.ofPipeline (fields.insert field)
    columnsFields context tracker table fields (inputs ++ input.toList) rest

/-- Gives the objects of a row type their fields and returns the output object. -/
def buildTable (context : TypesContext) (table : Descriptor) : Build SchemaType := do
  let entry ← Build.ofResolve (Resolve.entry context.setting table.id)
  let typeName := entry.output.text
  let tracker : FieldTracker (StateM Workspace) Field :=
    ⟨typeName, tableScope table, context.finishField⟩
  let (fields, inputs) ← columnsFields context tracker table (.empty typeName) [] table.attributes
  let fields ← Build.ofPhase
    (context.finishFields fields (context.objectContext table typeName tracker.scope))
  Build.updatePool (·.setFields entry.output fields.values)
  if let some input := entry.input then
    Build.updatePool (·.setInputFields input inputs)
  return entry.output

/-- Gives the objects of all row types their fields and contributes the output objects. -/
def buildTables (contributed : List SchemaType) (context : TypesContext) :
    Build (List SchemaType) := do
  return contributed ++ (← context.setting.catalog.composites.mapM (buildTable context))

end Tables

/-- Makes objects for row types. -/
def Plugin.tables : Plugin where
  name := "TablesPlugin"
  register setting engine := do
    setting.catalog.composites.forM (Tables.declare setting)
    engine.addHook .types "tables" fun contributed context =>
      (Tables.buildTables contributed context).inHook

end CatalogSchema
