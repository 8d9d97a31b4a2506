/-
**Building a schema.**

Plugins register overrides and hooks; then the phases run, and every type behind the resolved and
the contributed types becomes part of the schema under its name. A build fails as a whole.
-/

import CatalogSchema.Build.Phase
import CatalogSchema.Schema.Printer
import CatalogSchema.Schema.Reachable

namespace CatalogSchema

/-- A contributor to a build. -/
structure Plugin where
  name : String
  /-- Registers overrides and hooks. -/
  register : Setting → BuildEngine → Build BuildEngine

/-- Lets plugins register one after the other; no two may have one name. -/
def registerPlugins (setting : Setting) (names : List String) (engine : BuildEngine) :
    List Plugin → Build BuildEngine
  | [] => pure engine
  | plugin :: rest => do
    if plugin.name ∈ names then
      throw (.configuration (.duplicatePlugin plugin.name))
    let engine ← plugin.register setting engine
    registerPlugins setting (plugin.name :: names) engine rest

/-- The label of the capabilities that every build has. -/
def builderLabel : String := "SchemaBuilder"

/-- The capabilities that every build has. -/
def builderCapabilities (setting : Setting) : List (String × Shared) := [
  (Shared.catalogKey, .catalog setting.catalog),
  (Shared.configKey, .config setting.config),
  (Shared.registryKey, .registry)]

/-- The resolved types in id order, of each the output type before the input type. -/
def Registry.resolvedTypes (registry : Registry) : List SchemaType :=
  registry.types.values.flatMap fun entry => entry.output :: entry.input.toList

/-- A built schema. -/
structure Schema where
  setting : Setting
  registry : Registry
  /-- The named types. -/
  types : SortedMap String SchemaType
  state : BuildState
  /-- The tables of aliases, by their number. -/
  tables : List NodeAliases

/-- The schema of what a build has resolved and of the types contributed besides. -/
def Schema.assemble (setting : Setting) (workspace : Workspace) (state : BuildState)
    (contributed : List SchemaType) : Except BuildError Schema := do
  let types ← collectNamed workspace.registry.pool (workspace.registry.resolvedTypes ++ contributed)
  return ⟨setting, workspace.registry, types, state, workspace.tables⟩

/-- Builds a schema with plugins. -/
def buildSchema (setting : Setting) (plugins : List Plugin) : Build Schema := do
  Build.ofExcept setting.config.validate
  let engine ← registerPlugins setting [] .empty plugins
  let state ← Build.ofPipeline
    (Capabilities.empty.extend (builderCapabilities setting) builderLabel)
  let state ← Build.ofPhase (engine.runPhase .state state ⟨setting.catalog, setting.config⟩)
  let contributed ← Build.ofPhase (engine.runPhase .types [] (engine.typesContext setting state))
  Build.ofExcept (Schema.assemble setting (← get) state contributed)

namespace Schema

/-- The type with a name. -/
def find? (schema : Schema) (name : String) : Option SchemaType := schema.types.find? name

/-- The names of the types, in order. -/
def names (schema : Schema) : List String := schema.types.keys

/-- The types of a resolved type id. -/
def entryOf? (schema : Schema) (id : TypeId) : Option TypeEntry := schema.registry.types.find? id

/-- The number of the table of aliases by which rows are identified. -/
def aliasTable? (schema : Schema) : Option AliasTable :=
  schema.state.find? Shared.aliases? Shared.aliasesKey

/-- All types in the schema definition language. -/
def print (schema : Schema) : String := printTypes schema.registry.pool schema.types.values

/-- Decodes a stored value of a type id. -/
def decode (schema : Schema) (id : TypeId) (value : Json) : Conversion Json :=
  schema.registry.decode schema.setting id value

/-- Encodes a schema value of a type id. -/
def encode (schema : Schema) (id : TypeId) (value : Json) : Conversion Fragment :=
  schema.registry.encode schema.setting id value

/-- The value of a field for a row. -/
def resolve (schema : Schema) (field : Field) (row : Json) : Conversion Json :=
  field.resolve (aliasesOf schema.tables) row

end Schema

end CatalogSchema
