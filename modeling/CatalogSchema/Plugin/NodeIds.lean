/-
**Identifiers of table rows.**

The plugin shares a table of aliases and adds to every row type with a primary key a field whose
value identifies the row.
-/

import CatalogSchema.Build.Schema

namespace CatalogSchema

namespace NodeIds

/-- The name of the field that identifies a row. -/
def fieldName : String := "nodeId"

/-- The tag of that field. -/
def nodeIdTag : String := "isNodeIdField"

/-- The table of given aliases, set from left to right. -/
def aliasesOfList (aliases : List (String × String)) : NodeAliases :=
  aliases.foldl (fun known (typeName, typeAlias) => known.setAlias typeName typeAlias) .empty

/-- Shares a table of aliases. -/
def shareAliases (aliases : List (String × String)) (state : BuildState) : HookStep BuildState := do
  let table ← (Build.makeTable (aliasesOfList aliases)).inHook
  PhaseStep.inHook
    (ExceptT.mk (pure (state.extend [(Shared.aliasesKey, .aliases table)] "NodePlugin")))

/-- Adds the field to a row type with a primary key. -/
def addField (fields : FieldSet Field) (context : ObjectContext) : Build (FieldSet Field) := do
  let keyColumns := context.descriptor.primaryKey.map (·.name)
  if keyColumns.isEmpty then
    return fields
  let table ← Build.ofPipeline (context.state.require Shared.aliases? Shared.aliasesKey)
  let type ← Build.make (·.nonNull context.setting.scalars.id)
  let tracker : FieldTracker (StateM Workspace) Field :=
    ⟨context.typeName, context.scope, context.finishField⟩
  let field ← Build.ofPhase
    (tracker.define fieldName (.ofTags [(nodeIdTag, .bool true)]) fun _ =>
      pure ⟨fieldName, some "A globally unique identifier for this row.", type,
        .nodeId context.typeName keyColumns table⟩)
  Build.ofPipeline (fields.insert field)

end NodeIds

/-- Identifies the rows of row types with a primary key. -/
def Plugin.nodeIds (aliases : List (String × String)) : Plugin where
  name := "NodePlugin"
  register _ engine := do
    let engine ← engine.addHook .state "node_identity" fun state _ =>
      NodeIds.shareAliases aliases state
    engine.addHook .fields "node_id" fun fields context => (NodeIds.addField fields context).inHook

end CatalogSchema
