/-
**The phases of a build.**

A build runs four phases. The state phase gathers capabilities, the types phase gathers types, the
fields phase completes the fields of one object type, and the field phase completes one field. A
hook of the types phase can have the fields of an object completed, and a hook of the fields phase a
field; their contexts say how.
-/

import CatalogSchema.Build.Workspace
import CatalogSchema.Pipeline.Capabilities
import CatalogSchema.Pipeline.Hook

namespace CatalogSchema

/-- A phase of a build. -/
inductive BuildPhase where
  | state
  | types
  | fields
  | field
  deriving DecidableEq

/-- The name of a phase. -/
def BuildPhase.name : BuildPhase → String
  | .state => "build"
  | .types => "init"
  | .fields => "object_fields"
  | .field => "field"

/-! ### What contributors share -/

/-- A capability of a build. -/
inductive Shared where
  | text (value : String)
  | catalog (value : Catalog)
  | config (value : Config)
  /-- The registry of the workspace. -/
  | registry
  /-- A table of aliases. -/
  | aliases (table : AliasTable)

namespace Shared

/-- The text of a capability that is one. -/
def text? : Shared → Option String
  | .text value => some value
  | _ => none

/-- The table of a capability that is one. -/
def aliases? : Shared → Option AliasTable
  | .aliases table => some table
  | _ => none

/-- The key of the catalog. -/
def catalogKey : String := "pgCatalog"

/-- The key of the configuration. -/
def configKey : String := "pgBridgeConfig"

/-- The key of the registry. -/
def registryKey : String := "pgTypeBridge"

/-- The key of the aliases by which rows are identified. -/
def aliasesKey : String := "nodeIdentity"

end Shared

/-- The capabilities of a build. -/
abbrev BuildState := Capabilities Shared

/-! ### What hooks see -/

/-- What hooks of the state phase see. -/
structure StateContext where
  catalog : Catalog
  config : Config

/-- What hooks of the fields phase see of an object type. -/
structure ObjectContext where
  /-- The row type that the object stands for. -/
  descriptor : Descriptor
  typeName : String
  /-- The tags that all fields of the object share. -/
  scope : FieldScope
  setting : Setting
  state : BuildState
  /-- Runs the field phase. -/
  finishField : Field → FieldContext → PhaseStep Field

/-- What hooks of the types phase see. -/
structure TypesContext where
  setting : Setting
  state : BuildState
  /-- Runs the field phase. -/
  finishField : Field → FieldContext → PhaseStep Field
  /-- Runs the fields phase. -/
  finishFields : FieldSet Field → ObjectContext → PhaseStep (FieldSet Field)

/-- What a phase folds. -/
@[reducible] def BuildPhase.Artifact : BuildPhase → Type
  | .state => BuildState
  | .types => List SchemaType
  | .fields => FieldSet Field
  | .field => Field

/-- What the hooks of a phase see. -/
@[reducible] def BuildPhase.Context : BuildPhase → Type
  | .state => StateContext
  | .types => TypesContext
  | .fields => ObjectContext
  | .field => FieldContext

/-- The phases of a build. -/
@[reducible] def BuildPhase.family : PhaseFamily :=
  ⟨BuildPhase, inferInstance, BuildPhase.Artifact, BuildPhase.Context⟩

/-- The hooks of a build. -/
abbrev BuildEngine := HookEngine BuildPhase.family (StateM Workspace)

namespace BuildEngine

/-- Adds a hook at the end of a phase. -/
def addHook (engine : BuildEngine) (phase : BuildPhase) (name : String)
    (handler : phase.Artifact → phase.Context → HookStep phase.Artifact) : Build BuildEngine :=
  Build.ofPipeline
    (engine.register phase.name (⟨name, handler⟩ : Hook BuildPhase.family (StateM Workspace) phase))

/-- Runs a phase. -/
def runPhase (engine : BuildEngine) (phase : BuildPhase) (initial : phase.Artifact)
    (context : phase.Context) : PhaseStep phase.Artifact :=
  engine.run phase.name phase initial context

/-- What the hooks of the types phase see when this engine runs them. -/
def typesContext (engine : BuildEngine) (setting : Setting)
    (state : BuildState) : TypesContext where
  setting := setting
  state := state
  finishField := engine.runPhase .field
  finishFields := engine.runPhase .fields

end BuildEngine

/-- What the hooks of the fields phase see of a row type when a hook of the types phase runs
them. -/
def TypesContext.objectContext (context : TypesContext) (descriptor : Descriptor)
    (typeName : String) (scope : FieldScope) : ObjectContext :=
  ⟨descriptor, typeName, scope, context.setting, context.state, context.finishField⟩

end CatalogSchema
