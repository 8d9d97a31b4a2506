/-
**What a build changes.**

Everything that the steps of a build leave behind is in a `Workspace`: the types settled so far, the
tables of aliases and the notices. A `Build` step changes a workspace and may fail; what it changed
before it failed stays.
-/

import CatalogSchema.Build.Notice
import CatalogSchema.Resolution.Resolve

namespace CatalogSchema

/-- The state of a build. -/
structure Workspace where
  registry : Registry
  /-- The tables of aliases, by their number. -/
  tables : List NodeAliases
  /-- The notices so far, in order. -/
  notices : List Notice

/-- The state before a build. Table 0 serves the fields that callers make themselves. -/
def Workspace.initial : Workspace := ⟨.initial, [.empty], []⟩

instance : Inhabited Workspace := ⟨.initial⟩

/-- The aliases of a table; a table that was not made has none. -/
def aliasesOf (tables : List NodeAliases) (table : AliasTable) : NodeAliases :=
  tables[table]?.getD .empty

/-- A step of a build. -/
abbrev Build := ExceptT BuildError (StateM Workspace)

/-- A step inside a phase. -/
abbrev PhaseStep := ExceptT PipelineError (StateM Workspace)

/-- A step inside a hook. -/
abbrev HookStep := ExceptT HookError (StateM Workspace)

namespace Build

variable {α : Type}

/-- An outcome that changes nothing. -/
def ofExcept (outcome : Except BuildError α) : Build α := ExceptT.mk (pure outcome)

/-- An outcome of the pipeline that changes nothing. -/
def ofPipeline (outcome : Except PipelineError α) : Build α :=
  ExceptT.adapt .pipeline (ExceptT.mk (pure outcome))

/-- A step of a phase, as a step of the build. -/
def ofPhase (step : PhaseStep α) : Build α := ExceptT.adapt .pipeline step

/-- A step of resolution, as a step of the build. -/
def ofResolve (step : Resolve α) : Build α :=
  ExceptT.mk fun workspace =>
    let (outcome, registry) := step.run.run workspace.registry
    (outcome, { workspace with registry })

/-- Makes a type. -/
def make (build : TypePool → SchemaType × TypePool) : Build SchemaType :=
  ofResolve (Resolve.make build)

/-- Changes the pool of types, unless the change is refused. -/
def updatePool (change : TypePool → Except BuildError TypePool) : Build Unit := do
  let pool ← ofExcept (change (← get).registry.pool)
  modify fun workspace => { workspace with registry := { workspace.registry with pool } }

/-- Makes a table of aliases. -/
def makeTable (aliases : NodeAliases) : Build AliasTable :=
  modifyGet fun workspace =>
    (workspace.tables.length, { workspace with tables := workspace.tables ++ [aliases] })

/-- Leaves a notice. -/
def report (notice : Notice) : Build Unit :=
  modify fun workspace => { workspace with notices := workspace.notices ++ [notice] }

/-- A step of the build, as a step of a hook. -/
def inHook (step : Build α) : HookStep α := ExceptT.adapt .build step

end Build

/-- A step of a phase, as a step of a hook. -/
def PhaseStep.inHook {α : Type} (step : PhaseStep α) : HookStep α := ExceptT.adapt .pipeline step

end CatalogSchema
