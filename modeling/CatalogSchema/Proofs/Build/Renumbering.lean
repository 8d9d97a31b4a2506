/-
**A build does not depend on serial numbers.**

Once the plugins have registered, two workspaces that differ in the serial numbers only lead to one
error, or to schemas that differ in the numbers only.

* `Workspace.Corresponds`: two workspaces differ in the serial numbers only.
* `tracks_buildTables`, `tracks_addField`: what the hooks for row types and for identifiers do to
  such workspaces.
* `Schema.Corresponds`: two schemas differ in the serial numbers only. They print and convert alike
  (`Schema.Corresponds.alike`).
-/

import CatalogSchema.Proofs.Build.Columns
import CatalogSchema.Proofs.Build.Registering
import CatalogSchema.Proofs.Resolution.Renumbering

namespace CatalogSchema

variable {numbers : Equiv.Perm Nat}

/-! ### Values -/

section Fields

variable {S : Type} [Numbered S]

instance : Numbered (FieldDefinition S) where
  renumber numbers field := { field with value := renumber numbers field.value }
  renumber_refl field := by simp
  renumber_symm numbers field := by simp

instance : Numbered (FieldSet S) where
  renumber numbers set := { set with fields := renumber numbers set.fields }
  renumber_refl set := by simp
  renumber_symm numbers set := by simp

theorem FieldSet.values_renumber (set : FieldSet S) :
    (renumber numbers set).values = renumber numbers set.values := by
  show (set.fields.map (renumber numbers)).map _ = (set.fields.map _).map (renumber numbers)
  rw [List.map_map, List.map_map]
  rfl

/-- A field enters whatever its type is. -/
theorem FieldSet.insert_renumber (set : FieldSet S) (field : FieldDefinition S) :
    Together (fun grown grown' => grown' = renumber numbers grown) (set.insert field)
      ((renumber numbers set).insert (renumber numbers field)) := by
  have found : (renumber numbers set).find? field.name = renumber numbers (set.find? field.name) :=
    List.find?_map ..
  show Together _ (match set.find? field.name with | some _ => _ | none => _)
    (match (renumber numbers set).find? field.name with | some _ => _ | none => _)
  rw [found]
  cases set.find? field.name with
  | some other => exact .error _
  | none =>
    refine .ok ?_
    show FieldSet.mk set.owner (renumber numbers set.fields ++ [renumber numbers field]) =
      ⟨set.owner, renumber numbers (set.fields ++ [field])⟩
    rw [renumber_append, renumber_cons, renumber_nil]

end Fields

instance : Numbered (Capabilities Shared) := .none _

/-! ### Workspaces -/

/-- Two workspaces differ in the serial numbers only. -/
structure Workspace.Corresponds (numbers : Equiv.Perm Nat)
    (workspace workspace' : Workspace) : Prop where
  registry : workspace.registry.Corresponds numbers workspace'.registry
  tables : workspace'.tables = workspace.tables
  notices : workspace'.notices = workspace.notices

theorem Workspace.Corresponds.refl (workspace : Workspace) :
    workspace.Corresponds (.refl Nat) workspace :=
  ⟨.refl _, rfl, rfl⟩

namespace Build

section Ends

variable {ε α β : Type} {results : α → β → Prop} {left : Workspace → Workspace → Prop}
  {step : ExceptT ε (StateM Workspace) α} {step' : ExceptT ε (StateM Workspace) β}
  {before before' : Workspace}

/-- Of two steps that end together, either both fail. -/
theorem Fails.together (fails : Fails step before)
    (ended : EndTogether results left (runIn step before) (runIn step' before')) :
    Fails step' before' := by
  obtain ⟨error, failed⟩ := fails
  generalize runIn step before = ran at failed ended
  unfold Fails
  generalize runIn step' before' = ran' at ended
  cases ended with
  | ok related reached => cases failed
  | error error state state' => exact ⟨error, rfl⟩

/-- Of two steps that end together, or both succeed. -/
theorem Yields.together {value : α} {after : Workspace} (ran : Yields step before value after)
    (ended : EndTogether results left (runIn step before) (runIn step' before')) :
    ∃ value' after', Yields step' before' value' after' ∧ results value value' ∧
      left after after' := by
  unfold Yields at ran
  rw [ran] at ended
  unfold Yields
  generalize runIn step' before' = ran' at ended
  cases ended with
  | ok related reached => exact ⟨_, _, rfl, related, reached⟩

end Ends

/-- Steps of resolution, as steps of a build. -/
theorem inStep_ofResolve {α β : Type} {before after : Registry → Registry → Prop}
    {results : α → β → Prop} {start left : Workspace → Workspace → Prop} {step : Resolve α}
    {step' : Resolve β} (run : InStep before results after step step')
    (enters : ∀ {workspace workspace'}, start workspace workspace' →
      before workspace.registry workspace'.registry)
    (leaves : ∀ {workspace workspace' registry registry'}, start workspace workspace' →
      after registry registry' →
      left { workspace with registry } { workspace' with registry := registry' }) :
    InStep start results left (ofResolve step) (ofResolve step') := by
  intro workspace workspace' started
  have ran := run (enters started)
  change EndTogether results after (step.run.run workspace.registry)
      (step'.run.run workspace'.registry) at ran
  change EndTogether results _
    ((step.run.run workspace.registry).1,
      { workspace with registry := (step.run.run workspace.registry).2 })
    ((step'.run.run workspace'.registry).1,
      { workspace' with registry := (step'.run.run workspace'.registry).2 })
  generalize step.run.run workspace.registry = ended at ran ⊢
  generalize step'.run.run workspace'.registry = ended' at ran ⊢
  cases ran with
  | ok related reached => exact .ok related (leaves started reached)
  | error error registry registry' => exact .error error _ _

/-- Two steps of a build that differ in the serial numbers only. -/
abbrev Tracks {ε α : Type} [Numbered α] (numbers : Equiv.Perm Nat)
    (step step' : ExceptT ε (StateM Workspace) α) : Prop :=
  CatalogSchema.Tracks numbers (Workspace.Corresponds numbers) step step'

variable {setting : Setting}

theorem tracks_ofResolve {α : Type} [Numbered α] {step step' : Resolve α}
    (run : Resolve.Tracks numbers step step') : Tracks numbers (ofResolve step) (ofResolve step') :=
  inStep_ofResolve run (·.registry) fun start left => ⟨left, start.tables, start.notices⟩

theorem tracks_entry (fixed : setting.scalars.Fixed numbers) (id : TypeId) :
    Tracks numbers (ofResolve (Resolve.entry setting id)) (ofResolve (Resolve.entry setting id)) :=
  tracks_ofResolve (Resolve.tracks_entry fixed id)

theorem tracks_make {build build' : TypePool → SchemaType × TypePool}
    (each : ∀ {pool pool'}, pool.Corresponds numbers pool' →
      (build' pool').1 = renumber numbers (build pool).1 ∧
        (build pool).2.Corresponds numbers (build' pool').2) :
    Tracks numbers (make build) (make build') :=
  tracks_ofResolve (Resolve.tracks_make each)

/-- A change of the pool that may be refused. -/
theorem tracks_updatePool {change change' : TypePool → Except BuildError TypePool}
    (each : ∀ {pool pool'}, pool.Corresponds numbers pool' →
      Together (TypePool.Corresponds numbers) (change pool) (change' pool')) :
    Tracks numbers (updatePool change) (updatePool change') := by
  unfold updatePool
  refine .bind_get fun same => ?_
  refine InStep.bind (InStep.outcome (each same.registry.pool)) fun pools => ?_
  refine (InStep.modify fun left => ?_).mono id (fun _ => rfl) id
  exact { left with registry := { left.registry with pool := pools } }

/-- A field is defined, and completed by the hooks on it. -/
theorem tracks_define {tracker : FieldTracker (StateM Workspace) Field}
    (finishes : ∀ field context,
      Tracks numbers (tracker.finish field context)
        (tracker.finish (renumber numbers field) context))
    (name : String) (tags : FieldScope) {definition definition' : FieldContext → HookStep Field}
    (defines : ∀ context, Tracks numbers (definition context) (definition' context)) :
    Tracks numbers (ofPhase (tracker.define name tags definition))
      (ofPhase (tracker.define name tags definition')) := by
  refine CatalogSchema.Tracks.adapt BuildError.pipeline ?_
  unfold FieldTracker.define
  refine ((defines _).adapt _).bind fun value => ?_
  refine (finishes value _).bind fun finished => ?_
  exact .pure (FieldDefinition.mk name finished _)

/-- A field enters a set. -/
theorem tracks_insert (set : FieldSet Field) (field : FieldDefinition Field) :
    Tracks numbers (ofPipeline (set.insert field))
      (ofPipeline ((renumber numbers set).insert (renumber numbers field))) :=
  CatalogSchema.Tracks.adapt BuildError.pipeline (InStep.outcome (set.insert_renumber field))

end Build

/-! ### Row types -/

/-- The types phase completes fields alike that differ in the serial numbers only. -/
structure TypesContext.Follows (context : TypesContext) (numbers : Equiv.Perm Nat) : Prop where
  scalars : context.setting.scalars.Fixed numbers
  field : ∀ field seen, Build.Tracks numbers (context.finishField field seen)
    (context.finishField (renumber numbers field) seen)
  fields : ∀ fields table typeName scope,
    Build.Tracks numbers (context.finishFields fields (context.objectContext table typeName scope))
      (context.finishFields (renumber numbers fields) (context.objectContext table typeName scope))

namespace Tables

open Build

variable {context : TypesContext} (follows : context.Follows numbers)

theorem tracks_columnCodec {β : Type} [Numbered β] (setting : Setting) (table : Descriptor)
    (column : Attribute) {next next' : Codec → Build β}
    (later : ∀ codec, Build.Tracks numbers (next codec) (next' codec)) :
    Build.Tracks numbers (columnCodec setting table column >>= next)
      (columnCodec setting table column >>= next') := by
  refine .bind_plain ?_ later
  unfold columnCodec
  refine InStep.bind .get fun {workspace workspace'} same => ?_
  have served := same.registry.codecFor setting column.typeId
  generalize workspace.registry.codecFor setting column.typeId = found at served ⊢
  generalize workspace'.registry.codecFor setting column.typeId = found' at served ⊢
  cases served with
  | ok equal => exact .pure equal.symm
  | error error => exact .throw _

theorem tracks_columnType (column : Attribute) (output : SchemaType) :
    Build.Tracks numbers (columnType column output)
      (columnType column (renumber numbers output)) := by
  unfold columnType
  split
  · exact tracks_make fun same => same.nonNull output
  · exact .pure output

include follows

theorem tracks_columnFields (table : Descriptor) (typeName : String) (scope : FieldScope)
    (column : Attribute) :
    Build.Tracks numbers (columnFields context ⟨typeName, scope, context.finishField⟩ table column)
      (columnFields context ⟨typeName, scope, context.finishField⟩ table column) := by
  rw [columnFields_eq]
  refine (tracks_entry follows.scalars column.typeId).bind fun entry => ?_
  refine tracks_columnCodec _ _ _ fun codec => ?_
  refine (tracks_columnType column entry.output).bind fun type => ?_
  dsimp only
  refine Tracks.bind (tracks_define follows.field _ _ fun seen => ?_) fun field => InStep.pure ?_
  · exact .pure (Field.mk seen.fieldName column.description type (.column column.name codec))
  show (_, (renumber numbers entry.input).map _) = (_, renumber numbers (entry.input.map _))
  cases entry.input <;> rfl

theorem tracks_columnsFields (table : Descriptor) (typeName : String) (scope : FieldScope)
    (columns : List Attribute) (fields : FieldSet Field) (inputs : List InputField) :
    Build.Tracks numbers
      (columnsFields context ⟨typeName, scope, context.finishField⟩ table fields inputs columns)
      (columnsFields context ⟨typeName, scope, context.finishField⟩ table (renumber numbers fields)
        (renumber numbers inputs) columns) := by
  induction columns generalizing fields inputs with
  | nil => exact .pure (fields, inputs)
  | cons column columns ih =>
    rw [columnsFields, columnsFields]
    refine (tracks_columnFields follows table typeName scope column).bind fun (field, input) => ?_
    refine (tracks_insert fields field).bind fun grown => ?_
    have later := ih grown (inputs ++ input.toList)
    have moved : renumber numbers (inputs ++ input.toList) =
        renumber numbers inputs ++ (renumber numbers input).toList := by
      cases input <;> simp
    rw [moved] at later
    exact later

/-- **A row type is built alike.** -/
theorem tracks_buildTable (table : Descriptor) :
    Build.Tracks numbers (buildTable context table) (buildTable context table) := by
  unfold buildTable
  refine (tracks_entry follows.scalars table.id).bind fun entry => ?_
  dsimp only
  have written : (renumber numbers entry).output.text = entry.output.text :=
    SchemaType.text_renumber numbers entry.output
  rw [written]
  refine (tracks_columnsFields follows table _ _ table.attributes (.empty _) []).bind
    fun built => ?_
  obtain ⟨fields, inputs⟩ := built
  dsimp only [renumber_pair]
  have completes : Build.Tracks numbers
      (ofPhase (context.finishFields fields (context.objectContext table _ _)))
      (ofPhase (context.finishFields (renumber numbers fields)
        (context.objectContext table _ _))) :=
    (follows.fields fields table entry.output.text (tableScope table)).adapt BuildError.pipeline
  refine completes.bind fun completed => ?_
  have gives : Build.Tracks numbers (updatePool (·.setFields entry.output completed.values))
      (updatePool (·.setFields (renumber numbers entry.output)
        (renumber numbers completed).values)) := by
    rw [FieldSet.values_renumber]
    exact tracks_updatePool fun same => same.setFields entry.output completed.values
  refine gives.bind fun _ => ?_
  have renumbered : (renumber numbers entry).input = renumber numbers entry.input := rfl
  rw [renumbered]
  cases entry.input with
  | none => exact .pure entry.output
  | some input =>
    have givesInput : Build.Tracks numbers (updatePool (·.setInputFields input inputs))
        (updatePool (·.setInputFields (renumber numbers input) (renumber numbers inputs))) :=
      tracks_updatePool fun same => same.setInputFields input inputs
    exact givesInput.bind fun _ => .pure entry.output

/-- **All row types are built alike.** -/
theorem tracks_buildTables (contributed : List SchemaType) :
    Build.Tracks numbers (buildTables contributed context)
      (buildTables (renumber numbers contributed) context) := by
  unfold buildTables
  refine (Tracks.mapM _ fun table _ => tracks_buildTable follows table).bind fun built => ?_
  exact InStep.pure (renumber_append numbers contributed built).symm

end Tables

/-! ### Identifiers -/

namespace NodeIds

open Build

theorem tracks_shareAliases (aliases : List (String × String)) (state : BuildState) :
    Build.Tracks numbers (shareAliases aliases state) (shareAliases aliases state) := by
  have makes : InStep (Workspace.Corresponds numbers) Eq (Workspace.Corresponds numbers)
      (Build.makeTable (aliasesOfList aliases)) (Build.makeTable (aliasesOfList aliases)) :=
    InStep.modifyGet fun same =>
      ⟨congrArg List.length same.tables.symm,
        { same with tables := congrArg (· ++ [aliasesOfList aliases]) same.tables }⟩
  unfold shareAliases
  refine .bind_plain (InStep.adapt HookError.build makes) fun table => ?_
  exact CatalogSchema.Tracks.adapt HookError.pipeline
    ((InStep.outcome (.refl _)).mono (fun same => same) Eq.symm fun same => same)

/-- **The field that identifies rows is added alike.** -/
theorem tracks_addField {context : ObjectContext} (scalars : context.setting.scalars.Fixed numbers)
    (finishes : ∀ field seen, Build.Tracks numbers (context.finishField field seen)
      (context.finishField (renumber numbers field) seen)) (fields : FieldSet Field) :
    Build.Tracks numbers (addField fields context)
      (addField (renumber numbers fields) context) := by
  have id : renumber numbers context.setting.scalars.id = context.setting.scalars.id :=
    scalars _ (by simp [StandardScalars.toList])
  unfold addField
  dsimp only
  split
  · exact .pure fields
  · refine .bind_plain (InStep.adapt BuildError.pipeline (InStep.outcome (.refl _))) fun table => ?_
    refine Tracks.bind (tracks_make fun same => ?_) fun type => ?_
    · have made := same.nonNull context.setting.scalars.id
      rwa [id] at made
    refine Tracks.bind (tracks_define finishes _ _ fun _ => ?_) fun field =>
      tracks_insert fields field
    exact .pure (Field.mk fieldName _ type _)

end NodeIds

/-! ### Phases -/

namespace BuildEngine

open Build

/-- A phase runs alike if its hooks do. -/
theorem tracks_runPhase (phase : BuildPhase) [Numbered phase.Artifact] {engine : BuildEngine}
    (proper : engine.Proper) {context : phase.Context}
    (each : ∀ hook ∈ engine.hooks phase, ∀ value,
      Build.Tracks numbers (hook.handler value context)
        (hook.handler (renumber numbers value) context))
    (initial : phase.Artifact) :
    Build.Tracks numbers (engine.runPhase phase initial context)
      (engine.runPhase phase (renumber numbers initial) context) := by
  rw [runPhase_eq proper, runPhase_eq proper]
  unfold HookEngine.runHooks
  generalize engine.hooks phase = hooks at each ⊢
  induction hooks generalizing initial with
  | nil => exact .pure initial
  | cons hook hooks ih =>
    rw [List.foldlM_cons, List.foldlM_cons]
    refine ((each hook List.mem_cons_self initial).adapt _).bind fun value => ?_
    exact ih value fun other listed => each other (.tail _ listed)

end BuildEngine

/-! ### Schemas -/

/-- Two schemas differ in the serial numbers only: the types of the same ids and the same names, the
fields of the objects among them and the conversions are the same, but for one replacement of
numbers. The scalars of every schema are none of those that are renumbered. -/
structure Schema.Corresponds (numbers : Equiv.Perm Nat) (schema schema' : Schema) : Prop where
  setting : schema'.setting = schema.setting
  scalars : schema.setting.scalars.Fixed numbers
  registry : schema.registry.Corresponds numbers schema'.registry
  types : schema.types.Corresponds numbers schema'.types
  state : schema'.state = schema.state
  tables : schema'.tables = schema.tables

/-- Two schemas print the same, and decode and encode every value of every type id alike. -/
structure Schema.Alike (schema schema' : Schema) : Prop where
  print : schema'.print = schema.print
  decode : ∀ id value, schema'.decode id value = schema.decode id value
  encode : ∀ id value, schema'.encode id value = schema.encode id value

/-- **Schemas that differ in the serial numbers only are alike.** -/
theorem Schema.Corresponds.alike {schema schema' : Schema}
    (same : schema.Corresponds numbers schema') :
    schema.Alike schema' where
  print := by
    unfold Schema.print
    rw [same.types.values]
    exact printTypes_corresponds same.registry.pool _
  decode id value := by
    unfold Schema.decode
    rw [same.setting]
    exact same.registry.decode _ id value
  encode id value := by
    unfold Schema.encode
    rw [same.setting]
    exact same.registry.encode _ id value

/-- A field reads a row alike in both: where its value comes from has no serial number. -/
theorem Schema.Corresponds.resolve {schema schema' : Schema}
    (same : schema.Corresponds numbers schema') (field : Field) (row : Json) :
    schema'.resolve (renumber numbers field) row = schema.resolve field row := by
  unfold Schema.resolve
  rw [same.tables]
  rfl

/-- The roots of corresponding schemas correspond. -/
theorem Registry.Corresponds.resolvedTypes {registry registry' : Registry}
    (same : registry.Corresponds numbers registry') :
    registry'.resolvedTypes = renumber numbers registry.resolvedTypes := by
  unfold Registry.resolvedTypes
  rw [same.types.values, renumber_list, renumber_list, List.flatMap_map, List.map_flatMap]
  refine List.flatMap_congr fun entry _ => ?_
  show renumber numbers entry.output :: (renumber numbers entry.input).toList = _
  cases entry.input <;> rfl

/-- **Schemas are assembled alike**, or names clash in both. -/
theorem Schema.assemble_corresponds {setting : Setting} (fixed : setting.scalars.Fixed numbers)
    {workspace workspace' : Workspace} (same : workspace.Corresponds numbers workspace')
    (state : BuildState) (contributed : List SchemaType) :
    Together (Schema.Corresponds numbers) (assemble setting workspace state contributed)
      (assemble setting workspace' state (renumber numbers contributed)) := by
  have collected := collectNamed_corresponds same.registry.pool
    (workspace.registry.resolvedTypes ++ contributed)
  rw [renumber_append, ← same.registry.resolvedTypes] at collected
  unfold assemble
  generalize collectNamed workspace.registry.pool _ = types at collected ⊢
  generalize collectNamed workspace'.registry.pool _ = types' at collected ⊢
  cases collected with
  | ok related => exact .ok ⟨rfl, fixed, same.registry, related, rfl, same.tables⟩
  | error error => exact .error error

/-! ### The rest of a build -/

namespace Build

/-- What a build does once its plugins have registered. -/
def finish (setting : Setting) (engine : BuildEngine) : Build Schema := do
  let state ← Build.ofPipeline
    (Capabilities.empty.extend (builderCapabilities setting) builderLabel)
  let state ← Build.ofPhase (engine.runPhase .state state ⟨setting.catalog, setting.config⟩)
  let contributed ← Build.ofPhase (engine.runPhase .types [] (engine.typesContext setting state))
  Build.ofExcept (Schema.assemble setting (← get) state contributed)

theorem buildSchema_eq (setting : Setting) (plugins : List Plugin) :
    buildSchema setting plugins = (do
      ofExcept setting.config.validate
      let engine ← registerPlugins setting [] .empty plugins
      finish setting engine) := rfl

variable {setting : Setting} {engine : BuildEngine} {aliases : List (String × String)}

/-- Only which hooks there are matters of an engine. -/
theorem finish_congr {engine' : BuildEngine} (proper : engine.Proper) (proper' : engine'.Proper)
    (same : ∀ phase, engine'.hooks phase = engine.hooks phase) :
    finish setting engine' = finish setting engine := by
  have runs : engine'.runPhase = engine.runPhase := by
    funext phase initial context
    rw [BuildEngine.runPhase_eq proper, BuildEngine.runPhase_eq proper', same]
  unfold finish BuildEngine.typesContext
  rw [runs]

/-- **With the hooks for row types and identifiers, a build does not depend on serial numbers.** -/
theorem inStep_finish (fixed : setting.scalars.Fixed numbers) (proper : engine.Proper)
    (hooks : ∀ phase, engine.hooks phase = Tables.hooks phase ++ NodeIds.hooks aliases phase) :
    InStep (Workspace.Corresponds numbers) (Schema.Corresponds numbers)
      (Workspace.Corresponds numbers) (finish setting engine) (finish setting engine) := by
  have noFieldHooks : engine.hooks .field = [] := (hooks .field).trans rfl
  have follows (state : BuildState) : (engine.typesContext setting state).Follows numbers := by
    have field (field : Field) (seen : FieldContext) :
        Tracks numbers (engine.runPhase .field field seen)
          (engine.runPhase .field (renumber numbers field) seen) :=
      BuildEngine.tracks_runPhase .field proper (by simp [noFieldHooks]) field
    refine ⟨fixed, field, fun fields table typeName scope => ?_⟩
    refine BuildEngine.tracks_runPhase .fields proper (fun hook listed value => ?_) fields
    rw [hooks .fields] at listed
    obtain rfl := List.mem_singleton.1 listed
    exact (NodeIds.tracks_addField fixed field value).adapt HookError.build
  have runsState (state : BuildState) (seen : StateContext) :
      Tracks numbers (ofPhase (engine.runPhase .state state seen))
        (ofPhase (engine.runPhase .state state seen)) := by
    refine CatalogSchema.Tracks.adapt BuildError.pipeline ?_
    refine BuildEngine.tracks_runPhase .state proper (fun hook listed value => ?_) state
    rw [hooks .state] at listed
    obtain rfl := List.mem_singleton.1 listed
    exact NodeIds.tracks_shareAliases aliases value
  have runsTypes (state : BuildState) :
      Tracks numbers (ofPhase (engine.runPhase .types [] (engine.typesContext setting state)))
        (ofPhase (engine.runPhase .types [] (engine.typesContext setting state))) := by
    refine CatalogSchema.Tracks.adapt BuildError.pipeline ?_
    refine BuildEngine.tracks_runPhase .types proper (fun hook listed value => ?_) []
    rw [hooks .types] at listed
    obtain rfl := List.mem_singleton.1 listed
    exact (Tables.tracks_buildTables (follows state) value).adapt HookError.build
  unfold finish
  refine InStep.bind (InStep.adapt BuildError.pipeline (InStep.outcome (.refl _)))
    fun {start start'} equal => ?_
  subst equal
  refine InStep.bind (runsState start _) fun {state state'} equal => ?_
  obtain rfl : state' = state := equal
  refine InStep.bind (runsTypes state') fun {contributed contributed'} equal => ?_
  obtain rfl : contributed' = renumber numbers contributed := equal
  exact InStep.bind .get fun same =>
    InStep.outcome (Schema.assemble_corresponds fixed same state' contributed)

end Build

end CatalogSchema
