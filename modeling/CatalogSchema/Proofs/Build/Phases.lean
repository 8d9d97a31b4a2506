/-
**Builds whose hooks leave columns alone.**

Among the plugins of a build is the one for row types. The others may have hooks of the state and
types phases, as long as these only put requests to the registry; their hooks on fields only
identify rows.

* `Plugin.OnlyIdentifies`: such a plugin. The standard ones are (`onlyIdentifies_standardTypes`,
  `onlyIdentifies_tables`, `onlyIdentifies_nodeIds`), and so are scripts without hooks on fields
  (`onlyIdentifies_script`).
* `Prepared`: the hooks and the registry when such plugins have registered
  (`prepared_of_registered`).
* `Prepared.finishes`: the phases of fields only add fields that identify rows.
* `Prepared.yields_phases`: what is settled when the phases succeed.
-/

import CatalogSchema.Plugin.Script
import CatalogSchema.Proofs.Build.TableTypes

namespace CatalogSchema

open Build

/-! ### Hooks -/

/-- The hook that builds row types. -/
def Tables.typesHook : Hook BuildPhase.family (StateM Workspace) BuildPhase.types :=
  ⟨"tables", fun contributed context => (buildTables contributed context).inHook⟩

/-- The hook that adds identifiers. -/
def NodeIds.fieldsHook : Hook BuildPhase.family (StateM Workspace) BuildPhase.fields :=
  ⟨"node_id", fun fields context => (addField fields context).inHook⟩

/-- Hooks of the state and types phases, which build row types or only ask, and hooks that identify
rows. -/
structure AddedHooks.OnlyIdentify (setting : Setting) (allowed : Request → Prop)
    (hooks : AddedHooks) : Prop where
  state : ∀ hook ∈ hooks .state, ∀ state context, Asks setting allowed (hook.handler state context)
  types : ∀ hook ∈ hooks .types, hook = Tables.typesHook ∨ ∀ contributed context,
    context.setting = setting → Asks setting allowed (hook.handler contributed context)
  fields : ∀ hook ∈ hooks .fields, hook = NodeIds.fieldsHook
  field : hooks .field = []

/-- A plugin with such hooks. -/
def Plugin.OnlyIdentifies (plugin : Plugin) (setting : Setting) (allowed : Request → Prop) : Prop :=
  ∃ hooks, plugin.Registers setting allowed hooks ∧ hooks.OnlyIdentify setting allowed

section Plugins

variable {setting : Setting} {allowed wider : Request → Prop}

theorem Plugin.Registers.mono {plugin : Plugin} {hooks : AddedHooks}
    (permits : ∀ request, allowed request → wider request)
    (registers : plugin.Registers setting allowed hooks) :
    plugin.Registers setting wider hooks := by
  intro engine before changed after proper ran
  obtain ⟨gains, run⟩ := registers proper ran
  exact ⟨gains, run.mono permits⟩

namespace AddedHooks.OnlyIdentify

theorem nothing : OnlyIdentify setting allowed fun _ => [] := ⟨nofun, nofun, nofun, rfl⟩

theorem append {first second : AddedHooks} (early : first.OnlyIdentify setting allowed)
    (late : second.OnlyIdentify setting allowed) :
    OnlyIdentify setting allowed fun phase => first phase ++ second phase where
  state hook listed := (List.mem_append.1 listed).elim (early.state hook) (late.state hook)
  types hook listed := (List.mem_append.1 listed).elim (early.types hook) (late.types hook)
  fields hook listed := (List.mem_append.1 listed).elim (early.fields hook) (late.fields hook)
  field := by rw [early.field, late.field, List.append_nil]

theorem flatMap {α : Type} {items : List α} {added : α → AddedHooks}
    (each : ∀ item ∈ items, (added item).OnlyIdentify setting allowed) :
    OnlyIdentify setting allowed fun phase => items.flatMap fun item => added item phase := by
  induction items with
  | nil => exact nothing
  | cons first rest ih =>
    exact (each first (List.mem_cons_self ..)).append
      (ih fun item listed => each item (List.mem_cons_of_mem _ listed))

end AddedHooks.OnlyIdentify

/-! ### Plugins -/

theorem Plugin.HookFree.onlyIdentifies {plugin : Plugin} (hookFree : plugin.HookFree setting)
    (permits : ∀ request, request.KeepsNullable → allowed request) :
    plugin.OnlyIdentifies setting allowed :=
  ⟨_, hookFree.mono permits, .nothing⟩

theorem onlyIdentifies_standardTypes (scalars : setting.scalars.Nullable)
    (permits : ∀ request, request.KeepsNullable → allowed request) :
    Plugin.standardTypes.OnlyIdentifies setting allowed :=
  (hookFree_standardTypes scalars).onlyIdentifies permits

theorem onlyIdentifies_tables (permits : ∀ request, request.KeepsNullable → allowed request) :
    Plugin.tables.OnlyIdentifies setting allowed :=
  ⟨_, (registers_tables setting).mono permits, nofun,
    fun _ listed => .inl (List.mem_singleton.1 listed), nofun, rfl⟩

/-- Sharing aliases settles nothing. -/
theorem NodeIds.asks_shareAliases (aliases : List (String × String)) (state : BuildState) :
    Asks setting allowed (shareAliases aliases state) := by
  intro before changed after ran
  unfold shareAliases at ran
  simp only [yields_bind_iff, yields_inHook_iff, yields_makeTable_iff, yields_phaseInHook_iff,
    yields_mk_pure_iff] at ran
  obtain ⟨_, _, ⟨-, rfl⟩, -, rfl⟩ := ran
  exact .start

theorem onlyIdentifies_nodeIds (aliases : List (String × String)) :
    (Plugin.nodeIds aliases).OnlyIdentifies setting allowed := by
  refine ⟨_, registers_nodeIds setting allowed aliases, fun hook listed state _ => ?_, nofun,
    fun _ listed => List.mem_singleton.1 listed, rfl⟩
  obtain rfl := List.mem_singleton.1 listed
  exact NodeIds.asks_shareAliases aliases state

/-! ### Scripts -/

namespace Script

theorem asks_failWith (text : Option String) : Asks setting allowed (failWith text) := by
  cases text with
  | none => exact asks_pure ()
  | some text => exact fun _ _ _ failed => absurd failed not_yields_throw

theorem asks_report (notice : Notice) : Asks setting allowed (report notice) := by
  intro before result after ran
  obtain rfl := yields_modify_iff.1 ran
  exact .start

/-- A step of the build in a hook asks for what it asks. -/
theorem asks_inHook {α : Type} {step : Build α} (asks : Asks setting allowed step) :
    Asks setting allowed step.inHook :=
  fun _ _ _ ran => asks (yields_inHook_iff.1 ran)

theorem asks_pipeline {α : Type} (outcome : Except PipelineError α) :
    Asks setting allowed (PhaseStep.inHook (ExceptT.mk (pure outcome))) := by
  intro before result after ran
  obtain ⟨-, rfl⟩ := yields_mk_pure_iff.1 (yields_phaseInHook_iff.1 ran)
  exact .start

theorem StateHook.asks (plugin : String) (hook : StateHook) (state : BuildState)
    (context : StateContext) :
    Asks setting allowed (hook.run plugin state context) :=
  (asks_inHook (asks_report _)).bind fun _ _ _ _ =>
    (asks_failWith _).bind fun _ _ _ _ => asks_pipeline _

theorem asks_mapM {α β : Type} {step : α → Build β} {items : List α}
    (each : ∀ item, Asks setting allowed (step item)) : Asks setting allowed (items.mapM step) := by
  induction items with
  | nil =>
    rw [List.mapM_nil]
    exact asks_pure _
  | cons item rest ih =>
    rw [List.mapM_cons]
    exact (each item).bind fun _ _ _ _ => ih.bind fun _ _ _ _ => asks_pure _

/-- A contribution asks for output types and for sets of them. -/
theorem TypesHook.asks_contribution (permits : ∀ request, request.Resolving → allowed request)
    (hook : TypesHook) : Asks setting allowed (hook.contribution setting) := by
  have outputs (id : TypeId) : Asks setting allowed (ofResolve (Resolve.output setting id)) :=
    asks_ofResolve fun _ => Run.start.request (.output id) (permits _ trivial)
  have sets (id : TypeId) : Asks setting allowed (ofResolve (Resolve.setOutput setting id)) :=
    asks_ofResolve fun _ => Run.start.request (.setOutput id) (permits _ trivial)
  exact (asks_mapM outputs).bind fun _ _ _ _ => (asks_mapM sets).bind fun _ _ _ _ => asks_pure _

theorem TypesHook.asks (permits : ∀ request, request.Resolving → allowed request) (plugin : String)
    (hook : TypesHook) (contributed : List SchemaType) {context : TypesContext}
    (same : context.setting = setting) :
    Asks setting allowed (hook.run plugin contributed context) := by
  subst same
  unfold TypesHook.run
  refine (asks_inHook (asks_report _)).bind fun _ _ _ _ => ?_
  refine (asks_inHook (hook.asks_contribution permits)).bind fun _ contribution _ _ => ?_
  have last : Asks context.setting allowed (do
      failWith hook.failure
      return contributed ++ contribution : HookStep (List SchemaType)) :=
    (asks_failWith _).bind fun _ _ _ _ => asks_pure _
  cases hook.required with
  | none => exact last
  | some key => exact (asks_pipeline _).bind fun _ _ _ _ => last

/-- The hooks that an action adds. -/
def Action.hooks (plugin : String) : Action → AddedHooks
  | .override _ _ _ | .refuse _ => fun _ => []
  | .onState hook => .only .state ⟨hook.hook, hook.run plugin⟩
  | .onTypes hook => .only .types ⟨hook.hook, hook.run plugin⟩
  | .onFields hook => .only .fields ⟨hook.hook, hook.run plugin⟩
  | .onField hook => .only .field ⟨hook.hook, hook.run plugin⟩

/-- An action that adds no hook on fields, and overrides only what it may. -/
def Action.LeavesFields (allowed : Request → Prop) : Action → Prop
  | .override id mapping rule => allowed (.registerOverride id mapping rule)
  | .refuse _ | .onState _ | .onTypes _ => True
  | .onFields _ | .onField _ => False

/-- An action adds its hooks. -/
theorem Action.gains_of_perform {action : Action} {plugin : String} {engine changed : BuildEngine}
    {before after : Workspace} (proper : engine.Proper)
    (ran : Yields (action.perform plugin setting engine) before changed after) :
    engine.Gains (action.hooks plugin) changed := by
  cases action with
  | override id mapping rule =>
    unfold Action.perform at ran
    simp only [yields_bind_iff, yields_pure_iff] at ran
    obtain ⟨_, _, -, _, _, -, rfl, -⟩ := ran
    exact .nothing proper
  | refuse text => exact absurd ran not_yields_throw
  | onState | onTypes | onFields | onField => exact (BuildEngine.yields_addHook proper ran).2

/-- **One action** adds its hooks, and besides it only asks. -/
theorem Action.yields_perform {action : Action} (leaves : action.LeavesFields allowed)
    {plugin : String} {engine changed : BuildEngine} {before after : Workspace}
    (proper : engine.Proper)
    (ran : Yields (action.perform plugin setting engine) before changed after) :
    engine.Gains (action.hooks plugin) changed ∧
      Run setting allowed before.registry after.registry := by
  refine ⟨gains_of_perform proper ran, ?_⟩
  cases action with
  | override id mapping rule =>
    unfold Action.perform report at ran
    simp only [yields_bind_iff, yields_ofResolve_iff, yields_modify_iff, yields_pure_iff] at ran
    obtain ⟨taken, _, ⟨registry, answered, rfl⟩, _, _, rfl, rfl, rfl⟩ := ran
    exact Run.start.asked leaves (congrArg Prod.snd answered)
  | refuse text => exact absurd ran not_yields_throw
  | onState | onTypes =>
    obtain ⟨rfl, -⟩ := BuildEngine.yields_addHook proper ran
    exact .start
  | onFields | onField => exact leaves.elim

theorem Action.onlyIdentify (permits : ∀ request, request.Resolving → allowed request)
    {action : Action} (leaves : action.LeavesFields allowed) (plugin : String) :
    (action.hooks plugin).OnlyIdentify setting allowed := by
  cases action with
  | override | refuse => exact .nothing
  | onState hook =>
    refine ⟨fun _ listed state context => ?_, nofun, nofun, rfl⟩
    obtain rfl := List.mem_singleton.1 listed
    exact hook.asks plugin state context
  | onTypes hook =>
    refine ⟨nofun, fun _ listed => .inr fun contributed context same => ?_, nofun, rfl⟩
    obtain rfl := List.mem_singleton.1 listed
    exact hook.asks permits plugin contributed same
  | onFields | onField => exact leaves.elim

end Script

/-- **A script without hooks on fields** adds the hooks of its actions, in their order. -/
theorem registers_script (name : String) {actions : List Script.Action}
    (leaves : ∀ action ∈ actions, action.LeavesFields allowed) :
    (Plugin.script name actions).Registers setting allowed
      fun phase => actions.flatMap fun action => action.hooks name phase := by
  intro engine before changed after proper ran
  replace ran : Yields (actions.foldlM
    (fun engine action => action.perform name setting engine) engine) before changed after := ran
  exact BuildEngine.gains_foldlM (fun _ => .start) (fun first second => first.trans second)
    (fun action listed => Script.Action.yields_perform (leaves action listed)) proper ran

theorem onlyIdentifies_script (permits : ∀ request, request.Resolving → allowed request)
    (name : String) {actions : List Script.Action}
    (leaves : ∀ action ∈ actions, action.LeavesFields allowed) :
    (Plugin.script name actions).OnlyIdentifies setting allowed :=
  ⟨_, registers_script name leaves, .flatMap fun action listed =>
    Script.Action.onlyIdentify permits (leaves action listed) name⟩

/-- A plugin that only overrides ids with nullable types has no hooks. -/
theorem hookFree_script (name : String) {overrides : List (TypeId × Override × ConflictRule)}
    (nullable : ∀ entry ∈ overrides, entry.2.1.output.Nullable) :
    (Plugin.script name
      (overrides.map fun (id, mapping, rule) => .override id mapping rule)).HookFree setting := by
  have leaves : ∀ action ∈ overrides.map fun (id, mapping, rule) =>
      Script.Action.override id mapping rule, action.LeavesFields Request.KeepsNullable := by
    intro action listed
    obtain ⟨entry, mapped, rfl⟩ := List.mem_map.1 listed
    exact nullable entry mapped
  have none : (fun phase => (overrides.map fun (id, mapping, rule) =>
      Script.Action.override id mapping rule).flatMap fun action => action.hooks name phase) =
        fun _ => ([] : List _) := by
    funext phase
    rw [List.flatMap_map]
    exact List.flatMap_eq_nil_iff.2 fun _ _ => rfl
  unfold Plugin.HookFree
  rw [← none]
  exact registers_script name leaves

/-! ### Registering -/

/-- What the plugins have registered. -/
structure Prepared (setting : Setting) (allowed : Request → Prop) (engine : BuildEngine)
    (registry : Registry) : Prop where
  proper : engine.Proper
  hooks : AddedHooks.OnlyIdentify setting allowed engine.hooks
  listed : Tables.typesHook ∈ engine.hooks .types
  run : Run setting allowed .initial registry
  declared : ∀ table ∈ setting.catalog.composites, ∃ outputSerial inputSerial,
    Tables.Declared setting registry table outputSerial inputSerial

/-- The hooks of several plugins. -/
theorem exists_registers {plugins : List Plugin}
    (fit : ∀ plugin ∈ plugins, plugin.OnlyIdentifies setting allowed) :
    ∃ added, List.Forall₂ (fun plugin hooks => plugin.Registers setting allowed hooks)
      plugins added ∧ ∀ hooks ∈ added, AddedHooks.OnlyIdentify setting allowed hooks := by
  induction plugins with
  | nil => exact ⟨[], .nil, nofun⟩
  | cons first rest ih =>
    obtain ⟨hooks, registers, only⟩ := fit first (List.mem_cons_self ..)
    obtain ⟨added, others, all⟩ :=
      ih fun plugin listed => fit plugin (List.mem_cons_of_mem _ listed)
    exact ⟨hooks :: added, .cons registers others, List.forall_mem_cons.2 ⟨only, all⟩⟩

theorem prepared_of_registered {plugins : List Plugin} (listed : Plugin.tables ∈ plugins)
    (fit : ∀ plugin ∈ plugins, plugin.OnlyIdentifies setting allowed) {engine : BuildEngine}
    {after : Workspace}
    (ran : Yields (registerPlugins setting [] .empty plugins) .initial engine after) :
    Prepared setting allowed engine after.registry := by
  obtain ⟨added, registers, only⟩ := exists_registers fit
  obtain ⟨gains, run⟩ := yields_registerPlugins registers BuildEngine.proper_empty ran
  have hooks : engine.hooks = fun phase => added.flatMap fun hooks => hooks phase := by
    funext phase
    rw [gains.hooks, BuildEngine.hooks_empty, List.nil_append]
  obtain ⟨early, start, next, finish, registered, proper, ⟨later, gainsLate⟩, runEarly, runLate⟩ :=
    exists_yields_register registers listed BuildEngine.proper_empty ran
  have soundStart := runEarly.sound .initial
  obtain ⟨gainsTables, runTables⟩ := registers_tables setting proper registered
  have grows := runLate.grows (runTables.sound soundStart)
  refine ⟨gains.proper, ?_, ?_, run, fun table here => ?_⟩
  · rw [hooks]
    exact .flatMap only
  · rw [gainsLate.hooks, gainsTables.hooks]
    exact List.mem_append_left _ (List.mem_append_right _ (List.mem_singleton_self _))
  · obtain ⟨outputSerial, inputSerial, declared⟩ :=
      Tables.declared_of_register soundStart proper registered table here
    exact ⟨outputSerial, inputSerial, declared.grows grows⟩

/-! ### The phases -/

/-- A field that takes its value from a column. -/
def Field.ReadsColumn (field : Field) : Prop := ∃ column codec, field.source = .column column codec

theorem NodeIds.Adds.not_readsColumn {context : ObjectContext} {nodes : List Field}
    (adds : Adds context nodes) : ∀ field ∈ nodes, ¬field.ReadsColumn := by
  cases adds with
  | keyless => exact nofun
  | keyed =>
    rintro field listed ⟨column, codec, source⟩
    obtain rfl := List.mem_singleton.1 listed
    cases source

/-- What the phases of fields add to the fields of a row type. -/
structure AddsNoColumns (fields : FieldSet Field) (before : Workspace) (changed : FieldSet Field)
    (after : Workspace) : Prop where
  distinct : changed.Distinct
  makes : before.registry.OnlyMakes after.registry
  values : ∃ added, changed.values = fields.values ++ added ∧ ∀ field ∈ added, ¬field.ReadsColumn

theorem AddsNoColumns.trans {fields between changed : FieldSet Field}
    {before middle after : Workspace} (early : AddsNoColumns fields before between middle)
    (late : AddsNoColumns between middle changed after) :
    AddsNoColumns fields before changed after := by
  obtain ⟨first, values, plain⟩ := early.values
  obtain ⟨second, valuesLate, plainLate⟩ := late.values
  refine ⟨late.distinct, early.makes.trans late.makes, first ++ second, ?_, fun field listed => ?_⟩
  · rw [valuesLate, values, List.append_assoc]
  · exact (List.mem_append.1 listed).elim (plain field) (plainLate field)

variable {engine : BuildEngine} {registry : Registry}

/-- No hook changes a field. -/
theorem Prepared.runPhase_field (prepared : Prepared setting allowed engine registry)
    (field : Field) (about : FieldContext) : engine.runPhase .field field about = pure field :=
  BuildEngine.runPhase_of_no_hooks prepared.proper prepared.hooks.field field about

/-- **The phases of fields** add only fields that identify rows. -/
theorem Prepared.finishes (prepared : Prepared setting allowed engine registry)
    (state : BuildState) :
    (engine.typesContext setting state).Finishes fun _ added =>
      ∀ field ∈ added, ¬field.ReadsColumn where
  field := prepared.runPhase_field
  fields table typeName scope fields before changed after distinct ran := by
    replace ran : Yields (engine.runPhase .fields fields
      ((engine.typesContext setting state).objectContext table typeName scope)) before
      changed after := ran
    rw [BuildEngine.runPhase_eq prepared.proper] at ran
    have start : AddsNoColumns fields before fields before :=
      ⟨distinct, .refl _, [], (List.append_nil _).symm, nofun⟩
    have step : ∀ hook ∈ engine.hooks .fields, ∀ ⦃value between next later⦄,
        AddsNoColumns fields before value between →
        Yields (hook.handler value
          ((engine.typesContext setting state).objectContext table typeName scope))
          between next later → AddsNoColumns fields before next later := by
      intro hook listed value between next later holds ranHook
      obtain rfl := prepared.hooks.fields hook listed
      obtain ⟨distinctNext, makes, nodes, values, adds⟩ := NodeIds.yields_addField
        prepared.runPhase_field holds.distinct (yields_inHook_iff.1 ranHook)
      exact holds.trans ⟨distinctNext, makes, nodes, values, adds.not_readsColumn⟩
    obtain ⟨distinctAfter, makes, values⟩ :=
      BuildEngine.yields_runHooks (AddsNoColumns fields before) step start ran
    exact ⟨distinctAfter, makes, values⟩

/-- Hooks that only ask, as long as only requests were put before them. -/
theorem run_of_runHooks {phase : BuildPhase} {name : String}
    {hooks : List (Hook BuildPhase.family (StateM Workspace) phase)} {context : phase.Context}
    {initial result : phase.Artifact} {before after : Workspace}
    (each : ∀ hook ∈ hooks, ∀ ⦃value between next later⦄,
      Run setting allowed before.registry between.registry →
      Yields (hook.handler value context) between next later →
      Run setting allowed between.registry later.registry)
    (ran : Yields (HookEngine.runHooks name context hooks initial) before result after) :
    Run setting allowed before.registry after.registry :=
  BuildEngine.yields_runHooks
    (fun _ workspace => Run setting allowed before.registry workspace.registry)
    (fun hook listed _ _ _ _ run ranHook => run.trans (each hook listed run ranHook)) .start ran

/-- Hooks of the state phase only ask. -/
theorem Prepared.asks_state (prepared : Prepared setting allowed engine registry)
    (initial : BuildState) (context : StateContext) :
    Asks setting allowed (engine.runPhase .state initial context) := by
  intro before state after ran
  rw [BuildEngine.runPhase_eq prepared.proper] at ran
  exact run_of_runHooks (fun hook listed value _ _ _ _ ranHook =>
    prepared.hooks.state hook listed value context ranHook) ran

/-- **The types phase** builds every row type, whatever its other hooks ask for. -/
theorem Prepared.yields_types (prepared : Prepared setting allowed engine registry)
    (permits : ∀ request, request.Resolving → allowed request) {state : BuildState}
    {adds : List Attribute → List Field → Prop}
    (finishes : (engine.typesContext setting state).Finishes adds) {before after : Workspace}
    (grows : registry.Grows before.registry) (sound : Sound setting before.registry)
    {contributed : List SchemaType}
    (ran : Yields (engine.runPhase .types [] (engine.typesContext setting state)) before
      contributed after) :
    Run setting allowed before.registry after.registry ∧
      ∀ table ∈ setting.catalog.composites, ∃ outputSerial inputSerial columns added,
        adds table.attributes added ∧
          TableBuilt setting after.registry table outputSerial inputSerial columns added := by
  rw [BuildEngine.runPhase_eq prepared.proper] at ran
  have builds {between later : Workspace} {types results : List SchemaType}
      (run : Run setting allowed before.registry between.registry)
      (ranTables : Yields
        (Tables.typesHook.handler types (engine.typesContext setting state)) between
        results later) := Tables.yields_buildTables finishes
    (fun table here => by
      obtain ⟨outputSerial, inputSerial, declared⟩ := prepared.declared table here
      exact ⟨outputSerial, inputSerial, declared.grows (grows.trans (run.grows sound))⟩)
    (run.sound sound) (yields_inHook_iff.1 ranTables)
  -- Every hook only asks, be it that of the row types or another.
  have each : ∀ hook ∈ engine.hooks .types, ∀ ⦃types between results later⦄,
      Run setting allowed before.registry between.registry →
      Yields (hook.handler types (engine.typesContext setting state)) between results later →
      Run setting allowed between.registry later.registry := by
    intro hook listed types between results later run ranHook
    rcases prepared.hooks.types hook listed with rfl | asks
    · exact (builds run ranHook).1.mono permits
    · exact asks types _ rfl ranHook
  obtain ⟨early, late, types, start, results, finish, split, ranEarly, ranTables, ranLate⟩ :=
    BuildEngine.exists_yields_hook prepared.listed ran
  rw [split] at each
  have runEarly :=
    run_of_runHooks (fun hook listed => each hook (List.mem_append_left _ listed)) ranEarly
  obtain ⟨runTables, tables⟩ := builds runEarly ranTables
  have run := runEarly.trans (runTables.mono permits)
  have runLate : Run setting allowed finish.registry after.registry :=
    run_of_runHooks (fun hook listed _ _ _ _ runHook =>
      each hook (List.mem_append_right _ (List.mem_cons_of_mem _ listed))
        (run.trans runHook)) ranLate
  refine ⟨run.trans runLate, fun table here => ?_⟩
  obtain ⟨outputSerial, inputSerial, columns, added, sort, built⟩ := tables table here
  exact ⟨outputSerial, inputSerial, columns, added, sort,
    built.grows (runLate.grows (run.sound sound))⟩

end Plugins

/-! ### Builds -/

section Builds

variable {setting : Setting} {allowed : Request → Prop} {adds : List Attribute → List Field → Prop}

theorem Schema.assemble_eq_ok {workspace : Workspace} {state : BuildState}
    {contributed : List SchemaType} {schema : Schema}
    (assembled : Schema.assemble setting workspace state contributed = .ok schema) :
    schema.setting = setting ∧ schema.registry = workspace.registry ∧
      collectNamed workspace.registry.pool (workspace.registry.resolvedTypes ++ contributed) =
        .ok schema.types := by
  unfold Schema.assemble at assembled
  cases gathered : collectNamed workspace.registry.pool
      (workspace.registry.resolvedTypes ++ contributed) with
  | error error =>
    rw [gathered] at assembled
    cases assembled
  | ok types =>
    rw [gathered] at assembled
    cases assembled
    exact ⟨rfl, rfl, rfl⟩

/-- What a build has settled when it succeeds, where the phases of fields add fields of a certain
sort. -/
structure TablesSettled (setting : Setting) (allowed : Request → Prop)
    (adds : List Attribute → List Field → Prop) (schema : Schema) : Prop where
  fixed : schema.setting = setting
  run : Run setting allowed .initial schema.registry
  tables : ∀ table ∈ setting.catalog.composites, ∃ outputSerial inputSerial columns nodes,
    adds table.attributes nodes ∧
      TableBuilt setting schema.registry table outputSerial inputSerial columns nodes
  gathered : ∃ contributed, collectNamed schema.registry.pool
    (schema.registry.resolvedTypes ++ contributed) = .ok schema.types

/-- **A build that succeeds** has built every row type. -/
theorem tablesSettled_of_buildSchema {plugins : List Plugin}
    (permits : ∀ request, request.Resolving → allowed request)
    (prepares : ∀ {engine after},
      Yields (registerPlugins setting [] .empty plugins) .initial engine after →
      Prepared setting allowed engine after.registry ∧
        ∀ state, (engine.typesContext setting state).Finishes adds)
    {schema : Schema} {after : Workspace}
    (ran : Yields (buildSchema setting plugins) .initial schema after) :
    TablesSettled setting allowed adds schema := by
  unfold buildSchema at ran
  simp only [yields_bind_iff, yields_ofExcept_iff, yields_ofPipeline_iff, yields_ofPhase_iff,
    yields_get_iff] at ran
  obtain ⟨_, _, ⟨-, rfl⟩, engine, start, ranRegister, capabilities, _, ⟨-, rfl⟩,
    state, shared, ranState, contributed, last, ranTypes, _, _, ⟨rfl, rfl⟩, assembled, rfl⟩ := ran
  obtain ⟨prepared, finishes⟩ := prepares ranRegister
  have sound := prepared.run.sound .initial
  have early := prepared.asks_state _ _ ranState
  obtain ⟨late, tables⟩ :=
    prepared.yields_types permits (finishes state) (early.grows sound) (early.sound sound) ranTypes
  obtain ⟨fixed, same, gathered⟩ := Schema.assemble_eq_ok assembled
  rw [← same] at late tables gathered
  exact ⟨fixed, (prepared.run.trans early).trans late, tables, contributed, gathered⟩

end Builds

end CatalogSchema
