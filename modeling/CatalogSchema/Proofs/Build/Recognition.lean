/-
**The depth errors of a build are recognised.**

A hook is candid if the depth errors among its errors are recognised. A hook of the fields phase may
pass on the error of the field phase as it is, so hooks of the field phase must not fail by the
depth limit at all. Hooks that are candid make phases that are, and the plugins at hand add candid
hooks only.

* `BuildEngine.Candid.runPhase`: the errors of a phase.
* `Plugin.candid_standardTypes`, `candid_tables`, `candid_nodeIds`, `candid_script`: the plugins at
  hand.
* `recognises_buildSchema`: the errors of a build with candid plugins.
-/

import CatalogSchema.Plugin.Script
import CatalogSchema.Proofs.Build.PlainErrors
import CatalogSchema.Proofs.Build.Wrapping
import CatalogSchema.Proofs.Resolution.History

namespace CatalogSchema

open Build

/-! ### Errors that wrap none, and errors of resolution -/

theorem PipelineError.Plain.shallow {error : PipelineError}
    (plain : error.Plain) : error.Shallow := by
  cases error with
  | hookFailed | fieldDefinition => exact plain.elim
  | _ => exact not_endsInLimit_singleton (by decide)

theorem BuildError.Plain.recognised (error : BuildError) (plain : error.Plain) :
    error.Recognised := by
  cases error with
  | configuration | duplicateOverride | duplicateTypeName => exact fun _ => trivial
  | pipeline error => exact (PipelineError.Plain.shallow plain).recognised.pipeline
  | missingDescriptor | enumNameCollision | recursionLimit | typeResolution => exact plain.elim

/-- Resolution runs no phase, so none of its errors wraps the error of one. -/
theorem ResolutionFault.recognised {setting : Setting} {id : TypeId} {referrer : String}
    {error : BuildError} (fault : ResolutionFault setting id referrer error) :
    error.Recognised := by
  cases fault with
  | unknown | tooDeep => exact fun _ => trivial
  | within met because =>
    refine BuildError.Recognised.typeResolution (fun _ => ?_) _ _
    cases because with
    | missing | configuration | collision => trivial

/-! ### Steps of a build -/

namespace Build

variable {α : Type}

/-- A step of a build whose errors are recognised. -/
abbrev Recognises (step : Build α) : Prop := Throws BuildError.Recognised step

theorem recognises_entry (setting : Setting) (id : TypeId) :
    Throws BuildError.Recognised (Resolve.entry setting id) :=
  Resolve.throws_entry fun _ fault => fault.recognised

/-- The errors of a phase, as errors of the build. -/
theorem throws_pipeline {step : PhaseStep α} (recognises : Throws PipelineError.Recognised step) :
    Throws (fun error => (BuildError.pipeline error).Recognised) step :=
  recognises.mono (fun _ found => found.pipeline) fun _ _ => trivial

/-- A phase without depth errors has none that is overlooked. -/
theorem throws_recognised {σ : Type} {step : ExceptT PipelineError (StateM σ) α}
    (shallow : Throws PipelineError.Shallow step) : Throws PipelineError.Recognised step :=
  shallow.mono (fun _ found => found.recognised) fun _ _ => trivial

theorem throws_inHook {step : Build α} (recognises : Recognises step) :
    Throws HookError.Recognised step.inHook :=
  .adapt recognises fun _ found => found

theorem throws_phaseInHook {step : PhaseStep α} (shallow : Throws PipelineError.Shallow step) :
    Throws HookError.Recognised step.inHook :=
  .adapt shallow fun _ found => PipelineError.Shallow.passed found

end Build

/-! ### Hooks -/

/-- What is asked of the errors of a hook, by its phase. -/
def BuildPhase.HookFault : BuildPhase → HookError → Prop
  | .field => HookError.Shallow
  | _ => HookError.Recognised

/-- What is known of the errors of a phase. -/
def BuildPhase.Fault : BuildPhase → PipelineError → Prop
  | .field => PipelineError.Shallow
  | _ => PipelineError.Recognised

/-- A hook of the fields phase is told of a field phase without depth errors. -/
def ObjectContext.Candid (context : ObjectContext) : Prop :=
  ∀ field within, Throws PipelineError.Shallow (context.finishField field within)

/-- A hook of the types phase is told of phases whose depth errors are recognised. -/
structure TypesContext.Candid (context : TypesContext) : Prop where
  field : ∀ field within, Throws PipelineError.Shallow (context.finishField field within)
  fields : ∀ fields object, ObjectContext.Candid object →
    Throws PipelineError.Recognised (context.finishFields fields object)

/-- What the hooks of a phase may rely on. -/
def BuildPhase.Admits : (phase : BuildPhase) → phase.Context → Prop
  | .types, context => TypesContext.Candid context
  | .fields, context => ObjectContext.Candid context
  | .state, _ => True
  | .field, _ => True

/-- **A candid hook**: its depth errors are recognised, and in the field phase it has none. -/
def Hook.Candid {phase : BuildPhase}
    (hook : Hook BuildPhase.family (StateM Workspace) phase) : Prop :=
  ∀ value context, phase.Admits context → Throws phase.HookFault (hook.handler value context)

/-- An engine with candid hooks. -/
structure BuildEngine.Candid (engine : BuildEngine) : Prop where
  proper : engine.Proper
  hooks : ∀ phase, ∀ hook ∈ engine.hooks phase, Hook.Candid hook

/-- The error of a hook, in the phase that runs it. -/
theorem BuildPhase.fault_hookFailed {phase : BuildPhase} {source : HookError}
    (fault : phase.HookFault source) (name hook : String) :
    phase.Fault (.hookFailed name hook source) := by
  cases phase with
  | field => exact HookError.Shallow.hookFailed fault name hook
  | state | types | fields => exact HookError.Recognised.hookFailed fault name hook

namespace BuildEngine

variable {engine changed : BuildEngine} {phase : BuildPhase}

/-- **A phase of candid hooks.** -/
theorem Candid.runPhase (candid : engine.Candid) {context : phase.Context}
    (admits : phase.Admits context) (initial : phase.Artifact) :
    Throws phase.Fault (engine.runPhase phase initial context) := by
  refine throws_runPhase candid.proper (fun hook listed value => ?_) initial
  have step : Throws phase.HookFault (hook.handler value context) :=
    candid.hooks phase hook listed value context admits
  exact step.mono (fun _ fault => BuildPhase.fault_hookFailed fault _ _) fun _ _ => trivial

/-- What such an engine tells the hooks of the types phase. -/
theorem Candid.typesContext (candid : engine.Candid) (setting : Setting) (state : BuildState) :
    (engine.typesContext setting state).Candid where
  field field within := @Candid.runPhase engine .field candid within trivial field
  fields fields object admits := @Candid.runPhase engine .fields candid object admits fields

theorem Candid.gains (candid : engine.Candid) {added : AddedHooks}
    (gains : engine.Gains added changed) (each : ∀ phase, ∀ hook ∈ added phase, Hook.Candid hook) :
    changed.Candid where
  proper := gains.proper
  hooks phase hook listed := by
    rw [gains.hooks, List.mem_append] at listed
    exact listed.elim (candid.hooks phase hook) (each phase hook)

theorem candid_only {hook : Hook BuildPhase.family (StateM Workspace) phase}
    (candid : hook.Candid) :
    ∀ other, ∀ added ∈ AddedHooks.only phase hook other, Hook.Candid added := by
  intro other added listed
  by_cases same : phase = other
  · subst same
    rw [AddedHooks.only_self, List.mem_singleton] at listed
    rwa [listed]
  · rw [AddedHooks.only_of_ne same] at listed
    cases listed

/-- **Adding a candid hook.** -/
theorem Candid.addHook (candid : engine.Candid) {name : String}
    {handler : phase.Artifact → phase.Context → HookStep phase.Artifact}
    (hook : Hook.Candid (⟨name, handler⟩ : Hook BuildPhase.family (StateM Workspace) phase)) :
    Concludes BuildError.Recognised Candid (engine.addHook phase name handler) :=
  (concludes_addHook BuildError.Plain.recognised candid.proper name handler).mono
    (fun _ known => known) fun _ gains => candid.gains gains (candid_only hook)

theorem candid_empty : Candid HookEngine.empty where
  proper := proper_empty
  hooks _ _ listed := nomatch listed

end BuildEngine

/-! ### The plugins at hand -/

/-- **A candid plugin**: its own depth errors are recognised, and it adds candid hooks only. -/
def Plugin.Candid (plugin : Plugin) (setting : Setting) : Prop :=
  ∀ engine : BuildEngine, engine.Candid →
    Concludes BuildError.Recognised BuildEngine.Candid (plugin.register setting engine)

theorem Plugin.candid_standardTypes (setting : Setting) : Plugin.standardTypes.Candid setting :=
  fun _ candid => .bind (StandardTypes.throws_register BuildError.Plain.recognised) fun _ _ =>
    .pure candid

theorem Plugin.candid_tables (setting : Setting) : Plugin.tables.Candid setting := by
  intro engine candid
  refine .bind (.forM fun table _ =>
    Tables.throws_declare BuildError.Plain.recognised setting table)
    fun _ _ => candid.addHook ?_
  intro contributed context admits
  have resolves (id : TypeId) : Throws BuildError.Recognised (Resolve.entry context.setting id) :=
    recognises_entry context.setting id
  refine throws_inHook (Tables.throws_buildTables BuildError.Plain.recognised
    (fun _ _ => resolves _)
    (fun _ _ _ _ => resolves _) (fun value within => ?_) (fun table fields typeName scope => ?_)
      contributed)
  · exact throws_pipeline (throws_recognised (admits.field value within))
  · exact throws_pipeline (admits.fields _ _ admits.field)

theorem Plugin.candid_nodeIds (setting : Setting) (aliases : List (String × String)) :
    (Plugin.nodeIds aliases).Candid setting := by
  intro engine candid
  refine .bind (candid.addHook fun state _ _ => ?_) fun changed candid =>
    candid.addHook fun fields context admits => ?_
  · refine .bind (throws_inHook (.modifyGet _)) fun table _ =>
      throws_phaseInHook (.outcome ?_ fun _ _ => trivial)
    exact fun _ refused => (Capabilities.plain_of_extend refused).shallow
  · exact throws_inHook (NodeIds.throws_addField BuildError.Plain.recognised
      (fun value within => throws_pipeline (throws_recognised (admits value within))) fields)

/-! ### Scripts -/

namespace Script

theorem throws_failWith (failure : Option String) :
    Throws HookError.Shallow (failWith failure) := by
  cases failure with
  | none => exact .pure trivial
  | some text => exact .throw (HookError.shallow_message text)

theorem recognises_failWith (failure : Option String) :
    Throws HookError.Recognised (failWith failure) :=
  (throws_failWith failure).mono (fun _ shallow => shallow.recognised) fun _ _ => trivial

/-- A notice is always left. -/
theorem throws_report {fault : HookError → Prop} (notice : Notice) :
    Throws fault (report notice).inHook :=
  .adapt (.modify _) fun _ (failed : False) => failed.elim

variable {plugin : String} {setting : Setting}

theorem StateHook.candid (hook : StateHook) :
    Hook.Candid
      (⟨hook.hook, hook.run plugin⟩ : Hook BuildPhase.family (StateM Workspace) .state) := by
  intro state context _
  refine .bind (throws_report _) fun _ _ => .bind (recognises_failWith _) fun _ _ => ?_
  exact throws_phaseInHook
    (.outcome (fun _ refused => (Capabilities.plain_of_extend refused).shallow) fun _ _ => trivial)

theorem TypesHook.recognises_contribution (hook : TypesHook) :
    Recognises (hook.contribution setting) := by
  unfold TypesHook.contribution
  refine .bind (.mapM fun id _ => throws_ofResolve (Resolve.throws_output (recognises_entry _ id)))
    fun _ _ => ?_
  refine .bind (.mapM fun id _ =>
    throws_ofResolve (Resolve.throws_setOutput (recognises_entry _ id)))
    fun _ _ => ?_
  exact .pure trivial

theorem TypesHook.candid (hook : TypesHook) :
    Hook.Candid
      (⟨hook.hook, hook.run plugin⟩ : Hook BuildPhase.family (StateM Workspace) .types) := by
  intro contributed context _
  refine .bind (throws_report _) fun _ _ =>
    .bind (throws_inHook hook.recognises_contribution) fun types _ => ?_
  have last : Throws HookError.Recognised (do
      failWith hook.failure
      return contributed ++ types) :=
    .bind (recognises_failWith _) fun _ _ => .pure trivial
  split
  · refine .bind (throws_phaseInHook (.outcome ?_ fun _ _ => trivial)) fun _ (_ : True) => last
    exact fun _ refused => (Capabilities.plain_of_require refused).shallow
  · exact last

theorem AddedField.throws_addTo {context : ObjectContext} (candid : context.Candid)
    (added : AddedField) (scope : FieldScope) (fields : FieldSet Field) :
    Throws HookError.Recognised (added.addTo context scope fields) := by
  unfold AddedField.addTo
  refine .bind (throws_inHook (throws_ofResolve (Resolve.throws_output (recognises_entry _ _))))
    fun type _ => ?_
  -- The error of the field phase is passed on as it is.
  refine throws_phaseInHook (.bind (FieldTracker.throws_define (fun _ => .pure trivial)
    (fun value within => ?_) _) fun field _ => ?_)
  · exact candid value within
  · exact .outcome (fun _ refused => (FieldSet.plain_of_insert refused).shallow) fun _ _ => trivial

theorem FieldsHook.candid (hook : FieldsHook) :
    Hook.Candid
      (⟨hook.hook, hook.run plugin⟩ : Hook BuildPhase.family (StateM Workspace) .fields) := by
  intro fields context admits
  refine .bind (throws_report _) fun _ _ => .bind (recognises_failWith _) fun _ _ => ?_
  split
  · exact .pure trivial
  · exact .foldlM trivial fun added _ fields _ => added.throws_addTo admits _ fields

theorem FieldHook.candid (hook : FieldHook) :
    Hook.Candid
      (⟨hook.hook, hook.run plugin⟩ : Hook BuildPhase.family (StateM Workspace) .field) := by
  intro field context _
  -- Of all that this hook does, it fails with a text alone.
  refine .bind (throws_report _) fun _ _ => .bind (throws_failWith _) fun _ _ => ?_
  have made (build : TypePool → SchemaType × TypePool) :
      Throws HookError.Shallow (make build).inHook :=
    .adapt (fun workspace => ⟨nofun, fun _ _ => trivial⟩) fun _ (failed : False) => failed.elim
  dsimp only
  split
  · exact .bind (made _) fun _ _ => .pure trivial
  · exact .bind (.pure trivial) fun _ (_ : True) => .pure trivial

theorem Action.recognises_perform {engine : BuildEngine} (candid : engine.Candid)
    (action : Action) :
    Concludes BuildError.Recognised BuildEngine.Candid (action.perform plugin setting engine) := by
  cases action with
  | override id mapping rule =>
    refine .bind (throws_registerOverride BuildError.Plain.recognised _ _ _ _) fun taken _ => ?_
    exact .bind (.modify _) fun _ _ => .pure candid
  | refuse text => exact .throw fun _ => trivial
  | onState hook => exact candid.addHook hook.candid
  | onTypes hook => exact candid.addHook hook.candid
  | onFields hook => exact candid.addHook hook.candid
  | onField hook => exact candid.addHook hook.candid

end Script

theorem Plugin.candid_script (setting : Setting) (name : String) (actions : List Script.Action) :
    (Plugin.script name actions).Candid setting :=
  fun _ candid => .foldlM candid fun action _ _ candid => action.recognises_perform candid

/-! ### Builds -/

/-- **The depth errors of a build with candid plugins are recognised.** -/
theorem recognises_buildSchema {setting : Setting} {plugins : List Plugin}
    (each : ∀ plugin ∈ plugins, plugin.Candid setting) :
    Recognises (buildSchema setting plugins) := by
  refine throws_buildSchema BuildError.Plain.recognised BuildEngine.candid_empty each ?_ ?_
  · exact fun engine candid initial context =>
      throws_pipeline (@BuildEngine.Candid.runPhase engine .state candid context trivial initial)
  · exact fun engine candid state => throws_pipeline
      (@BuildEngine.Candid.runPhase engine .types candid _ (candid.typesContext setting state) _)

/-- **Which depth errors are recognised**: those behind hooks that made a build error of what they
passed on. In a build all of them are, if its plugins are candid, as the plugins at hand are. -/
theorem depth_errors_recognised (error : BuildError) :
    (error.isRecursionLimit = true ↔ EndsInLimit error.chain ∧ error.Converted) ∧
    (∀ setting plugins, (∀ plugin ∈ plugins, plugin.Candid setting) → ∀ workspace,
      (runIn (buildSchema setting plugins) workspace).1 = .error error →
        (error.isRecursionLimit = true ↔ EndsInLimit error.chain)) ∧
    ∀ setting, Plugin.standardTypes.Candid setting ∧ Plugin.tables.Candid setting ∧
      (∀ aliases, (Plugin.nodeIds aliases).Candid setting) ∧
      ∀ name actions, (Plugin.script name actions).Candid setting := by
  refine ⟨error.isRecursionLimit_iff,
    fun setting plugins candid workspace failed => ?_, fun setting => ?_⟩
  · exact ((recognises_buildSchema candid workspace).1 error failed).iff
  · exact ⟨Plugin.candid_standardTypes setting, Plugin.candid_tables setting,
      Plugin.candid_nodeIds setting, Plugin.candid_script setting⟩

/-- A domain over itself, within one level. -/
def loopSetting : Setting where
  catalog := ⟨.ofList [
    (300, { Descriptor.plain 300 "app" "loop" .domain Category.string with
      domainBase := some 300 })]⟩
  naming := .qualified
  config := { Config.default with depthLimit := 1 }
  scalars := .make false

/-- A script with a hook that resolves the domain. -/
def resolvingPlugin : Plugin :=
  .script "Resolving" [.onTypes {
    hook := "resolves", resolved := [300], sets := [], made := [], required := none,
    failure := none }]

/-- A build with a candid plugin that fails by the depth limit. -/
theorem depth_errors_recognised_script :
    ∃ error, (runIn (buildSchema loopSetting [resolvingPlugin]) .initial).1 = .error error ∧
      EndsInLimit error.chain ∧ error.isRecursionLimit = true := by
  obtain ⟨error, failed, ended⟩ :=
    exists_of_failsWith (fun error => decide (EndsInLimit error.chain))
    (runIn (buildSchema loopSetting [resolvingPlugin]) .initial).1 (by decide +kernel)
  rw [decide_eq_true_eq] at ended
  obtain ⟨-, ofBuild, candid⟩ := depth_errors_recognised error
  refine ⟨error, failed, ended, (ofBuild loopSetting [resolvingPlugin] ?_ .initial failed).2 ended⟩
  rw [List.forall_mem_singleton]
  exact (candid loopSetting).2.2.2 _ _

/-- A plugin with a hook that resolves the domain, and one that runs the phase of the former and
passes its error on as it is. -/
def passingPlugin : Plugin where
  name := "Passing"
  register _ engine := do
    let engine ← engine.addHook .fields "resolves" fun fields context => do
      let _ ← (Build.ofResolve (Resolve.output context.setting 300)).inHook
      return fields
    engine.addHook .types "passes" fun contributed context => do
      let owner : Descriptor := .plain 301 "app" "owner" .composite Category.composite
      let _ ← PhaseStep.inHook
        (context.finishFields (.empty "Owner") (context.objectContext owner "Owner" .empty))
      return contributed

/-- A build that fails by the depth limit, and is not recognised to do so. -/
theorem depth_error_overlooked :
    ∃ error, (runIn (buildSchema loopSetting [passingPlugin]) .initial).1 = .error error ∧
      error.chain = ["Pipeline", "HookFailed", "HookFailed", "RecursionLimit"] ∧
      EndsInLimit error.chain ∧ error.isRecursionLimit = false := by
  obtain ⟨error, failed, overlooked⟩ := exists_of_failsWith
    (fun error => decide
      (error.chain = ["Pipeline", "HookFailed", "HookFailed", "RecursionLimit"]) &&
      !error.isRecursionLimit)
    (runIn (buildSchema loopSetting [passingPlugin]) .initial).1 (by decide +kernel)
  rw [Bool.and_eq_true, decide_eq_true_eq, Bool.not_eq_true'] at overlooked
  obtain ⟨kinds, overlooked⟩ := overlooked
  exact ⟨error, failed, kinds, by rw [kinds]; decide, overlooked⟩

end CatalogSchema
