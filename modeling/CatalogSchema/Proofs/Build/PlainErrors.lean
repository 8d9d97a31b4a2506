/-
**Errors that wrap none.**

Most of what can go wrong in a step of a build is found by the step itself, and then the error is
plain: it wraps no other error, and is none of resolving a type. Below, what is known of plain
errors and of the errors of the resolutions and phases inside a step is known of all errors of the
step.

* `BuildError.Plain`, `PipelineError.Plain`: the plain errors.
* `StandardTypes.throws_register`, `Tables.throws_buildTables`, `NodeIds.throws_addField`: the steps
  of the plugins at hand.
* `BuildEngine.concludes_addHook`: adding a hook.
* `throws_buildSchema`: a build, given what is known of its plugins and of its phases.
-/

import CatalogSchema.Plugin.NodeIds
import CatalogSchema.Plugin.StandardTypes
import CatalogSchema.Plugin.Tables
import CatalogSchema.Proofs.Build.Hooks
import CatalogSchema.Proofs.Resolution.Faults

namespace CatalogSchema

open Build

/-- An error of a phase that wraps none. -/
def PipelineError.Plain : PipelineError → Prop
  | .hookFailed _ _ _ | .fieldDefinition _ _ => False
  | _ => True

/-- An error of a build that wraps none, and is none of resolving a type. -/
def BuildError.Plain : BuildError → Prop
  | .configuration _ | .duplicateOverride _ | .duplicateTypeName _ => True
  | .pipeline error => error.Plain
  | _ => False

/-! ### Capabilities, fields and hooks -/

namespace Capabilities

variable {state : BuildState} {error : PipelineError}

theorem plain_of_addAll {label : String} {entries : SortedMap String (Capability Shared)}
    {additions : List (String × Shared)} (refused : addAll label entries additions = .error error) :
    error.Plain := by
  induction additions generalizing entries with
  | nil => cases refused
  | cons addition rest ih =>
    unfold addAll at refused
    split at refused
    · cases refused
      trivial
    · exact ih refused

theorem plain_of_extend {additions : List (String × Shared)} {label : String}
    (refused : state.extend additions label = .error error) : error.Plain := by
  unfold extend at refused
  cases added : addAll label state.entries additions with
  | error other =>
    rw [added] at refused
    cases refused
    exact plain_of_addAll added
  | ok entries =>
    rw [added] at refused
    cases refused

theorem plain_of_require {β : Type} {select : Shared → Option β} {key : String}
    (refused : state.require select key = .error error) : error.Plain := by
  unfold require at refused
  split at refused
  · cases refused
    trivial
  · split at refused <;> cases refused
    trivial

end Capabilities

theorem FieldSet.plain_of_insert {S : Type} {fields : FieldSet S} {field : FieldDefinition S}
    {error : PipelineError} (refused : fields.insert field = .error error) : error.Plain := by
  unfold FieldSet.insert at refused
  split at refused <;> cases refused
  trivial

theorem HookEngine.plain_of_register {family : PhaseFamily} {m : Type → Type}
    {engine : HookEngine family m} {phase : String} {signature : family.Signature}
    {hook : Hook family m signature} {error : PipelineError}
    (refused : engine.register phase hook = .error error) : error.Plain := by
  unfold register at refused
  split at refused
  · cases refused
  · split at refused
    · cases refused
      trivial
    · split at refused <;> cases refused
      trivial

/-- **Defining a field**: the errors of its definition, in the field's name, and those of its
completion. -/
theorem FieldTracker.throws_define {σ S : Type} {fault : PipelineError → Prop}
    {tracker : FieldTracker (StateM σ) S} {name : String}
    {definition : FieldContext → ExceptT HookError (StateM σ) S}
    (defined : ∀ within,
      Throws (fun error => fault (.fieldDefinition (tracker.owner ++ "." ++ name) error))
      (definition within))
    (finish : ∀ value within, Throws fault (tracker.finish value within)) (tags : FieldScope) :
    Throws fault (tracker.define name tags definition) := by
  unfold FieldTracker.define
  refine .bind (.adapt (defined _) fun _ known => known) fun value _ => ?_
  exact .bind (finish value _) fun _ _ => .pure trivial

/-- **A phase**: the errors of its hooks, in the names of the phase and of the hook. -/
theorem BuildEngine.throws_runPhase {engine : BuildEngine} (proper : engine.Proper)
    {phase : BuildPhase} {fault : PipelineError → Prop} {context : phase.Context}
    (each : ∀ hook ∈ engine.hooks phase, ∀ value,
      Throws (fun error => fault (.hookFailed phase.name hook.name error))
        (hook.handler value context))
    (initial : phase.Artifact) : Throws fault (engine.runPhase phase initial context) := by
  rw [runPhase_eq proper]
  -- The hooks are run in a row; nothing is asked of the value that they fold.
  refine Concludes.foldlM trivial fun hook listed value _ => ?_
  exact (each hook listed value).adapt fun _ known => known

/-! ### Steps of a build -/

section Steps

variable {α : Type} {fault : BuildError → Prop}

theorem throws_ofResolve {step : Resolve α} (throws : Throws fault step) :
    Throws fault (ofResolve step) :=
  fun workspace => throws workspace.registry

theorem throws_ofExcept {outcome : Except BuildError α}
    (each : ∀ error, outcome = .error error → fault error) :
    Throws fault (Build.ofExcept outcome) :=
  .outcome each fun _ _ => trivial

theorem throws_ofPhase {step : PhaseStep α}
    (throws : Throws (fun error => fault (.pipeline error)) step) :
    Throws fault (ofPhase step) :=
  throws.adapt fun _ known => known

theorem throws_make (build : TypePool → SchemaType × TypePool) : Throws fault (make build) :=
  throws_ofResolve (.modifyGet _)

theorem throws_updatePool {change : TypePool → Except BuildError TypePool}
    (each : ∀ pool error, change pool = .error error → fault error) :
    Throws fault (updatePool change) :=
  .bind .get fun _ _ => .bind (throws_ofExcept (each _)) fun _ _ => .modify _

variable (plain : ∀ error : BuildError, error.Plain → fault error)
include plain

theorem throws_ofPipeline {outcome : Except PipelineError α}
    (each : ∀ error, outcome = .error error → error.Plain) : Throws fault (ofPipeline outcome) :=
  throws_ofPhase
    (.outcome (fun error failed => plain (.pipeline error) (each error failed)) fun _ _ => trivial)

theorem throws_registerOverride (setting : Setting) (id : TypeId) (mapping : Override)
    (rule : ConflictRule) :
    Throws fault (ofResolve (Resolve.registerOverride setting id mapping rule)) := by
  refine throws_ofResolve ?_
  unfold Resolve.registerOverride
  refine .bind .get fun registry _ => ?_
  split
  · exact .throw (plain _ trivial)
  · split
    · split
      · exact .throw (plain _ trivial)
      · exact .pure trivial
    · exact .bind (.set _) fun _ _ => .pure trivial

/-- Fields are given to an object once. -/
theorem throws_setFields (type : SchemaType) (fields : List Field) :
    Throws fault (updatePool (·.setFields type fields)) := by
  refine throws_updatePool fun pool error refused => ?_
  unfold TypePool.setFields at refused
  split at refused
  · split at refused <;> cases refused
    exact plain _ trivial
  · cases refused

theorem throws_setInputFields (type : SchemaType) (fields : List InputField) :
    Throws fault (updatePool (·.setInputFields type fields)) := by
  refine throws_updatePool fun pool error refused => ?_
  unfold TypePool.setInputFields at refused
  split at refused
  · split at refused <;> cases refused
    exact plain _ trivial
  · cases refused

/-- **Adding a hook**: the engine has it then. -/
theorem BuildEngine.concludes_addHook {engine : BuildEngine} (proper : engine.Proper)
    {phase : BuildPhase} (name : String)
    (handler : phase.Artifact → phase.Context → HookStep phase.Artifact) :
    Concludes fault (fun changed => engine.Gains (.only phase ⟨name, handler⟩) changed)
      (engine.addHook phase name handler) := by
  refine fun workspace => ⟨?_, fun changed ended => ?_⟩
  · have throws : Throws fault (engine.addHook phase name handler) :=
      throws_ofPipeline plain fun _ refused => HookEngine.plain_of_register refused
    exact (throws workspace).1
  · have ran : Yields (engine.addHook phase name handler) workspace changed
        (runIn (engine.addHook phase name handler) workspace).2 := Prod.ext ended rfl
    exact (yields_addHook proper ran).2

end Steps

/-! ### Well-known types -/

namespace StandardTypes

variable {fault : BuildError → Prop} {setting : Setting}

theorem throws_makeShape (name : String) (description inputDescription : Option String)
    (members : List Member) :
    Throws fault (makeShape name description inputDescription members) :=
  .bind (throws_make _) fun _ _ => .bind (throws_make _) fun _ _ => .pure trivial

variable (plain : ∀ error : BuildError, error.Plain → fault error)
include plain

theorem throws_registerMapping (id : TypeId) (entry : TypeEntry) (codec : Option Codec) :
    Throws fault (registerMapping setting id entry codec) := by
  unfold registerMapping
  refine .bind (.optionMapM fun _ => throws_ofResolve (.modifyGet _)) fun _ _ => ?_
  exact .bind (throws_registerOverride plain _ _ _ _) fun _ _ => .pure trivial

theorem throws_registerGroup (group : ScalarGroup) : Throws fault (registerGroup setting group) :=
  .forM fun _ _ => throws_registerMapping plain _ _ _

theorem throws_register : Throws fault (register setting) := by
  unfold register makeInterval makePoint
  refine .bind (throws_makeShape _ _ _ _) fun interval _ => ?_
  refine .bind (.bind (throws_make _) fun _ _ => throws_makeShape _ _ _ _) fun point _ => ?_
  refine .bind (.forM fun group _ => throws_registerGroup plain group) fun _ _ => ?_
  refine .bind (.forM fun group _ => throws_registerGroup plain group) fun _ _ => ?_
  refine .bind (throws_registerGroup plain _) fun _ _ => ?_
  exact .bind (throws_registerMapping plain _ _ _) fun _ _ => throws_registerMapping plain _ _ _

end StandardTypes

/-! ### Row types -/

namespace Tables

section

variable {fault : BuildError → Prop} (plain : ∀ error : BuildError, error.Plain → fault error)
include plain

theorem throws_declare (setting : Setting) (table : Descriptor) :
    Throws fault (declare setting table) := by
  unfold declare
  refine .bind (throws_make _) fun _ _ => .bind (throws_make _) fun _ _ => ?_
  exact .bind (throws_registerOverride plain _ _ _ _) fun _ _ => .pure trivial

theorem throws_columnCodec (setting : Setting) (table : Descriptor) (column : Attribute) :
    Throws fault (columnCodec setting table column) := by
  unfold columnCodec
  refine .bind .get fun workspace _ => ?_
  split
  · exact .pure trivial
  · exact .throw (plain _ trivial)

variable {context : TypesContext} {tracker : FieldTracker (StateM Workspace) Field}

theorem throws_columnFields {column : Attribute}
    (resolves : Throws fault (Resolve.entry context.setting column.typeId))
    (finish : ∀ value within,
      Throws (fun error => fault (.pipeline error)) (tracker.finish value within))
    (table : Descriptor) : Throws fault (columnFields context tracker table column) := by
  unfold columnFields
  refine .bind (throws_ofResolve resolves) fun entry _ => ?_
  refine .bind (throws_columnCodec plain _ _ _) fun codec _ => ?_
  have defined (type : SchemaType) : Throws fault (do
      let name := context.setting.naming.columnField column.name
      let field ← Build.ofPhase
        (tracker.define name (.ofTags [(columnTag, .string column.name)]) fun field =>
          pure ⟨field.fieldName, column.description, type, .column column.name codec⟩)
      return (field, entry.input.map fun input =>
          (⟨name, column.description, input⟩ : InputField))) :=
    .bind (throws_ofPhase (FieldTracker.throws_define (fun _ => .pure trivial) finish _)) fun _ _ =>
      .pure trivial
  split
  · exact .bind (throws_make _) fun _ _ => defined _
  · exact .bind (.pure trivial) fun _ (_ : True) => defined _

theorem throws_columnsFields {columns : List Attribute}
    (resolves : ∀ column ∈ columns, Throws fault (Resolve.entry context.setting column.typeId))
    (finish : ∀ value within,
      Throws (fun error => fault (.pipeline error)) (tracker.finish value within))
    (table : Descriptor) (fields : FieldSet Field) (inputs : List InputField) :
    Throws fault (columnsFields context tracker table fields inputs columns) := by
  induction columns generalizing fields inputs with
  | nil => exact .pure trivial
  | cons column rest ih =>
    refine .bind (throws_columnFields plain (resolves column List.mem_cons_self) finish table)
      fun made _ => ?_
    refine .bind (throws_ofPipeline plain fun _ refused => FieldSet.plain_of_insert refused)
      fun _ _ => ?_
    exact ih (fun other listed => resolves other (.tail _ listed)) _ _

/-- **Giving a row type its fields**: the errors of resolving it and its columns, and those of the
phases. -/
theorem throws_buildTable {table : Descriptor}
    (own : Throws fault (Resolve.entry context.setting table.id))
    (resolves : ∀ column ∈ table.attributes,
      Throws fault (Resolve.entry context.setting column.typeId))
    (finishField : ∀ value within,
      Throws (fun error => fault (.pipeline error)) (context.finishField value within))
    (finishFields : ∀ fields typeName scope, Throws (fun error => fault (.pipeline error))
      (context.finishFields fields (context.objectContext table typeName scope))) :
    Throws fault (buildTable context table) := by
  unfold buildTable
  refine .bind (throws_ofResolve own) fun entry _ => ?_
  refine .bind (throws_columnsFields plain resolves finishField _ _ _) fun made _ => ?_
  refine .bind (throws_ofPhase (finishFields _ _ _)) fun fields _ => ?_
  refine .bind (throws_setFields plain _ _) fun _ _ => ?_
  split
  · exact .bind (throws_setInputFields plain _ _) fun _ _ => .pure trivial
  · exact .pure trivial

theorem throws_buildTables
    (own : ∀ table ∈ context.setting.catalog.composites,
      Throws fault (Resolve.entry context.setting table.id))
    (resolves : ∀ table ∈ context.setting.catalog.composites, ∀ column ∈ table.attributes,
      Throws fault (Resolve.entry context.setting column.typeId))
    (finishField : ∀ value within,
      Throws (fun error => fault (.pipeline error)) (context.finishField value within))
    (finishFields : ∀ table fields typeName scope, Throws (fun error => fault (.pipeline error))
      (context.finishFields fields (context.objectContext table typeName scope)))
    (contributed : List SchemaType) : Throws fault (buildTables contributed context) := by
  unfold buildTables
  refine .bind (.mapM fun table listed => ?_) fun _ _ => .pure trivial
  exact throws_buildTable plain (own table listed) (resolves table listed) finishField
    (finishFields table)

end

end Tables

/-! ### Identifiers -/

theorem NodeIds.throws_addField {fault : BuildError → Prop}
    (plain : ∀ error : BuildError, error.Plain → fault error) {context : ObjectContext}
    (finish : ∀ value within,
      Throws (fun error => fault (.pipeline error)) (context.finishField value within))
    (fields : FieldSet Field) : Throws fault (addField fields context) := by
  unfold addField
  dsimp only
  split
  · exact .pure trivial
  · refine .bind (throws_ofPipeline plain fun _ refused => Capabilities.plain_of_require refused)
      fun table _ => ?_
    refine .bind (throws_make _) fun type _ => ?_
    refine .bind (throws_ofPhase (FieldTracker.throws_define (fun _ => .pure trivial) finish _))
      fun field _ => ?_
    exact throws_ofPipeline plain fun _ refused => FieldSet.plain_of_insert refused

/-! ### Builds -/

/-- Two types with one name are the only fault of a collection. -/
theorem plain_of_collectFrom {fields : FieldTypes} {known : SortedMap String SchemaType}
    {pending : List SchemaType} {error : BuildError}
    (failed : collectFrom fields known pending = .error error) :
    error.Plain := by
  fun_induction collectFrom fields known pending with
  | case1 => cases failed
  | case4 =>
    cases failed
    trivial
  | _ => rename_i ih; exact ih failed

theorem plain_of_assemble {setting : Setting} {workspace : Workspace} {state : BuildState}
    {contributed : List SchemaType} {error : BuildError}
    (failed : Schema.assemble setting workspace state contributed =
      .error error) : error.Plain := by
  unfold Schema.assemble at failed
  cases collected :
    collectNamed workspace.registry.pool (workspace.registry.resolvedTypes ++ contributed) with
  | error other =>
    rw [collected] at failed
    cases failed
    exact plain_of_collectFrom collected
  | ok types =>
    rw [collected] at failed
    cases failed

theorem Config.plain_of_validate {config : Config} {error : BuildError}
    (refused : config.validate = .error error) :
    error.Plain := by
  unfold validate at refused
  split at refused
  · cases refused
    trivial
  · split at refused <;> cases refused
    trivial

section Builds

variable {fault : BuildError → Prop} (plain : ∀ error : BuildError, error.Plain → fault error)
  {Holds : BuildEngine → Prop} {setting : Setting} {plugins : List Plugin}
include plain

/-- **Plugins one after the other**: what each keeps of the engine, all keep. -/
theorem concludes_registerPlugins {engine : BuildEngine} (start : Holds engine)
    (each : ∀ plugin ∈ plugins, ∀ engine, Holds engine →
      Concludes fault Holds (plugin.register setting engine)) (names : List String) :
    Concludes fault Holds (registerPlugins setting names engine plugins) := by
  induction plugins generalizing names engine with
  | nil => exact .pure start
  | cons plugin rest ih =>
    unfold registerPlugins
    split
    · exact .bind (.throw (plain _ trivial)) fun _ (impossible : False) => impossible.elim
    · refine .bind (each plugin List.mem_cons_self engine start) fun _ kept => ?_
      exact ih kept (fun other listed => each other (.tail _ listed)) _

/-- **A build**: the errors of its plugins, of the state phase and of the types phase. -/
theorem throws_buildSchema (start : Holds HookEngine.empty)
    (each : ∀ plugin ∈ plugins, ∀ engine, Holds engine →
      Concludes fault Holds (plugin.register setting engine))
    (state : ∀ engine, Holds engine →
      ∀ initial context, Throws (fun error => fault (.pipeline error))
      (engine.runPhase .state initial context))
    (types : ∀ engine, Holds engine → ∀ state, Throws (fun error => fault (.pipeline error))
      (engine.runPhase .types [] (engine.typesContext setting state))) :
    Throws fault (buildSchema setting plugins) := by
  unfold buildSchema
  refine .bind (throws_ofExcept fun error refused => plain error (Config.plain_of_validate refused))
    fun _ _ => ?_
  refine .bind (concludes_registerPlugins plain start each []) fun engine holds => ?_
  refine .bind (throws_ofPipeline plain fun _ refused => Capabilities.plain_of_extend refused)
    fun initial _ => ?_
  refine .bind (throws_ofPhase (state engine holds _ _)) fun reached _ => ?_
  refine .bind (throws_ofPhase (types engine holds reached)) fun contributed _ =>
    .bind .get fun workspace _ => ?_
  exact throws_ofExcept fun error failed => plain error (plain_of_assemble failed)

end Builds

end CatalogSchema
