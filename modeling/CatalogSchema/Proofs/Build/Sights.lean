/-
**What the hooks of a build see of its fields.**

The plugins for row types and for identifiers define one field for each column and one for each
primary key, under tags that name the row type and the column. A record of the hooks that run on
fields grows by just these fields, in the order of the catalog, and by the fields that other plugins
add.

* `Tables.sights`: what there is to see of a row type. Building it records just that
  (`records_buildTable`).
* `AddedHooks.Benign`: hooks whose fields, if they define any, are extra.
* `Plugin.Brings`: registering a plugin brings its hooks; `brings_registerPlugins` is about several.
* `Watched`: the engine when the plugins have registered; what its phases record.
-/

import CatalogSchema.Proofs.Build.Phases
import CatalogSchema.Proofs.Build.Recording

namespace CatalogSchema

open Build

/-! ### What there is to see -/

namespace Tables

/-- The tags of the field of a column. -/
def columnScope (table : Descriptor) (column : Attribute) : FieldScope :=
  .ofTags [(tableTag, .bool true), (typeTag, .string table.displayName),
    (columnTag, .string column.name)]

/-- The fields of the columns of a row type. -/
def columnSights (setting : Setting) (table : Descriptor) : List Sight :=
  table.attributes.map fun column =>
    ⟨setting.naming.columnField column.name, columnScope table column⟩

theorem over_tableScope (table : Descriptor) (column : Attribute) :
    (FieldScope.ofTags [(columnTag, .string column.name)]).«over» (tableScope table) =
      columnScope table column := rfl

theorem toList_columnScope (table : Descriptor) (column : Attribute) :
    (columnScope table column).toList = [(tableTag, .bool true), (columnTag, .string column.name),
      (typeTag, .string table.displayName)] := by
  simp only [columnScope, FieldScope.toList, FieldScope.ofTags, FieldScope.withTag,
    FieldScope.empty, tableTag, typeTag, columnTag, List.foldl_cons, List.foldl_nil,
    SortedMap.insert, SortedMap.insertEntry, SortedMap.empty, String.reduceLT, if_true, if_false]

end Tables

namespace NodeIds

/-- The tags of the identifier of a row type. -/
def nodeScope (table : Descriptor) : FieldScope :=
  .ofTags [(Tables.tableTag, .bool true), (Tables.typeTag, .string table.displayName),
    (nodeIdTag, .bool true)]

/-- The field of the identifier, if there is a primary key, over the tags of its object. -/
def sightsOver (table : Descriptor) (scope : FieldScope) : List Sight :=
  if table.primaryKey.isEmpty then []
  else [⟨fieldName, (FieldScope.ofTags [(nodeIdTag, .bool true)]).«over» scope⟩]

/-- The field of the identifier of a row type, if it has a primary key. -/
def sights (table : Descriptor) : List Sight :=
  if table.primaryKey.isEmpty then [] else [⟨fieldName, nodeScope table⟩]

theorem toList_nodeScope (table : Descriptor) :
    (nodeScope table).toList = [(nodeIdTag, .bool true), (Tables.tableTag, .bool true),
      (Tables.typeTag, .string table.displayName)] := by
  simp only [nodeScope, FieldScope.toList, FieldScope.ofTags, FieldScope.withTag, FieldScope.empty,
    Tables.tableTag, Tables.typeTag, nodeIdTag, List.foldl_cons, List.foldl_nil, SortedMap.insert,
    SortedMap.insertEntry, SortedMap.empty, String.reduceLT, if_true, if_false]

end NodeIds

/-- All fields of a row type, its columns and then its identifier. -/
def Tables.sights (setting : Setting) (table : Descriptor) : List Sight :=
  Tables.columnSights setting table ++ NodeIds.sights table

/-- All fields of the row types of a catalog. -/
def Setting.sights (setting : Setting) : List Sight :=
  setting.catalog.composites.flatMap (Tables.sights setting)

/-! ### Definitions -/

section Definitions

variable {tracker : FieldTracker (StateM Workspace) Field} {before after : Workspace}

/-- A definition carries the scope under which it was made, whatever the hooks on it do. -/
theorem yields_define_sight {name : String} {tags : FieldScope}
    {definition : FieldContext → HookStep Field} {field : FieldDefinition Field}
    (ran : Yields (tracker.define name tags definition) before field after) :
    field.sight = ⟨name, tags.«over» tracker.scope⟩ := by
  unfold FieldTracker.define at ran
  simp only [yields_bind_iff, yields_pure_iff] at ran
  obtain ⟨_, _, -, _, _, -, rfl, -⟩ := ran
  rfl

theorem sights_of_insert {fields changed : FieldSet Field} {field : FieldDefinition Field}
    (added : fields.insert field = .ok changed) :
    changed.fields.map (·.sight) = fields.fields.map (·.sight) ++ [field.sight] := by
  unfold FieldSet.insert at added
  cases found : fields.find? field.name with
  | some other =>
    rw [found] at added
    cases added
  | none =>
    rw [found] at added
    cases added
    exact List.map_append ..

/-- **The definitions of columns** carry the scopes of their columns. -/
theorem Tables.sights_of_columnsFields {context : TypesContext} {table : Descriptor}
    (under : tracker.scope = tableScope table) {columns : List Attribute}
    {fields complete : FieldSet Field} {inputs results : List InputField}
    (ran : Yields (columnsFields context tracker table fields inputs columns)
      before (complete, results) after) :
    complete.fields.map (·.sight) = fields.fields.map (·.sight) ++ columns.map fun column =>
      ⟨context.setting.naming.columnField column.name, columnScope table column⟩ := by
  induction columns generalizing fields inputs before with
  | nil =>
    obtain ⟨same, -⟩ := yields_pure_iff.1 ran
    cases same
    exact (List.append_nil _).symm
  | cons column rest ih =>
    rw [columnsFields, columnFields_eq] at ran
    simp only [yields_bind_iff, yields_pure_iff, yields_ofPhase_iff, yields_ofPipeline_iff] at ran
    obtain ⟨_, _, ⟨_, _, -, _, _, -, _, _, -, field, _, defined, rfl, rfl⟩, more, _,
      ⟨added, rfl⟩, later⟩ :=
      ran
    rw [ih later, sights_of_insert added, yields_define_sight defined, under, over_tableScope,
      List.append_assoc]
    rfl

/-- **The definition of the identifier** carries the scope of the identifier. -/
theorem NodeIds.sights_of_addField {fields changed : FieldSet Field} {context : ObjectContext}
    (ran : Yields (addField fields context) before changed after) :
    changed.fields.map (·.sight) =
      fields.fields.map (·.sight) ++ sightsOver context.descriptor context.scope := by
  unfold addField at ran
  unfold sightsOver
  simp only [List.isEmpty_map] at ran
  split at ran
  · rename_i keyless
    obtain ⟨rfl, -⟩ := yields_pure_iff.1 ran
    rw [if_pos keyless, List.append_nil]
  · rename_i keyed
    simp only [yields_bind_iff, yields_ofPhase_iff, yields_ofPipeline_iff] at ran
    obtain ⟨_, _, -, _, _, -, field, _, defined, added, -⟩ := ran
    rw [if_neg keyed, sights_of_insert added, yields_define_sight defined]

end Definitions

/-! ### What steps record -/

section Recording

variable {extra : Sight → Prop} {record : Record}

/-- A field phase in which just the field itself is recorded. -/
def FinishesField (extra : Sight → Prop) (record : Record)
    (finish : Field → FieldContext → PhaseStep Field) : Prop :=
  ∀ field context, Records extra record (finish field context) [context.sight]

/-- A fields phase in which just the identifier of the object is recorded. -/
def FinishesFields (extra : Sight → Prop) (record : Record)
    (finish : FieldSet Field → ObjectContext → PhaseStep (FieldSet Field)) : Prop :=
  ∀ fields context, FinishesField extra record context.finishField →
    Records extra record (finish fields context)
      (NodeIds.sightsOver context.descriptor context.scope)

/-- **Defining a field** records it once, under its tags over those of its owner. -/
theorem records_define {tracker : FieldTracker (StateM Workspace) Field}
    (finishes : FinishesField extra record tracker.finish) (name : String) (tags : FieldScope)
    {definition : FieldContext → HookStep Field}
    (quiet : ∀ context, Records extra record (definition context) []) :
    Records extra record (tracker.define name tags definition)
      [⟨name, tags.«over» tracker.scope⟩] := by
  unfold FieldTracker.define
  exact ((quiet _).adapt _).then_records fun value =>
    (finishes value _).then_quiet fun _ => records_pure _

theorem records_columnFields {context : TypesContext}
    {tracker : FieldTracker (StateM Workspace) Field}
    (finishes : FinishesField extra record tracker.finish) {table : Descriptor}
    (under : tracker.scope = Tables.tableScope table) (column : Attribute) :
    Records extra record (Tables.columnFields context tracker table column)
      [⟨context.setting.naming.columnField column.name, Tables.columnScope table column⟩] := by
  have codec : Records extra record (Tables.columnCodec context.setting table column) [] := by
    unfold Tables.columnCodec
    refine records_get.then_records fun workspace => ?_
    cases workspace.registry.codecFor context.setting column.typeId with
    | ok served => exact records_pure _
    | error error => exact records_throw _ _
  have type (output : SchemaType) : Records extra record (Tables.columnType column output) [] := by
    unfold Tables.columnType
    split
    · exact records_make _
    · exact records_pure _
  rw [Tables.columnFields_eq, ← Tables.over_tableScope, ← under]
  refine (records_ofResolve _).then_records fun entry => ?_
  refine codec.then_records fun codec => (type entry.output).then_records fun type => ?_
  exact ((records_define finishes _ _ fun _ => records_pure _).adapt _).then_quiet fun _ =>
    records_pure _

theorem records_columnsFields {context : TypesContext}
    {tracker : FieldTracker (StateM Workspace) Field}
    (finishes : FinishesField extra record tracker.finish) {table : Descriptor}
    (under : tracker.scope = Tables.tableScope table) (columns : List Attribute)
    (fields : FieldSet Field) (inputs : List InputField) :
    Records extra record (Tables.columnsFields context tracker table fields inputs columns)
      (columns.map fun column =>
        ⟨context.setting.naming.columnField column.name, Tables.columnScope table column⟩) := by
  induction columns generalizing fields inputs with
  | nil => exact records_pure _
  | cons column rest ih =>
    unfold Tables.columnsFields
    refine (records_columnFields finishes under column).bind fun _ made _ _ => ?_
    exact (records_ofPipeline _).then_records fun more => ih more _

/-- **Building a row type** records its fields, in their order. -/
theorem records_buildTable {context : TypesContext}
    (finishesField : FinishesField extra record context.finishField)
    (finishesFields : FinishesFields extra record context.finishFields) (table : Descriptor) :
    Records extra record (Tables.buildTable context table)
      (Tables.sights context.setting table) := by
  unfold Tables.buildTable
  refine (records_ofResolve _).then_records fun entry => ?_
  refine (records_columnsFields finishesField rfl table.attributes _ _).bind fun _ made _ _ => ?_
  refine ((finishesFields _ _ finishesField).adapt _).then_quiet fun fields => ?_
  refine (records_updatePool _).then_records fun _ => ?_
  cases entry.input with
  | none => exact records_pure _
  | some input => exact (records_updatePool _).then_records fun _ => records_pure _

theorem records_buildTables {context : TypesContext}
    (finishesField : FinishesField extra record context.finishField)
    (finishesFields : FinishesFields extra record context.finishFields)
    (contributed : List SchemaType) :
    Records extra record (Tables.buildTables contributed context) context.setting.sights := by
  unfold Tables.buildTables
  exact (Records.mapM
    fun table _ => records_buildTable finishesField finishesFields table).then_quiet
    fun _ => records_pure _

theorem records_addField {context : ObjectContext}
    (finishes : FinishesField extra record context.finishField) (fields : FieldSet Field) :
    Records extra record (NodeIds.addField fields context)
      (NodeIds.sightsOver context.descriptor context.scope) := by
  unfold NodeIds.addField NodeIds.sightsOver
  simp only [List.isEmpty_map]
  split
  · exact records_pure _
  · refine (records_ofPipeline _).then_records fun table =>
      (records_make _).then_records fun type => ?_
    exact ((records_define finishes _ _ fun _ => records_pure _).adapt _).then_quiet fun _ =>
      records_ofPipeline _

theorem records_shareAliases (aliases : List (String × String)) (state : BuildState) :
    Records extra record (NodeIds.shareAliases aliases state) [] :=
  ((records_makeTable _).adapt _).then_records fun _ =>
    Records.adapt (records_of_keeps fun _ => rfl) _

end Recording

/-! ### Plugins -/

/-- Hooks that record extra sights at most, even when they define fields of their own. -/
structure AddedHooks.Benign (extra : Sight → Prop) (record : Record)
    (hooks : AddedHooks) : Prop where
  state : ∀ hook ∈ hooks .state,
    ∀ state context, Records extra record (hook.handler state context) []
  types : ∀ hook ∈ hooks .types, ∀ contributed context,
    FinishesField extra record context.finishField →
      FinishesFields extra record context.finishFields →
    Records extra record (hook.handler contributed context) []
  fields : ∀ hook ∈ hooks .fields,
    ∀ fields context, FinishesField extra record context.finishField →
    Records extra record (hook.handler fields context) []
  field : ∀ hook ∈ hooks .field,
    ∀ field context, Records extra record (hook.handler field context) []

/-- A plugin adds certain hooks whenever it registers, and registering records nothing. -/
structure Plugin.Brings (plugin : Plugin) (setting : Setting) (extra : Sight → Prop)
    (record : Record) (hooks : AddedHooks) : Prop where
  quiet : ∀ engine, Records extra record (plugin.register setting engine) []
  gains : ∀ ⦃engine before changed after⦄, engine.Proper →
    Yields (plugin.register setting engine) before changed after → engine.Gains hooks changed

/-- A plugin that leads to extra sights at most. -/
def Plugin.Benign (plugin : Plugin) (setting : Setting) (extra : Sight → Prop)
    (record : Record) : Prop :=
  ∃ hooks, plugin.Brings setting extra record hooks ∧ hooks.Benign extra record

/-- A plugin that registers a hook on the field phase, and besides leads to extra sights at most. -/
def Plugin.Watches (plugin : Plugin) (setting : Setting) (extra : Sight → Prop) (record : Record)
    (observer : Hook BuildPhase.family (StateM Workspace) BuildPhase.field) : Prop :=
  ∃ hooks rest : AddedHooks, plugin.Brings setting extra record hooks ∧ rest.Benign extra record ∧
    ∀ phase, (hooks phase).Perm (AddedHooks.only .field observer phase ++ rest phase)

/-- Each call of a hook leaves what it saw in the record, whatever else the hook does and even if it
fails. -/
def Observes (record : Record)
    (observer : Hook BuildPhase.family (StateM Workspace) BuildPhase.field) : Prop :=
  ∀ field context before, record (runIn (observer.handler field context) before).2.notices =
    record before.notices ++ [context.sight]

section Plugins

variable {setting : Setting} {extra : Sight → Prop} {record : Record}
  {observer : Hook BuildPhase.family (StateM Workspace) BuildPhase.field}
  {aliases : List (String × String)} {engine : BuildEngine}

namespace AddedHooks.Benign

theorem nothing : AddedHooks.Benign extra record fun _ => [] := ⟨nofun, nofun, nofun, nofun⟩

theorem append {first second : AddedHooks} (early : first.Benign extra record)
    (late : second.Benign extra record) :
    AddedHooks.Benign extra record fun phase => first phase ++ second phase where
  state hook listed := (List.mem_append.1 listed).elim (early.state hook) (late.state hook)
  types hook listed := (List.mem_append.1 listed).elim (early.types hook) (late.types hook)
  fields hook listed := (List.mem_append.1 listed).elim (early.fields hook) (late.fields hook)
  field hook listed := (List.mem_append.1 listed).elim (early.field hook) (late.field hook)

theorem flatMap {α : Type} (added : α → AddedHooks) {items : List α}
    (each : ∀ item ∈ items, (added item).Benign extra record) :
    AddedHooks.Benign extra record fun phase => items.flatMap fun item => added item phase := by
  induction items with
  | nil => exact nothing
  | cons first rest ih =>
    exact (each first List.mem_cons_self).append (ih fun item listed => each item (.tail _ listed))

end AddedHooks.Benign

theorem Observes.records (observes : Observes record observer) (field : Field)
    (context : FieldContext) :
    Records extra record (observer.handler field context) [context.sight] :=
  fun before => ⟨_, observes field context before, ⟨_, List.prefix_refl _, woven_refl extra _⟩,
    fun _ _ _ => woven_refl extra _⟩

theorem brings_tables (setting : Setting) (extra : Sight → Prop) (record : Record) :
    Plugin.tables.Brings setting extra record Tables.hooks where
  quiet engine := by
    have declares (table : Descriptor) :
        Records extra record (Tables.declare setting table) [] := by
      unfold Tables.declare
      exact (records_make _).then_records fun _ => (records_make _).then_records fun _ =>
        (records_ofResolve _).then_records fun _ => records_pure _
    exact (Records.forM fun table _ => declares table).then_records fun _ => records_ofPipeline _
  gains _ _ _ _ proper ran := (registers_tables setting proper ran).1

theorem brings_nodeIds (setting : Setting) (extra : Sight → Prop) (record : Record)
    (aliases : List (String × String)) :
    (Plugin.nodeIds aliases).Brings setting extra record (NodeIds.hooks aliases) where
  quiet _ := (records_ofPipeline _).then_records fun _ => records_ofPipeline _
  gains _ _ _ _ proper ran := (registers_nodeIds setting (fun _ => True) aliases proper ran).1

/-- **Plugins one after the other** bring their hooks in their order. -/
theorem brings_registerPlugins {plugins : List Plugin} {added : List AddedHooks}
    (brings : List.Forall₂ (fun plugin hooks => plugin.Brings setting extra record hooks)
      plugins added)
    (names : List String) (engine : BuildEngine) :
    Records extra record (registerPlugins setting names engine plugins) [] ∧
      ∀ before changed after, engine.Proper →
        Yields (registerPlugins setting names engine plugins) before changed after →
        engine.Gains (fun phase => added.flatMap fun hooks => hooks phase) changed := by
  induction brings generalizing names engine with
  | nil =>
    refine ⟨records_pure _, fun before changed after proper ran => ?_⟩
    obtain ⟨rfl, rfl⟩ := yields_pure_iff.1 ran
    exact .nothing proper
  | cons first _ ih =>
    rename_i plugin hooks rest _ _
    constructor
    · rw [registerPlugins]
      by_cases taken : plugin.name ∈ names
      · rw [if_pos taken]
        exact (records_throw _ []).then_records fun _ =>
          (first.quiet engine).then_records fun next => (ih _ next).1
      · rw [if_neg taken]
        exact (first.quiet engine).then_records fun next => (ih _ next).1
    · intro before changed after proper ran
      obtain ⟨-, next, between, registered, later⟩ := yields_registerPlugins_cons_iff.1 ran
      have gains := first.gains proper registered
      exact gains.trans ((ih _ next).2 _ _ _ gains.proper later)

/-- The hooks of several plugins. -/
theorem exists_brings {plugins : List Plugin}
    (benign : ∀ plugin ∈ plugins, plugin.Benign setting extra record) :
    ∃ added, List.Forall₂ (fun plugin hooks => plugin.Brings setting extra record hooks)
      plugins added ∧ ∀ hooks ∈ added, AddedHooks.Benign extra record hooks := by
  induction plugins with
  | nil => exact ⟨[], .nil, nofun⟩
  | cons first rest ih =>
    obtain ⟨hooks, brings, quiet⟩ := benign first List.mem_cons_self
    obtain ⟨added, others, all⟩ := ih fun plugin listed => benign plugin (.tail _ listed)
    exact ⟨hooks :: added, .cons brings others, List.forall_mem_cons.2 ⟨quiet, all⟩⟩

/-! ### Phases -/

/-- The hooks when the plugins have registered: those for row types and identifiers, the one that
watches, and others that do not matter. -/
structure Watched (extra : Sight → Prop) (record : Record)
    (observer : Hook BuildPhase.family (StateM Workspace) BuildPhase.field)
    (aliases : List (String × String)) (engine : BuildEngine) (rest : AddedHooks) : Prop where
  proper : engine.Proper
  benign : rest.Benign extra record
  hooks : ∀ phase, (engine.hooks phase).Perm (Tables.hooks phase ++ (NodeIds.hooks aliases phase ++
    (AddedHooks.only .field observer phase ++ rest phase)))

namespace Watched

variable {rest : AddedHooks} (watched : Watched extra record observer aliases engine rest)
include watched

theorem finishesField (observes : Observes record observer) :
    FinishesField extra record (engine.runPhase .field) := by
  intro field context
  rw [BuildEngine.runPhase_eq watched.proper]
  exact records_runHooks _ (watched.hooks .field) (fun value => observes.records value context)
    (fun other listed value => watched.benign.field other listed value context) field

theorem finishesFields : FinishesFields extra record (engine.runPhase .fields) := by
  intro fields context finishes
  rw [BuildEngine.runPhase_eq watched.proper]
  exact records_runHooks _ (watched.hooks .fields)
    (fun value => (records_addField finishes value).adapt _)
    (fun other listed value => watched.benign.fields other listed value context finishes) fields

theorem records_state (initial : BuildState) (context : StateContext) :
    Records extra record (engine.runPhase .state initial context) [] := by
  rw [BuildEngine.runPhase_eq watched.proper]
  refine records_runHooks _ (watched.hooks .state) (fun value => records_shareAliases aliases value)
    (fun other listed value => watched.benign.state other listed value context) initial

/-- **The types phase** records the fields of all row types. -/
theorem records_types (observes : Observes record observer) (setting : Setting)
    (state : BuildState) :
    Records extra record (engine.runPhase .types [] (engine.typesContext setting state))
      setting.sights := by
  have finishesField := watched.finishesField observes
  have finishesFields := watched.finishesFields
  rw [BuildEngine.runPhase_eq watched.proper]
  exact records_runHooks _ (watched.hooks .types)
    (fun value => (records_buildTables finishesField finishesFields value).adapt _)
    (fun other listed value => watched.benign.types other listed value _ finishesField
      finishesFields) []

end Watched

/-- What the plugins of a build have registered, in whatever order. -/
theorem watched_of_registered {plugins others : List Plugin} {observing : Plugin}
    (chosen : plugins.Perm (.tables :: .nodeIds aliases :: observing :: others))
    (watches : observing.Watches setting extra record observer)
    (benign : ∀ plugin ∈ others, plugin.Benign setting extra record) :
    Records extra record (registerPlugins setting [] .empty plugins) [] ∧
      ∀ before engine after,
      Yields (registerPlugins setting [] .empty plugins) before engine after →
        ∃ rest, Watched extra record observer aliases engine rest := by
  obtain ⟨hooks, rest, brings, quiet, split⟩ := watches
  obtain ⟨addedOthers, bringOthers, quietOthers⟩ := exists_brings benign
  obtain ⟨added, bringAll, perm⟩ := List.perm_comp_forall₂ chosen
    (.cons (brings_tables setting extra record)
      (.cons (brings_nodeIds setting extra record aliases) (.cons brings bringOthers)))
  obtain ⟨records, gains⟩ := brings_registerPlugins bringAll [] .empty
  refine ⟨records, fun before engine after ran => ?_⟩
  have gained := gains before engine after BuildEngine.proper_empty ran
  refine ⟨_, gained.proper, quiet.append (.flatMap id quietOthers), fun phase => ?_⟩
  rw [gained.hooks, BuildEngine.hooks_empty, List.nil_append]
  refine (perm.flatMap_right fun hooks => hooks phase).trans ?_
  simp only [List.flatMap_cons]
  refine (List.Perm.refl _).append ((List.Perm.refl _).append ?_)
  rw [← List.append_assoc]
  exact (split phase).append_right _

end Plugins

end CatalogSchema
