/-
**The scopes of fields in a build.**

Any hook of the field phase sees the field of each column and of each primary key once, in the order
of the catalog, and under tags that name its own row type and its own column alone. What scripts add
is extra.

* `Script.Action.benign`, `benign_script`: the fields that a script adds are extra.
* `watches_script`: a script with one hook on fields watches.
* `records_buildSchema`: what a build records.
* `field_scopes_of_build`: what a hook of the field phase sees of a build, and what definitions
  carry.
-/

import CatalogSchema.Proofs.Build.Sights

namespace CatalogSchema

open Build

/-! ### Scripts -/

namespace Script

/-- The calls of a plugin's hooks on fields, by the notices of a build. -/
def fieldCalls (plugin : String) : Record := fun notices =>
  notices.filterMap fun notice =>
    match notice with
    | .field name _ fieldName scope => if name = plugin then some ⟨fieldName, scope⟩ else none
    | _ => none

/-- An action whose added fields are extra, under whatever scope they come to stand. -/
def Action.AddsExtra (extra : Sight → Prop) : Action → Prop
  | .onFields hook =>
    ∀ added ∈ hook.added, ∀ scope : FieldScope, extra ⟨added.name, added.tags.«over» scope⟩
  | _ => True

section Scripts

variable {setting : Setting} {extra : Sight → Prop} {record : Record} {name watcher : String}

/-- A notice that is not one of the recorded calls. -/
theorem records_report {notice : Notice} (other : fieldCalls watcher [notice] = []) :
    Records extra (fieldCalls watcher) (report notice) [] := by
  intro before
  refine ⟨[], ?_, ⟨[], List.prefix_refl _, .nil⟩, fun _ _ _ => .nil⟩
  show fieldCalls watcher (before.notices ++ [notice]) = _
  rw [List.append_nil, ← List.append_nil (fieldCalls watcher before.notices), ← other]
  exact List.filterMap_append ..

theorem records_failWith (text : Option String) : Records extra record (failWith text) [] := by
  cases text with
  | none => exact records_pure ()
  | some text => exact records_throw _ _

theorem records_outcome {α : Type} (outcome : Except PipelineError α) :
    Records extra record (PhaseStep.inHook (ExceptT.mk (pure outcome))) [] :=
  Records.adapt (records_of_keeps fun _ => rfl) _

/-- A hook of the field phase leaves its notice, and records nothing afterwards. -/
theorem FieldHook.exists_rest (plugin : String) (hook : FieldHook) (field : Field)
    (context : FieldContext) :
    ∃ rest : HookStep Field, (∀ extra record, Records extra record rest []) ∧
      hook.run plugin field context =
        (report (.field plugin context.owner context.fieldName context.scope)).inHook >>= fun _ =>
          rest := by
  refine ⟨_, fun extra record => ?_, rfl⟩
  refine (records_failWith _).then_records fun _ => ?_
  by_cases nonNull : hook.nonNullTag.any context.scope.isSet
  · simp only [if_pos nonNull]
    exact ((records_make _).adapt _).then_records fun _ => records_pure _
  · simp only [if_neg nonNull]
    exact (records_pure _).then_records fun _ => records_pure _

/-- **A script's hook on fields** leaves each call in the record of its plugin. -/
theorem observes_fieldHook (watcher : String) (hook : FieldHook) :
    Observes (fieldCalls watcher) ⟨hook.hook, hook.run watcher⟩ := by
  intro field context before
  obtain ⟨rest, quiet, ran⟩ := hook.exists_rest watcher field context
  let notice : Notice := .field watcher context.owner context.fieldName context.scope
  let noticed : Workspace := { before with notices := before.notices ++ [notice] }
  have kept := (quiet (fun _ => False) (fieldCalls watcher)).keeps (fun _ => id) noticed
  have called : fieldCalls watcher [notice] = [context.sight] := by
    simp [fieldCalls, notice, FieldContext.sight]
  change fieldCalls watcher (runIn (hook.run watcher field context) before).2.notices = _
  rw [ran, runIn_bind, ← called]
  exact kept.trans (List.filterMap_append ..)

/-! Scripts of other plugins. -/

theorem StateHook.records (hook : StateHook) (state : BuildState)
    (context : StateContext) :
    Records extra (fieldCalls watcher) (hook.run name state context) [] :=
  ((records_report rfl).adapt _).then_records fun _ =>
    (records_failWith _).then_records fun _ => records_outcome _

theorem TypesHook.records (hook : TypesHook) (contributed : List SchemaType)
    (context : TypesContext) :
    Records extra (fieldCalls watcher) (hook.run name contributed context) [] := by
  have contribution :
      Records extra (fieldCalls watcher) (hook.contribution context.setting) [] := by
    unfold TypesHook.contribution
    have resolves {ask : TypeId → Resolve SchemaType} (ids : List TypeId) :
        Records extra (fieldCalls watcher) (ids.mapM fun id => ofResolve (ask id)) [] := by
      have loop : Records extra (fieldCalls watcher) (ids.mapM fun id => ofResolve (ask id))
          (ids.flatMap fun _ => []) := Records.mapM fun id _ => records_ofResolve (ask id)
      rwa [List.flatMap_eq_nil_iff.2 fun _ _ => rfl] at loop
    exact (resolves _).then_records fun _ => (resolves _).then_records fun _ => records_pure _
  unfold TypesHook.run
  refine ((records_report rfl).adapt _).then_records fun _ =>
    (contribution.adapt _).then_records fun types => ?_
  have last : Records extra (fieldCalls watcher) (do
      failWith hook.failure
      return contributed ++ types : HookStep (List SchemaType)) [] :=
    (records_failWith _).then_records fun _ => records_pure _
  cases hook.required with
  | none => exact last
  | some key => exact (records_outcome _).then_records fun _ => last

theorem FieldsHook.records {hook : FieldsHook}
    (adds : ∀ added ∈ hook.added, ∀ scope : FieldScope, extra ⟨added.name, added.tags.«over» scope⟩)
    (fields : FieldSet Field) {context : ObjectContext}
    (finishes : FinishesField extra (fieldCalls watcher) context.finishField) :
    Records extra (fieldCalls watcher) (hook.run name fields context) [] := by
  have addTo (scope : FieldScope) (fields : FieldSet Field) (added : AddedField)
      (listed : added ∈ hook.added) :
      Records extra (fieldCalls watcher) (added.addTo context scope fields) [] := by
    unfold AddedField.addTo
    refine ((records_ofResolve _).adapt _).then_records fun type => Records.adapt ?_ _
    refine Records.then_quiet
      (Records.drop (records_define finishes _ _ fun _ => records_pure _) ?_) fun _ =>
      records_of_keeps fun _ => rfl
    intro sight here
    obtain rfl := List.mem_singleton.1 here
    exact adds added listed scope
  unfold FieldsHook.run
  refine ((records_report rfl).adapt _).then_records fun _ =>
    (records_failWith _).then_records fun _ => ?_
  by_cases elsewhere : hook.only.any (· ≠ context.typeName)
  · simp only [if_pos elsewhere]
    exact records_pure _
  · simp only [if_neg elsewhere]
    exact Records.foldlM (fun fields added listed => addTo _ fields added listed) fields

theorem FieldHook.records (other : name ≠ watcher) (hook : FieldHook) (field : Field)
    (context : FieldContext) :
    Records extra (fieldCalls watcher) (hook.run name field context) [] := by
  obtain ⟨rest, quiet, ran⟩ := hook.exists_rest name field context
  rw [ran]
  exact ((records_report (by simp [fieldCalls, other])).adapt _).then_records fun _ => quiet _ _

/-! Scripts as plugins. -/

/-- The hooks of a script under another name than the one whose calls are recorded. -/
theorem Action.benign (other : name ≠ watcher) {action : Action} (adds : action.AddsExtra extra) :
    (action.hooks name).Benign extra (fieldCalls watcher) := by
  cases action with
  | override | refuse => exact .nothing
  | onState hook =>
    refine ⟨fun _ listed state context => ?_, nofun, nofun, nofun⟩
    obtain rfl := List.mem_singleton.1 listed
    exact hook.records state context
  | onTypes hook =>
    refine ⟨nofun, fun _ listed contributed context _ _ => ?_, nofun, nofun⟩
    obtain rfl := List.mem_singleton.1 listed
    exact hook.records contributed context
  | onFields hook =>
    refine ⟨nofun, nofun, fun _ listed fields context finishes => ?_, nofun⟩
    obtain rfl := List.mem_singleton.1 listed
    exact FieldsHook.records adds fields finishes
  | onField hook =>
    refine ⟨nofun, nofun, nofun, fun _ listed field context => ?_⟩
    obtain rfl := List.mem_singleton.1 listed
    exact hook.records other field context

theorem Action.records_perform (action : Action) (engine : BuildEngine) :
    Records extra (fieldCalls watcher) (action.perform name setting engine) [] := by
  cases action with
  | override id mapping rule =>
    refine (records_ofResolve _).then_records fun taken => ?_
    exact (records_report rfl).then_records fun _ => records_pure _
  | refuse text => exact records_throw _ _
  | onState | onTypes | onFields | onField => exact records_ofPipeline _

end Scripts

end Script

section Scripts

variable {setting : Setting} {extra : Sight → Prop} {name watcher : String}

/-- A script brings the hooks of its actions, in their order. -/
theorem brings_script (setting : Setting) (extra : Sight → Prop) (name watcher : String)
    (actions : List Script.Action) :
    (Plugin.script name actions).Brings setting extra (Script.fieldCalls watcher)
      fun phase => actions.flatMap fun action => action.hooks name phase where
  quiet engine := Records.foldlM (fun engine action _ => action.records_perform engine) engine
  gains engine before changed after proper ran := by
    replace ran : Yields (actions.foldlM
      (fun engine action => action.perform name setting engine) engine) before changed after := ran
    have both : engine.Gains (fun phase => actions.flatMap fun action => action.hooks name phase)
        changed ∧ True :=
      BuildEngine.gains_foldlM (fun _ => trivial) (fun _ _ => trivial)
        (fun _ _ _ _ _ _ proper ran => ⟨Script.Action.gains_of_perform proper ran, trivial⟩)
        proper ran
    exact both.1

/-- **A script** under another name is benign, if the fields that it adds are extra. -/
theorem benign_script (other : name ≠ watcher) {actions : List Script.Action}
    (adds : ∀ action ∈ actions, action.AddsExtra extra) :
    (Plugin.script name actions).Benign setting extra (Script.fieldCalls watcher) :=
  ⟨_, brings_script setting extra name watcher actions,
    .flatMap _ fun action listed => Script.Action.benign other (adds action listed)⟩

/-- **A script with one hook on fields** watches. -/
theorem watches_script (setting : Setting) (extra : Sight → Prop) (watcher : String)
    (hook : Script.FieldHook) :
    (Plugin.script watcher [.onField hook]).Watches setting extra (Script.fieldCalls watcher)
      ⟨hook.hook, hook.run watcher⟩ :=
  ⟨_, _, brings_script setting extra watcher watcher [.onField hook], .nothing, fun _ => .refl _⟩

/-- The plugin for the well-known types is benign: it has no hooks. -/
theorem benign_standardTypes {record : Record} :
    Plugin.standardTypes.Benign setting extra record := by
  have mapping (id : TypeId) (entry : TypeEntry) (codec : Option Codec) :
      Records extra record (StandardTypes.registerMapping setting id entry codec) [] := by
    unfold StandardTypes.registerMapping
    have shares : Records extra record
        (codec.mapM fun codec => ofResolve (Resolve.share codec)) [] := by
      cases codec with
      | none => exact records_pure none
      | some codec =>
        rw [Option.mapM_some, map_eq_pure_bind]
        exact (records_ofResolve _).then_records fun _ => records_pure _
    exact shares.then_records fun _ => (records_ofResolve _).then_records fun _ => records_pure _
  have group (group : StandardTypes.ScalarGroup) :
      Records extra record (StandardTypes.registerGroup setting group) [] :=
    Records.forM fun _ _ => mapping _ _ _
  have shape (name : String) (description inputDescription : Option String)
      (members : List StandardTypes.Member) :
      Records extra record (StandardTypes.makeShape name description inputDescription members) [] :=
    (records_make _).then_records fun _ => (records_make _).then_records fun _ => records_pure _
  refine ⟨fun _ => [], ⟨fun engine => ?_, fun engine before changed after proper ran => ?_⟩,
    .nothing⟩
  · refine Records.then_records ?_ fun _ => records_pure engine
    unfold StandardTypes.register
    refine (shape _ _ _ _).then_records fun interval => ?_
    refine ((records_make _).then_records fun _ => shape _ _ _ _).then_records fun point => ?_
    refine (Records.forM fun _ _ => group _).then_records fun _ => ?_
    refine (Records.forM fun _ _ => group _).then_records fun _ => ?_
    exact (group _).then_records fun _ => (mapping _ _ _).then_records fun _ => mapping _ _ _
  · obtain ⟨_, _, -, done⟩ := yields_bind_iff.1 ran
    obtain ⟨rfl, -⟩ := yields_pure_iff.1 done
    exact .nothing proper

end Scripts

/-! ### Builds -/

/-- **A build** records the fields of all row types. -/
theorem records_buildSchema {setting : Setting} {extra : Sight → Prop} {record : Record}
    {observer : Hook BuildPhase.family (StateM Workspace) BuildPhase.field}
    {aliases : List (String × String)} {plugins others : List Plugin} {observing : Plugin}
    (chosen : plugins.Perm (.tables :: .nodeIds aliases :: observing :: others))
    (observes : Observes record observer)
    (watches : observing.Watches setting extra record observer)
    (benign : ∀ plugin ∈ others, plugin.Benign setting extra record) :
    Records extra record (buildSchema setting plugins) setting.sights := by
  obtain ⟨registers, watched⟩ := watched_of_registered chosen watches benign
  unfold buildSchema
  refine (records_ofExcept _).then_records fun _ => ?_
  refine registers.bind fun before engine after ran => ?_
  obtain ⟨rest, watched⟩ := watched before engine after ran
  refine (records_ofPipeline _).then_records fun state => ?_
  refine ((watched.records_state _ _).adapt _).then_records fun state => ?_
  refine ((watched.records_types observes setting state).adapt _).then_quiet fun contributed => ?_
  exact records_get.then_records fun _ => records_ofExcept _

/-- **The scopes of fields in a build.** Let a build have the plugins for row types and for
identifiers, a plugin with a hook on the field phase that leaves what it sees in a record, and
others, in any order.

* When the build succeeds, the hook has seen the field of each column of each row type once, in the
  order of the catalog, and after those of a row type its identifier if it has a primary key;
  between them at most the fields that the other plugins define, so that without such fields the
  record is just that list. A build that fails has left a part of it from the beginning.
* The definitions of the columns and of the identifier carry the same scopes, whatever the hooks do.
* These scopes have the tags of their own row type and column, and no others. -/
theorem field_scopes_of_build {setting : Setting} {extra : Sight → Prop} {record : Record}
    {observer : Hook BuildPhase.family (StateM Workspace) BuildPhase.field}
    {aliases : List (String × String)} {plugins others : List Plugin} {observing : Plugin}
    (chosen : plugins.Perm (.tables :: .nodeIds aliases :: observing :: others))
    (observes : Observes record observer)
    (watches : observing.Watches setting extra record observer)
    (benign : ∀ plugin ∈ others, plugin.Benign setting extra record) :
    (∀ before, ∃ seen,
      record (runIn (buildSchema setting plugins) before).2.notices =
        record before.notices ++ seen ∧
      (∃ part, part <+: setting.sights ∧ Woven extra part seen) ∧
      ∀ schema, (runIn (buildSchema setting plugins) before).1 = .ok schema →
        Woven extra setting.sights seen ∧ ((∀ sight, ¬extra sight) → seen = setting.sights)) ∧
    (∀ (context : TypesContext) owner finish table before fields inputs after,
      Yields (Tables.columnsFields context ⟨owner, Tables.tableScope table, finish⟩
        table (.empty owner) [] table.attributes) before (fields, inputs) after →
      fields.fields.map (·.sight) = Tables.columnSights context.setting table) ∧
    (∀ (context : ObjectContext) fields before complete after,
      context.scope = Tables.tableScope context.descriptor →
      Yields (NodeIds.addField fields context) before complete after →
      complete.fields.map (·.sight) = fields.fields.map (·.sight) ++
        NodeIds.sights context.descriptor) ∧
    ∀ table : Descriptor,
      (∀ column, (Tables.columnScope table column).toList =
        [("isTableType", .bool true), ("pgColumn", .string column.name),
          ("pgType", .string table.displayName)]) ∧
      (NodeIds.nodeScope table).toList =
        [("isNodeIdField", .bool true), ("isTableType", .bool true),
          ("pgType", .string table.displayName)] := by
  refine ⟨fun before => ?_, ?_, ?_, fun table => ⟨Tables.toList_columnScope table,
    NodeIds.toList_nodeScope table⟩⟩
  · obtain ⟨seen, grown, part, whole⟩ := records_buildSchema chosen observes watches benign before
    refine ⟨seen, grown, part, fun schema built => ?_⟩
    have woven := whole schema _ (Prod.ext built rfl)
    exact ⟨woven, fun none => (woven_iff_eq none).1 woven⟩
  · intro context owner finish table before fields inputs after ran
    exact Tables.sights_of_columnsFields rfl ran
  · intro context fields before complete after under ran
    rw [NodeIds.sights_of_addField ran, under]
    rfl

/-- A row type with a key. -/
def watchedTables : Catalog where
  types := .ofList [
    (23, .plain 23 "pg_catalog" "int4" .base Category.numeric),
    (200, { Descriptor.plain 200 "app" "node" .composite Category.composite with
      attributes := [⟨"id", 23, true, true, none⟩, ⟨"parent", 200, false, false, none⟩] })]

/-- A hook that watches and changes fields on its way. -/
def watchingHook : Script.FieldHook := ⟨"watch", none, some " (seen)", some "pgColumn"⟩

/-- A hook that adds a field without tags to every object. -/
def addingHook : Script.FieldsHook := ⟨"adds", none, none, false, [⟨"extra", 23, .empty⟩]⟩

/-- A plugin that adds a field before that of the identifier, one that watches, and the usual
ones. -/
def watchedPlugins : List Plugin :=
  [.script "Reader" [.onFields addingHook], .nodeIds [], .script "Watcher" [.onField watchingHook],
    .standardTypes, .tables]

/-- The hook sees the columns of the row type, its identifier, and the field that another plugin
adds. -/
theorem field_scopes_of_build_sample :
    let setting : Setting := .of watchedTables .qualified .default
    ∃ seen, Script.fieldCalls "Watcher"
      (runIn (buildSchema setting watchedPlugins) .initial).2.notices =
        seen ∧ seen.map (·.fieldName) = ["id", "parent", "extra", "nodeId"] ∧
      setting.sights.map (·.fieldName) = ["id", "parent", "nodeId"] ∧
      Woven (fun sight => sight.fieldName = "extra") setting.sights seen := by
  intro setting
  have chosen : watchedPlugins.Perm [.tables, .nodeIds [],
      .script "Watcher" [.onField watchingHook], .standardTypes,
      .script "Reader" [.onFields addingHook]] := by
    refine (@List.perm_append_comm _ (watchedPlugins.take 4) [.tables]).trans (.cons _ ?_)
    exact @List.perm_append_comm _ (watchedPlugins.take 1) ((watchedPlugins.take 4).drop 1)
  have benign : ∀ plugin ∈ [Plugin.standardTypes, .script "Reader" [.onFields addingHook]],
      plugin.Benign setting (fun sight => sight.fieldName = "extra")
        (Script.fieldCalls "Watcher") := by
    refine List.forall_mem_cons.2 ⟨benign_standardTypes, List.forall_mem_singleton.2 ?_⟩
    refine benign_script (by decide) (List.forall_mem_singleton.2 fun added listed scope => ?_)
    obtain rfl := List.mem_singleton.1 listed
    rfl
  obtain ⟨builds, -⟩ :=
    field_scopes_of_build chosen (Script.observes_fieldHook "Watcher" watchingHook)
    (watches_script setting _ "Watcher" watchingHook) benign
  obtain ⟨seen, grown, -, whole⟩ := builds .initial
  have succeeds : (runIn (buildSchema setting watchedPlugins) .initial).1.isOk = true := by
    decide +kernel
  cases built : (runIn (buildSchema setting watchedPlugins) .initial).1 with
  | error error =>
    rw [built] at succeeds
    cases succeeds
  | ok schema =>
    obtain ⟨woven, -⟩ := whole schema built
    refine ⟨seen, grown, ?_, by decide +kernel, woven⟩
    have names : (Script.fieldCalls "Watcher" (runIn (buildSchema setting watchedPlugins)
        .initial).2.notices).map (·.fieldName) = ["id", "parent", "extra", "nodeId"] := by
        decide +kernel
    rwa [grown] at names

end CatalogSchema
