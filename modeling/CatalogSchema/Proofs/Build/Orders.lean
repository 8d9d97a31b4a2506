/-
**Orders that a build does not depend on.**

* `introspection_order`: descriptors may be listed in any order.
* `Plugin.Does`: what a plugin registers, by a step that knows nothing of hooks and by the hooks
  that it adds. `registers_in_order`: the three standard plugins, in any order, register in one of
  two ways.
* `standard_plugins_commute`: the standard plugins may be added in any order.
-/

import CatalogSchema.Proofs.Build.Commuting
import CatalogSchema.Proofs.Build.Standard
import CatalogSchema.Proofs.Catalog.Listing
import Mathlib.Data.List.Permutation

namespace CatalogSchema

namespace Build

/-! ### Descriptors -/

/-- Two builds fail, or both give schemas, and these are alike. -/
def EndAlike (first second : Build Schema) : Prop :=
  Fails first .initial ∧ Fails second .initial ∨
    ∃ schema schema', (runIn first .initial).1 = .ok schema ∧
      (runIn second .initial).1 = .ok schema' ∧ schema.Alike schema'

theorem EndAlike.refl (build : Build Schema) : EndAlike build build := by
  rcases fails_or_yields build .initial with fails | ⟨schema, after, ran⟩
  · exact .inl ⟨fails, fails⟩
  · exact .inr ⟨schema, schema, congrArg Prod.fst ran, congrArg Prod.fst ran, rfl,
      fun _ _ => rfl, fun _ _ => rfl⟩

/-- **The order of introspection does not matter.** Two lists of the same descriptors are both
refused, or make equal catalogs; and whatever the configuration and the plugins are, the builds over
the two both fail or give schemas that are alike. -/
theorem introspection_order {first second : List Descriptor} (permuted : first.Perm second) :
    (∃ error error', Catalog.ofList first = .error error ∧ Catalog.ofList second = .error error') ∨
    ∃ catalog catalog', Catalog.ofList first = .ok catalog ∧ Catalog.ofList second = .ok catalog' ∧
      catalog = catalog' ∧ ∀ naming config plugins,
        EndAlike (buildSchema (.of catalog naming config) plugins)
          (buildSchema (.of catalog' naming config) plugins) := by
  cases madeFirst : Catalog.ofList first with
  | error error =>
    cases madeSecond : Catalog.ofList second with
    | error error' => exact .inl ⟨error, error', rfl, rfl⟩
    | ok catalog =>
      rw [← Catalog.ofList_perm permuted, madeFirst] at madeSecond
      cases madeSecond
  | ok catalog =>
    exact .inr ⟨catalog, catalog, rfl, (Catalog.ofList_perm permuted).1 madeFirst, rfl,
      fun naming config plugins => .refl _⟩

/-- The well-known types backwards make the same catalog. -/
theorem introspection_order_sample :
    Builtin.types.reverse.Perm Builtin.types ∧
    ∃ catalog, Catalog.ofList Builtin.types.reverse = .ok catalog ∧
      Catalog.ofList Builtin.types = .ok catalog ∧
      ∀ naming config plugins, EndAlike (buildSchema (.of catalog naming config) plugins)
        (buildSchema (.of catalog naming config) plugins) := by
  have permuted : Builtin.types.reverse.Perm Builtin.types := List.reverse_perm _
  refine ⟨permuted, ?_⟩
  rcases introspection_order permuted with ⟨error, error', -, refused⟩ |
    ⟨catalog, _, made, made', rfl, alike⟩
  · have accepted : (Catalog.ofList Builtin.types).isOk = true := by decide +kernel
    rw [refused] at accepted
    cases accepted
  · exact ⟨catalog, made, made', alike⟩

end Build

/-! ### What a plugin does -/

/-- A hook is added to a phase without hooks, whatever its name is. -/
theorem BuildEngine.exists_addHook {engine : BuildEngine} {phase : BuildPhase}
    (proper : engine.Proper) (free : engine.hooks phase = []) (name : String)
    (handler : phase.Artifact → phase.Context → HookStep phase.Artifact) :
    ∃ changed, engine.addHook phase name handler = pure changed ∧
      engine.Gains (.only phase ⟨name, handler⟩) changed := by
  have accepted : ∃ changed, engine.addHook phase name handler = pure changed := by
    unfold addHook HookEngine.register
    cases found : engine.phases.find? phase.name with
    | none => exact ⟨_, rfl⟩
    | some known =>
      obtain rfl := proper.find? found
      dsimp only
      rw [free, List.any_nil, if_neg Bool.false_ne_true, dif_pos rfl]
      exact ⟨_, rfl⟩
  obtain ⟨changed, added⟩ := accepted
  have ran : Build.Yields (engine.addHook phase name handler) .initial changed .initial := by
    rw [added]
    exact Build.yields_pure_iff.2 ⟨rfl, rfl⟩
  exact ⟨changed, added, (yields_addHook proper ran).2⟩

/-- What a plugin does: it takes a step that knows nothing of hooks, and adds hooks. -/
structure Doing where
  step : Build Unit
  added : AddedHooks

/-- No phase gets hooks from both. -/
def Doing.Apart (doing other : Doing) : Prop :=
  ∀ phase, doing.added phase = [] ∨ other.added phase = []

/-- What a plugin does to every engine that has no hooks yet in the phases for which the plugin has
some. -/
def Plugin.Does (plugin : Plugin) (setting : Setting) (doing : Doing) : Prop :=
  ∀ ⦃engine : BuildEngine⦄, engine.Proper →
    (∀ phase, doing.added phase = [] ∨ engine.hooks phase = []) →
    ∃ changed, plugin.register setting engine = (doing.step >>= fun _ => pure changed) ∧
      engine.Gains doing.added changed

section Plugins

variable {setting : Setting} {aliases : List (String × String)}

/-- The well-known types are registered, and no hook. -/
def StandardTypes.doing (setting : Setting) : Doing := ⟨register setting, fun _ => []⟩

/-- The row types are declared, and the hook for them is added. -/
def Tables.doing (setting : Setting) : Doing :=
  ⟨setting.catalog.composites.forM (declare setting), hooks⟩

/-- The hooks for identifiers are added. -/
def NodeIds.doing (aliases : List (String × String)) : Doing := ⟨pure (), hooks aliases⟩

theorem does_standardTypes (setting : Setting) :
    Plugin.standardTypes.Does setting (StandardTypes.doing setting) :=
  fun engine proper _ => ⟨engine, rfl, .nothing proper⟩

theorem does_tables (setting : Setting) : Plugin.tables.Does setting (Tables.doing setting) := by
  intro engine proper free
  have unused : engine.hooks .types = [] :=
    (free .types).resolve_left (by simp [Tables.doing, Tables.hooks])
  obtain ⟨changed, added, gains⟩ := BuildEngine.exists_addHook proper unused "tables"
    fun contributed context => (Tables.buildTables contributed context).inHook
  refine ⟨changed, ?_, gains⟩
  show (_ >>= fun _ => engine.addHook .types "tables" _) = _
  rw [added]
  rfl

theorem does_nodeIds (setting : Setting) (aliases : List (String × String)) :
    (Plugin.nodeIds aliases).Does setting (NodeIds.doing aliases) := by
  intro engine proper free
  have unused : engine.hooks .state = [] :=
    (free .state).resolve_left (by simp [NodeIds.doing, NodeIds.hooks])
  have unused' : engine.hooks .fields = [] :=
    (free .fields).resolve_left (by simp [NodeIds.doing, NodeIds.hooks])
  obtain ⟨next, added, first⟩ := BuildEngine.exists_addHook proper unused "node_identity"
    fun state _ => NodeIds.shareAliases aliases state
  have unusedStill : next.hooks .fields = [] := by
    rw [first.hooks, unused', AddedHooks.only_of_ne (by decide)]
    rfl
  obtain ⟨changed, added', second⟩ := BuildEngine.exists_addHook first.proper unusedStill "node_id"
    fun fields context => (NodeIds.addField fields context).inHook
  refine ⟨changed, ?_, first.trans second⟩
  show (engine.addHook .state "node_identity" _ >>=
    fun engine => engine.addHook .fields "node_id" _) = _
  rw [added, pure_bind, added']
  rfl

/-- **Plugins with hooks in different phases** do one after the other what each of them does. -/
theorem exists_registerPlugins {plugins : List Plugin} {doings : List Doing}
    (each : List.Forall₂ (fun plugin doing => plugin.Does setting doing) plugins doings)
    {names : List String} (distinct : (names ++ plugins.map (·.name)).Nodup)
    (apart : doings.Pairwise Doing.Apart) {engine : BuildEngine} (proper : engine.Proper)
    (free : ∀ doing ∈ doings, ∀ phase, doing.added phase = [] ∨ engine.hooks phase = []) :
    ∃ changed, registerPlugins setting names engine plugins =
        ((doings.map (·.step)).forM id >>= fun _ => pure changed) ∧
      engine.Gains (fun phase => doings.flatMap (·.added phase)) changed := by
  induction each generalizing names engine with
  | nil => exact ⟨engine, rfl, .nothing proper⟩
  | @cons plugin doing plugins doings does _ ih =>
    rw [List.map_cons, List.nodup_middle, List.nodup_cons] at distinct
    obtain ⟨next, registered, gains⟩ := does proper (free doing List.mem_cons_self)
    have freeStill : ∀ other ∈ doings, ∀ phase, other.added phase = [] ∨ next.hooks phase = [] := by
      intro other listed phase
      rw [gains.hooks, List.append_eq_nil_iff]
      rcases free other (.tail _ listed) phase with none | unused
      · exact .inl none
      · exact (List.rel_of_pairwise_cons apart listed phase).symm.imp_right fun none =>
          ⟨unused, none⟩
    have distinctRest : (plugin.name :: names ++ plugins.map (·.name)).Nodup :=
      List.nodup_cons.2 distinct
    obtain ⟨changed, registeredRest, gainsRest⟩ :=
      ih distinctRest apart.of_cons gains.proper freeStill
    refine ⟨changed, ?_, gains.trans gainsRest⟩
    rw [registerPlugins, if_neg fun taken => distinct.1 (List.mem_append_left _ taken)]
    show (plugin.register setting engine >>= _) = _
    rw [registered, bind_assoc]
    simp only [pure_bind, registeredRest]
    exact (bind_assoc ..).symm

/-! ### The standard plugins in any order -/

/-- Two steps in any order, among which nothing else is done. -/
theorem forM_of_perm {steps : List (Build Unit)} {first second : Build Unit}
    (perm : steps.Perm [first, second, pure ()]) :
    steps.forM id = (first >>= fun _ => second) ∨ steps.forM id = (second >>= fun _ => first) := by
  have listed := List.mem_permutations'.2 perm
  simp only [List.permutations', List.permutations'Aux, List.flatMap_cons, List.flatMap_nil,
    List.map_cons, List.map_nil, List.append_nil, List.cons_append, List.nil_append, List.mem_cons,
    List.not_mem_nil, or_false] at listed
  rcases listed with rfl | rfl | rfl | rfl | rfl | rfl
  all_goals simp [List.forM]

/-- **The standard plugins, in any order**, add the same hooks, and register well-known types and
row types in one order or in the other. -/
theorem registers_in_order {plugins : List Plugin}
    (chosen : plugins.Perm [.standardTypes, .tables, .nodeIds aliases]) :
    ∃ engine : BuildEngine, engine.Proper ∧
      (∀ phase, engine.hooks phase = Tables.hooks phase ++ NodeIds.hooks aliases phase) ∧
      ∃ step, registerPlugins setting [] .empty plugins = (step >>= fun _ => pure engine) ∧
        (step = ((StandardTypes.doing setting).step >>= fun _ => (Tables.doing setting).step) ∨
          step = ((Tables.doing setting).step >>= fun _ =>
              (StandardTypes.doing setting).step)) := by
  have inOrder : List.Forall₂ (fun (plugin : Plugin) doing => plugin.Does setting doing)
      [.standardTypes, .tables, .nodeIds aliases]
      [StandardTypes.doing setting, Tables.doing setting, NodeIds.doing aliases] :=
    .cons (does_standardTypes setting)
      (.cons (does_tables setting) (.cons (does_nodeIds setting aliases) .nil))
  obtain ⟨doings, each, perm⟩ := List.perm_comp_forall₂ chosen inOrder
  have distinct : ([] ++ plugins.map Plugin.name).Nodup := by
    refine (chosen.map _).nodup_iff.2 ?_
    show ["StandardTypesPlugin", "TablesPlugin", "NodePlugin"].Nodup
    decide
  have apart : doings.Pairwise Doing.Apart := by
    refine (perm.pairwise_iff fun apart phase => (apart phase).symm).2 ?_
    have tables : (Tables.doing setting).Apart (NodeIds.doing aliases) := by
      intro phase
      cases phase <;> first | exact .inl rfl | exact .inr rfl
    refine .cons (fun _ _ phase => .inl rfl) (.cons (fun other listed => ?_) (.cons nofun .nil))
    rwa [List.mem_singleton.1 listed]
  obtain ⟨engine, registered, gains⟩ :=
    exists_registerPlugins each distinct apart BuildEngine.proper_empty fun _ _ _ => .inr rfl
  refine ⟨engine, gains.proper, fun phase => ?_, _, registered, ?_⟩
  · have gained := gains.hooks phase
    have all := perm.flatMap_right fun doing => doing.added phase
    rw [BuildEngine.hooks_empty, List.nil_append] at gained
    rw [← gained] at all
    -- A phase has one hook at most, so its hooks come in one order only.
    cases phase with
    | state | types | fields => exact List.perm_singleton.1 all
    | field => exact List.perm_nil.1 all
  · exact forM_of_perm (perm.map (·.step))

end Plugins

namespace Build

variable {setting : Setting} {aliases : List (String × String)}

/-- Two orders of the plugins, up to the phases. -/
theorem endRenumbered_of_orders (standard : ScalarsStandard setting)
    (apart : ∀ table ∈ setting.catalog.composites, table.id ∉ StandardTypes.mappedIds setting)
    {step step' : Build Unit}
    (order : step = ((StandardTypes.doing setting).step >>= fun _ => (Tables.doing setting).step) ∨
      step = ((Tables.doing setting).step >>= fun _ => (StandardTypes.doing setting).step))
    (order' : step' =
      ((StandardTypes.doing setting).step >>= fun _ => (Tables.doing setting).step) ∨
      step' = ((Tables.doing setting).step >>= fun _ => (StandardTypes.doing setting).step)) :
    EndRenumbered setting step step' := by
  have types := StandardTypes.maps_register setting
  have tables := Tables.maps_declare setting
  have foreign (id : TypeId) (declared : Tables.Declares setting id) :
      id ∉ StandardTypes.mappedIds setting := by
    obtain ⟨table, listed, rfl⟩ := declared
    exact apart table listed
  rcases order with rfl | rfl <;> rcases order' with rfl | rfl
  · exact .refl standard _
  · exact types.commute standard tables fun id mapped declared => foreign id declared mapped
  · exact tables.commute standard types foreign
  · exact .refl standard _

/-- What a build does whose plugins are done with a step. -/
theorem buildSchema_of_registers {plugins : List Plugin} {step : Build Unit} {engine : BuildEngine}
    (registered : registerPlugins setting [] .empty plugins = (step >>= fun _ => pure engine)) :
    buildSchema setting plugins =
      (ofExcept setting.config.validate >>= fun _ => step >>= fun _ => finish setting engine) := by
  rw [buildSchema_eq, registered]
  simp only [bind_assoc, pure_bind]

/-- **The standard plugins commute.** Let a catalog have no row type among the well-known types.
Whatever the configuration and the order are in which the plugins for well-known types, row types
and identifiers are added, the builds all fail, or all give schemas that print the same, convert all
values alike, and differ in the serial numbers only: one replacement of numbers takes the types of
every id and of every name to those of the other schema, and the fields of every object, each of
which reads every row alike. -/
theorem standard_plugins_commute (catalog : Catalog) (naming : Naming) (config : Config)
    (aliases : List (String × String))
    (apart : ∀ table ∈ catalog.composites,
      table.id ∉ StandardTypes.mappedIds (.of catalog naming config))
    {first second : List Plugin} (chosen : first.Perm [.standardTypes, .tables, .nodeIds aliases])
    (reordered : second.Perm [.standardTypes, .tables, .nodeIds aliases]) :
    Fails (buildSchema (.of catalog naming config) first) .initial ∧
        Fails (buildSchema (.of catalog naming config) second) .initial ∨
      ∃ schema schema',
        (runIn (buildSchema (.of catalog naming config) first) .initial).1 = .ok schema ∧
        (runIn (buildSchema (.of catalog naming config) second) .initial).1 = .ok schema' ∧
        schema.Alike schema' ∧
        ∃ numbers : Equiv.Perm Nat, schema.Corresponds numbers schema' ∧
          (∀ id, schema'.entryOf? id = renumber numbers (schema.entryOf? id)) ∧
          (∀ name, schema'.find? name = renumber numbers (schema.find? name)) ∧
          (∀ type, schema'.registry.pool.fieldsOf (renumber numbers type) =
            renumber numbers (schema.registry.pool.fieldsOf type)) ∧
          (∀ type, schema'.registry.pool.inputFieldsOf (renumber numbers type) =
            renumber numbers (schema.registry.pool.inputFieldsOf type)) ∧
          ∀ field row, schema'.resolve (renumber numbers field) row = schema.resolve field row := by
  obtain ⟨engine, proper, hooks, step, registered, order⟩ := registers_in_order chosen
  obtain ⟨engine', proper', hooks', step', registered', order'⟩ := registers_in_order reordered
  have engines :
      finish (.of catalog naming config) engine' = finish (.of catalog naming config) engine :=
    finish_congr proper proper' fun phase => (hooks' phase).trans (hooks phase).symm
  rw [buildSchema_of_registers registered, buildSchema_of_registers registered', engines]
  rcases fails_or_yields (ofExcept (Setting.of catalog naming config).config.validate) .initial with
    invalid | ⟨⟨⟩, _, validated⟩
  · exact .inl ⟨invalid.bind _, invalid.bind _⟩
  obtain ⟨-, rfl⟩ := yields_ofExcept_iff.1 validated
  unfold Fails
  rw [validated.runIn_bind, validated.runIn_bind]
  rcases endRenumbered_of_orders (scalarsStandard_of ..) apart order order' with
    ⟨fails, fails'⟩ | ⟨numbers, after, after', fixed, ran, ran', same⟩
  · exact .inl ⟨fails.bind _, fails'.bind _⟩
  rw [ran.runIn_bind, ran'.runIn_bind]
  have ended := inStep_finish fixed proper hooks same
  rcases fails_or_yields (finish (.of catalog naming config) engine) after with
    fails | ⟨schema, left, finished⟩
  · exact .inl ⟨fails, fails.together ended⟩
  · obtain ⟨schema', left', finished', related, -⟩ := finished.together ended
    exact .inr ⟨schema, schema', congrArg Prod.fst finished, congrArg Prod.fst finished',
      related.alike, numbers, related, related.registry.types, related.types,
      related.registry.pool.fieldsOf, related.registry.pool.inputFieldsOf, related.resolve⟩

/-- Row types over each other, with the plugin for row types first and last. -/
theorem standard_plugins_commute_sample :
    let setting : Setting := .of sampleTables .qualified .default
    let first : List Plugin := [.tables, .standardTypes, .nodeIds [("node", "Node")]]
    let second : List Plugin := [.standardTypes, .nodeIds [("node", "Node")], .tables]
    (∀ table ∈ sampleTables.composites, table.id ∉ StandardTypes.mappedIds setting) ∧
    first.Perm [.standardTypes, .tables, .nodeIds [("node", "Node")]] ∧
    second.Perm [.standardTypes, .tables, .nodeIds [("node", "Node")]] ∧
    ∃ schema schema', (runIn (buildSchema setting first) .initial).1 = .ok schema ∧
      (runIn (buildSchema setting second) .initial).1 = .ok schema' ∧ schema.Alike schema' ∧
      ∃ numbers : Equiv.Perm Nat, schema.Corresponds numbers schema' ∧
        (∀ id, schema'.entryOf? id = renumber numbers (schema.entryOf? id)) ∧
        (∀ name, schema'.find? name = renumber numbers (schema.find? name)) ∧
        (∀ type, schema'.registry.pool.fieldsOf (renumber numbers type) =
          renumber numbers (schema.registry.pool.fieldsOf type)) ∧
        (∀ type, schema'.registry.pool.inputFieldsOf (renumber numbers type) =
          renumber numbers (schema.registry.pool.inputFieldsOf type)) ∧
        ∀ field row, schema'.resolve (renumber numbers field) row = schema.resolve field row := by
  intro setting first second
  have apart : ∀ table ∈ sampleTables.composites, table.id ∉ StandardTypes.mappedIds setting := by
    decide +kernel
  have chosen : first.Perm [.standardTypes, .tables, .nodeIds [("node", "Node")]] := .swap ..
  have reordered : second.Perm [.standardTypes, .tables, .nodeIds [("node", "Node")]] :=
    .cons _ (.swap ..)
  refine ⟨apart, chosen, reordered, ?_⟩
  rcases standard_plugins_commute sampleTables .qualified .default [("node", "Node")] apart
    chosen reordered with
    ⟨⟨error, failed⟩, -⟩ | alike
  · have succeeds : (runIn (buildSchema setting first) .initial).1.isOk = true := by decide +kernel
    rw [failed] at succeeds
    cases succeeds
  · exact alike

end Build

end CatalogSchema
