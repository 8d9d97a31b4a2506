/-
**What plugins register.**

* `Plugin.Registers`: a plugin adds certain hooks at the ends of the phases, and besides it only
  asks.
* `yields_registerPlugins`: plugins one after the other; the hooks of a phase are theirs, in their
  order.
* `exists_yields_register`: every plugin registers at some point, between requests of the others.
* `hookFree_standardTypes`, `registers_tables`, `registers_nodeIds`: the plugins for the well-known
  types, for row types and for identifiers. None overrides an id with a non-null type.
* `Tables.declared_of_register`: a row type is mapped to its own objects, from then on.
-/

import CatalogSchema.Plugin.NodeIds
import CatalogSchema.Plugin.StandardTypes
import CatalogSchema.Plugin.Tables
import CatalogSchema.Proofs.Build.Hooks
import CatalogSchema.Proofs.Resolution.Nullability
import Mathlib.Data.List.Perm.Basic

namespace CatalogSchema

open Build

/-! ### Plugins in order -/

/-- Whenever a plugin registers, it adds these hooks, and besides it only puts requests of an
allowed sort. -/
def Plugin.Registers (plugin : Plugin) (setting : Setting) (allowed : Request → Prop)
    (added : AddedHooks) : Prop :=
  ∀ ⦃engine before changed after⦄, engine.Proper →
    Yields (plugin.register setting engine) before changed after →
    engine.Gains added changed ∧ Run setting allowed before.registry after.registry

/-- A plugin without hooks that overrides no id with a non-null type. -/
def Plugin.HookFree (plugin : Plugin) (setting : Setting) : Prop :=
  plugin.Registers setting Request.KeepsNullable fun _ => []

section Plugins

variable {setting : Setting} {allowed : Request → Prop} {names : List String}
  {engine changed : BuildEngine} {before after : Workspace}

theorem yields_registerPlugins_cons_iff {plugin : Plugin} {rest : List Plugin} :
    Yields (registerPlugins setting names engine (plugin :: rest)) before changed after ↔
      plugin.name ∉ names ∧
        ∃ next between, Yields (plugin.register setting engine) before next between ∧
        Yields (registerPlugins setting (plugin.name :: names) next rest) between
          changed after := by
  rw [registerPlugins]
  by_cases taken : plugin.name ∈ names
  · rw [if_pos taken]
    refine ⟨fun ran => ?_, fun ⟨free, _⟩ => absurd taken free⟩
    obtain ⟨_, _, failed, -⟩ := yields_bind_iff.1 ran
    exact absurd failed not_yields_throw
  · rw [if_neg taken]
    show Yields (plugin.register setting engine >>= _) before changed after ↔ _
    rw [yields_bind_iff]
    exact ⟨fun ran => ⟨taken, ran⟩, And.right⟩

/-- **Plugins one after the other** add their hooks in their order. -/
theorem yields_registerPlugins {plugins : List Plugin} {added : List AddedHooks}
    (registers : List.Forall₂ (fun plugin hooks => plugin.Registers setting allowed hooks)
      plugins added)
    (proper : engine.Proper)
    (ran : Yields (registerPlugins setting names engine plugins) before changed after) :
    engine.Gains (fun phase => added.flatMap fun hooks => hooks phase) changed ∧
      Run setting allowed before.registry after.registry := by
  induction registers generalizing names engine before with
  | nil =>
    obtain ⟨rfl, rfl⟩ := yields_pure_iff.1 ran
    exact ⟨.nothing proper, .start⟩
  | cons first _ ih =>
    obtain ⟨-, next, between, registered, later⟩ := yields_registerPlugins_cons_iff.1 ran
    obtain ⟨gains, run⟩ := first proper registered
    obtain ⟨gainsRest, runRest⟩ := ih gains.proper later
    exact ⟨gains.trans gainsRest, run.trans runRest⟩

/-- Every plugin registers between the requests of those before it and of those after it. -/
theorem exists_yields_register {plugins : List Plugin} {added : List AddedHooks}
    (registers : List.Forall₂ (fun plugin hooks => plugin.Registers setting allowed hooks)
      plugins added)
    {plugin : Plugin} (listed : plugin ∈ plugins) (proper : engine.Proper)
    (ran : Yields (registerPlugins setting names engine plugins) before changed after) :
    ∃ early start next finish, Yields (plugin.register setting early) start next finish ∧
      early.Proper ∧
      (∃ later, next.Gains later changed) ∧ Run setting allowed before.registry start.registry ∧
      Run setting allowed finish.registry after.registry := by
  induction registers generalizing names engine before with
  | nil => cases listed
  | cons first others ih =>
    obtain ⟨-, next, between, registered, later⟩ := yields_registerPlugins_cons_iff.1 ran
    obtain ⟨gains, run⟩ := first proper registered
    rcases List.mem_cons.1 listed with rfl | listed
    · obtain ⟨gainsRest, runRest⟩ := yields_registerPlugins others gains.proper later
      exact ⟨engine, before, next, between, registered, proper, ⟨_, gainsRest⟩, .start, runRest⟩
    · obtain ⟨early, start, next', finish, registered', properEarly, gainsLate,
        runEarly, runLate⟩ :=
        ih listed gains.proper later
      exact ⟨early, start, next', finish, registered', properEarly, gainsLate, run.trans runEarly,
        runLate⟩

end Plugins

/-! ### Well-known types -/

namespace StandardTypes

variable {setting : Setting}

theorem asks_registerMapping {id : TypeId} {entry : TypeEntry} (nullable : entry.output.Nullable)
    (codec : Option Codec) :
    Asks setting Request.KeepsNullable (registerMapping setting id entry codec) := by
  unfold registerMapping
  have shares : Asks setting Request.KeepsNullable
      (codec.mapM fun codec => ofResolve (Resolve.share codec)) := by
    cases codec with
    | none => exact asks_pure none
    | some codec =>
      rw [Option.mapM_some, map_eq_pure_bind]
      refine Asks.bind (asks_ofResolve fun registry => ?_) fun _ _ _ _ => asks_pure _
      exact .make .start registry.pool.grows_skip
  refine shares.bind fun _ shared _ _ => ?_
  refine Asks.bind (asks_ofResolve fun registry => ?_) fun _ _ _ _ => asks_pure _
  exact Run.request .start (.registerOverride id ⟨entry.output, entry.input, shared⟩ .yield)
    nullable

theorem asks_registerGroup {group : ScalarGroup} (nullable : group.scalar.Nullable) :
    Asks setting Request.KeepsNullable (registerGroup setting group) :=
  Asks.forM fun _ _ => asks_registerMapping nullable _

theorem asks_makeShape (allowed : Request → Prop) (name : String)
    (description inputDescription : Option String) (members : List Member) :
    Asks setting allowed (makeShape name description inputDescription members) := by
  refine Asks.bind (asks_make fun pool => pool.grows_object ..) fun _ _ _ _ => ?_
  exact Asks.bind (asks_make fun pool => pool.grows_inputObject ..) fun _ _ _ _ => asks_pure _

theorem nullable_makeShape {name : String} {description inputDescription : Option String}
    {members : List Member} {before after : Workspace} {entry : TypeEntry}
    (ran : Yields (makeShape name description inputDescription members) before entry after) :
    entry.output.Nullable := by
  unfold makeShape at ran
  simp only [yields_bind_iff, yields_make_iff, yields_pure_iff] at ran
  obtain ⟨_, _, ⟨rfl, -⟩, _, _, -, rfl, -⟩ := ran
  exact nofun

theorem asks_makePoint (allowed : Request → Prop) (scalars : StandardScalars) :
    Asks setting allowed (makePoint scalars) :=
  Asks.bind (asks_make fun pool => pool.grows_nonNull _) fun _ _ _ _ => asks_makeShape ..

theorem nullable_makePoint {scalars : StandardScalars} {before after : Workspace}
    {entry : TypeEntry} (ran : Yields (makePoint scalars) before entry after) :
    entry.output.Nullable := by
  obtain ⟨_, _, -, shaped⟩ := yields_bind_iff.1 ran
  exact nullable_makeShape shaped

/-- Every group maps its ids to a standard scalar. -/
theorem scalar_mem_of_group (scalars : StandardScalars) (structured : Bool) :
    ∀ group ∈ convertedGroups scalars ++ plainGroups scalars ++ [documentGroup scalars structured],
      group.scalar ∈ scalars.toList := by
  simp [convertedGroups, plainGroups, documentGroup, StandardScalars.toList]

theorem asks_register (scalars : setting.scalars.Nullable) :
    Asks setting Request.KeepsNullable (register setting) := by
  have group {group : ScalarGroup} (listed : group ∈ convertedGroups setting.scalars ++
      plainGroups setting.scalars ++
        [documentGroup setting.scalars setting.config.structuredJson]) :
      Asks setting Request.KeepsNullable (registerGroup setting group) :=
    asks_registerGroup (scalars _ (scalar_mem_of_group _ _ group listed))
  unfold register
  refine Asks.bind (asks_makeShape ..) fun _ interval _ shaped => ?_
  refine Asks.bind (asks_makePoint ..) fun _ point _ placed => ?_
  refine Asks.bind (Asks.forM fun _ listed => group (by simp [listed])) fun _ _ _ _ => ?_
  refine Asks.bind (Asks.forM fun _ listed => group (by simp [listed])) fun _ _ _ _ => ?_
  refine Asks.bind (group (by simp)) fun _ _ _ _ => ?_
  exact Asks.bind (asks_registerMapping (nullable_makeShape shaped) _) fun _ _ _ _ =>
    asks_registerMapping (nullable_makePoint placed) _

end StandardTypes

/-- The plugin for the well-known types has no hooks. -/
theorem hookFree_standardTypes {setting : Setting} (scalars : setting.scalars.Nullable) :
    Plugin.standardTypes.HookFree setting := by
  intro engine before changed after proper ran
  obtain ⟨_, _, registered, done⟩ := yields_bind_iff.1 ran
  obtain ⟨rfl, rfl⟩ := yields_pure_iff.1 done
  exact ⟨.nothing proper, StandardTypes.asks_register scalars registered⟩

/-! ### Row types -/

namespace Tables

variable {setting : Setting} {table : Descriptor}

/-- The types of a row type, by the serial numbers of its two objects. -/
def typesOf (setting : Setting) (table : Descriptor)
    (outputSerial inputSerial : Nat) : TypeEntry where
  output := .object outputSerial (setting.naming.tableType table) table.description
  input := some (.inputObject inputSerial
    (setting.naming.inputType (setting.naming.tableType table)) table.description)

theorem nullable_typesOf (setting : Setting) (table : Descriptor) (outputSerial inputSerial : Nat) :
    (typesOf setting table outputSerial inputSerial).output.Nullable := nofun

/-- A row type is mapped to objects that have been made. -/
structure Declared (setting : Setting) (registry : Registry) (table : Descriptor)
    (outputSerial inputSerial : Nat) : Prop where
  output_made : outputSerial < registry.pool.next
  input_made : inputSerial < registry.pool.next
  mapped : registry.overrides.find? table.id =
    some ⟨(typesOf setting table outputSerial inputSerial).output,
      (typesOf setting table outputSerial inputSerial).input, none⟩

theorem Declared.grows {outputSerial inputSerial : Nat} {earlier later : Registry}
    (grows : earlier.Grows later)
    (declared : Declared setting earlier table outputSerial inputSerial) :
    Declared setting later table outputSerial inputSerial where
  output_made := Nat.lt_of_lt_of_le declared.output_made grows.pool.next_le
  input_made := Nat.lt_of_lt_of_le declared.input_made grows.pool.next_le
  mapped := grows.overrides_kept declared.mapped

/-- **Declaring a row type** only asks, and then the row type is mapped to its objects. -/
theorem yields_declare {before after : Workspace} {result : Unit}
    (ran : Yields (declare setting table) before result after) :
    Run setting Request.KeepsNullable before.registry after.registry ∧
      ∃ outputSerial inputSerial,
      Declared setting after.registry table outputSerial inputSerial := by
  unfold declare at ran
  simp only [yields_bind_iff, yields_make_iff, yields_ofResolve_iff, yields_pure_iff] at ran
  obtain ⟨_, _, ⟨rfl, rfl⟩, _, _, ⟨rfl, rfl⟩, taken, _, ⟨registry, answered, rfl⟩, -, rfl⟩ := ran
  let first := before.registry.pool.next
  let mapping : Override := ⟨(typesOf setting table first (first + 1)).output,
    (typesOf setting table first (first + 1)).input, none⟩
  let objects : TypePool := { before.registry.pool with next := first + 2 }
  replace answered : Resolve.runOn (Resolve.registerOverride setting table.id mapping .fail)
      { before.registry with pool := objects } = (.ok taken, registry) := answered
  have grows : before.registry.pool.Grows objects :=
    before.registry.pool.grows_skip.trans (TypePool.grows_skip _)
  have permitted : Request.KeepsNullable (.registerOverride table.id mapping .fail) :=
    nullable_typesOf setting table first (first + 1)
  have run : Run setting Request.KeepsNullable before.registry registry :=
    (Run.make .start grows).asked permitted (congrArg Prod.snd answered)
  obtain rfl := runOn_registerOverride_fail answered
  exact ⟨run, first, first + 1, Nat.lt_succ_of_lt (Nat.lt_succ_self _), Nat.lt_succ_self _,
    SortedMap.find?_insert_self _ _ _⟩

/-- The hook for row types. -/
def hooks : AddedHooks :=
  .only .types ⟨"tables", fun contributed context => (buildTables contributed context).inHook⟩

/-- **After registering, every row type is declared.** -/
theorem declared_of_register {engine changed : BuildEngine} {before after : Workspace}
    (sound : Sound setting before.registry) (proper : engine.Proper)
    (ran : Yields (Plugin.tables.register setting engine) before changed after) :
    ∀ table ∈ setting.catalog.composites, ∃ outputSerial inputSerial,
      Declared setting after.registry table outputSerial inputSerial := by
  obtain ⟨_, between, declared, added⟩ := yields_bind_iff.1 ran
  obtain ⟨rfl, -⟩ := BuildEngine.yields_addHook proper added
  obtain ⟨_, collected⟩ := exists_yields_mapM_of_forM declared
  have stays ⦃table earlier later⦄ (grows : earlier.Grows later) :
      (∃ outputSerial inputSerial, Declared setting earlier table outputSerial inputSerial) →
        ∃ outputSerial inputSerial, Declared setting later table outputSerial inputSerial :=
    fun ⟨outputSerial, inputSerial, declared⟩ => ⟨outputSerial, inputSerial, declared.grows grows⟩
  exact (yields_mapM stays sound (fun _ _ _ _ _ _ _ => yields_declare) collected).2

end Tables

/-- The plugin for row types adds its hook. -/
theorem registers_tables (setting : Setting) :
    Plugin.tables.Registers setting Request.KeepsNullable Tables.hooks := by
  intro engine before changed after proper ran
  obtain ⟨_, _, declared, added⟩ := yields_bind_iff.1 ran
  obtain ⟨rfl, gains⟩ := BuildEngine.yields_addHook proper added
  exact ⟨gains, Asks.forM (fun _ _ _ _ _ declared => (Tables.yields_declare declared).1) declared⟩

/-! ### Identifiers -/

/-- The hooks for identifiers: one shares the aliases, the other adds the field. -/
def NodeIds.hooks (aliases : List (String × String)) : AddedHooks := fun phase =>
  AddedHooks.only .state ⟨"node_identity", fun state _ => shareAliases aliases state⟩ phase ++
    AddedHooks.only .fields
      ⟨"node_id", fun fields context => (addField fields context).inHook⟩ phase

/-- The plugin for identifiers adds its hooks. -/
theorem registers_nodeIds (setting : Setting) (allowed : Request → Prop)
    (aliases : List (String × String)) :
    (Plugin.nodeIds aliases).Registers setting allowed (NodeIds.hooks aliases) := by
  intro engine before changed after proper ran
  obtain ⟨_, _, shares, identifies⟩ := yields_bind_iff.1 ran
  obtain ⟨rfl, first⟩ := BuildEngine.yields_addHook proper shares
  obtain ⟨rfl, second⟩ := BuildEngine.yields_addHook first.proper identifies
  exact ⟨first.trans second, .start⟩

end CatalogSchema
