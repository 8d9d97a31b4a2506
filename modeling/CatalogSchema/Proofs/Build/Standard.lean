/-
**Builds with the standard plugins.**

The plugins for well-known types, row types and identifiers register in any order, among others that
have no hooks (scripts that only override, `hookFree_script`, are among those others).

* `Registered`: the hooks and the registry when the plugins have registered
  (`registered_of_chosen`).
* `yields_buildSchema`: what is settled when such a build succeeds.
* `RowTypes`: the object and the input object of a row type in a schema.
* `row_types_of_catalog`: the row types of every schema that such a build makes, and the clashes of
  names with which no build succeeds.
-/

import CatalogSchema.Proofs.Build.Phases
import CatalogSchema.Proofs.Schema.Collection
import Mathlib.Data.List.Perm.Basic

namespace CatalogSchema

open Build

variable {setting : Setting} {aliases : List (String × String)} {plugins others : List Plugin}

/-! ### Registering -/

/-- Each plugin adds its hooks, in the order in which the plugins were chosen. -/
theorem registers_chosen (scalars : setting.scalars.Nullable)
    (chosen : plugins.Perm (.standardTypes :: .tables :: .nodeIds aliases :: others))
    (hookFree : ∀ plugin ∈ others, plugin.HookFree setting) :
    ∃ added, List.Forall₂ (fun plugin hooks => plugin.Registers setting Request.KeepsNullable hooks)
        plugins added ∧
      added.Perm ((fun _ => []) :: Tables.hooks :: NodeIds.hooks aliases ::
        others.map fun _ _ => []) := by
  have rest : List.Forall₂
      (fun plugin hooks => plugin.Registers setting Request.KeepsNullable hooks) others
      (others.map fun _ _ => []) :=
    List.forall₂_map_right_iff.2 (List.forall₂_same.2 hookFree)
  have inOrder :
      List.Forall₂ (fun plugin hooks => plugin.Registers setting Request.KeepsNullable hooks)
      (.standardTypes :: .tables :: .nodeIds aliases :: others)
      ((fun _ => []) :: Tables.hooks :: NodeIds.hooks aliases :: others.map fun _ _ => []) :=
    .cons (hookFree_standardTypes scalars) (.cons (registers_tables setting)
      (.cons (registers_nodeIds setting _ aliases) rest))
  exact List.perm_comp_forall₂ chosen inOrder

/-- The hooks of a phase are those of the plugins for row types and for identifiers. -/
theorem hooks_perm {added : List AddedHooks}
    (perm : added.Perm
      ((fun _ => []) :: Tables.hooks :: NodeIds.hooks aliases :: others.map fun _ _ => []))
    {engine : BuildEngine}
    (gains : BuildEngine.Gains HookEngine.empty
      (fun phase => added.flatMap fun hooks => hooks phase) engine)
    (phase : BuildPhase) :
    (engine.hooks phase).Perm (Tables.hooks phase ++ NodeIds.hooks aliases phase) := by
  have none : (others.map fun _ _ => []).flatMap (fun hooks : AddedHooks => hooks phase) = [] := by
    rw [List.flatMap_map]
    exact List.flatMap_eq_nil_iff.2 fun _ _ => rfl
  have all := perm.flatMap_right fun hooks => hooks phase
  rw [List.flatMap_cons, List.flatMap_cons, List.flatMap_cons, none, List.nil_append,
    List.append_nil] at all
  rw [gains.hooks, BuildEngine.hooks_empty, List.nil_append]
  exact all

/-- What the plugins have registered, among it one hook for the fields of a row type. -/
structure Registered (setting : Setting) (engine : BuildEngine) (registry : Registry) : Prop
    extends Prepared setting Request.KeepsNullable engine registry where
  identifies : engine.hooks .fields = [NodeIds.fieldsHook]

theorem registered_of_chosen (scalars : setting.scalars.Nullable)
    (chosen : plugins.Perm (.standardTypes :: .tables :: .nodeIds aliases :: others))
    (hookFree : ∀ plugin ∈ others, plugin.HookFree setting) {engine : BuildEngine}
    {after : Workspace}
    (ran : Yields (registerPlugins setting [] .empty plugins) .initial engine after) :
    Registered setting engine after.registry := by
  obtain ⟨added, registers, perm⟩ := registers_chosen scalars chosen hookFree
  obtain ⟨gains, -⟩ := yields_registerPlugins registers BuildEngine.proper_empty ran
  have fit : ∀ plugin ∈ plugins, plugin.OnlyIdentifies setting Request.KeepsNullable := by
    intro plugin listed
    simp only [chosen.mem_iff, List.mem_cons] at listed
    rcases listed with rfl | rfl | rfl | listed
    · exact onlyIdentifies_standardTypes scalars fun _ kept => kept
    · exact onlyIdentifies_tables fun _ kept => kept
    · exact onlyIdentifies_nodeIds aliases
    · exact (hookFree plugin listed).onlyIdentifies fun _ kept => kept
  exact ⟨prepared_of_registered (chosen.mem_iff.2 (by simp)) fit ran,
    List.perm_singleton.1 (hooks_perm perm gains .fields)⟩

/-! ### The phases -/

/-- The phases of fields only identify rows, by one field at most. -/
theorem Registered.finishes {engine : BuildEngine} {registry : Registry}
    (registered : Registered setting engine registry) (nullable : setting.scalars.id.Nullable)
    (state : BuildState) :
    (engine.typesContext setting state).Finishes (NodeIds.Identifies setting.scalars) where
  field := registered.runPhase_field
  fields table typeName scope fields before changed after distinct ran := by
    have added := yields_inHook_iff.1
      ((BuildEngine.yields_runPhase_single_iff registered.proper registered.identifies).1 ran)
    obtain ⟨distinctAfter, makes, nodes, values, adds⟩ :=
      NodeIds.yields_addField registered.runPhase_field distinct added
    exact ⟨distinctAfter, makes, nodes, values, adds.identifies nullable⟩

/-- **A build that succeeds** has built every row type. -/
theorem yields_buildSchema (scalars : setting.scalars.Nullable)
    (chosen : plugins.Perm (.standardTypes :: .tables :: .nodeIds aliases :: others))
    (hookFree : ∀ plugin ∈ others, plugin.HookFree setting) {schema : Schema} {after : Workspace}
    (ran : Yields (buildSchema setting plugins) .initial schema after) :
    TablesSettled setting Request.KeepsNullable (NodeIds.Identifies setting.scalars) schema :=
  tablesSettled_of_buildSchema (fun _ => Request.Resolving.keepsNullable) (fun registers => by
    have registered := registered_of_chosen scalars chosen hookFree registers
    exact ⟨registered.toPrepared,
      registered.finishes (scalars _ (by simp [StandardScalars.toList]))⟩) ran

/-! ### Row types in a schema -/

/-- The output field of a column. Its type is the output type of the column's type id, within one
non-null type exactly if the column is never null. -/
structure ColumnOf (schema : Schema) (column : Attribute) (field : Field) : Prop where
  name : field.name = schema.setting.naming.columnField column.name
  description : field.description = column.description
  type : ∃ entry, schema.entryOf? column.typeId = some entry ∧ entry.output.Nullable ∧
    if column.notNull then ∃ serial, field.type = .nonNull serial entry.output
    else field.type = entry.output

/-- The object and the input object of a row type. The object has the fields of the columns and then
that of the identifier if there is a primary key, the input object those that columns have for
input. -/
structure RowTypes (schema : Schema) (table : Descriptor) (output input : SchemaType)
    (columns nodes : List Field) : Prop where
  entry : schema.entryOf? table.id = some ⟨output, some input⟩
  objects : ∃ outputSerial inputSerial,
    ⟨output, some input⟩ = Tables.typesOf schema.setting table outputSerial inputSerial
  named : schema.find? (schema.setting.naming.tableType table) = some output
  namedInput : schema.find?
    (schema.setting.naming.inputType (schema.setting.naming.tableType table)) = some input
  fields : schema.registry.pool.fieldsOf output = columns ++ nodes
  each : List.Forall₂ (ColumnOf schema) table.attributes columns
  identifies : NodeIds.Identifies schema.setting.scalars table.attributes nodes
  inputs : schema.registry.pool.inputFieldsOf input =
    table.attributes.filterMap (columnInput schema.setting schema.registry)
  distinct : ((columns ++ nodes).map (·.name)).Nodup
  distinctInputs : ((schema.registry.pool.inputFieldsOf input).map (·.name)).Nodup

/-- The types of a settled id are among the roots of the schema. -/
theorem Registry.mem_resolvedTypes {registry : Registry} {id : TypeId} {entry : TypeEntry}
    (settled : registry.types.find? id = some entry) {type : SchemaType}
    (part : type ∈ entry.output :: entry.input.toList) : type ∈ registry.resolvedTypes := by
  obtain ⟨early, late, entries, -⟩ := List.lookup_eq_some_iff.1 settled
  refine List.mem_flatMap.2 ⟨entry, ?_, part⟩
  unfold SortedMap.values
  rw [entries]
  simp

/-- The field that was made for a column is that of the column. -/
theorem ColumnField.columnOf {schema : Schema} {column : Attribute} {field : Field}
    (nullable : ∀ ⦃id entry⦄, schema.entryOf? id = some entry → entry.output.Nullable)
    (made : ColumnField schema.setting schema.registry column field) :
    ColumnOf schema column field := by
  obtain ⟨entry, settled, types⟩ := made.type
  refine ⟨made.name, made.description, entry, settled, nullable settled, ?_⟩
  unfold Attribute.Types at types
  split
  · rename_i never
    rw [if_pos never] at types
    exact types.wraps (nullable settled)
  · rename_i may
    rwa [if_neg may] at types

/-- **The types of every row type** in a schema that was built. -/
theorem TablesSettled.rowTypes {schema : Schema}
    (settled : TablesSettled schema.setting Request.KeepsNullable
      (NodeIds.Identifies schema.setting.scalars) schema)
    (scalars : schema.setting.scalars.Nullable) {table : Descriptor}
    (listed : table ∈ schema.setting.catalog.composites) :
    ∃ output input columns nodes, RowTypes schema table output input columns nodes := by
  obtain ⟨outputSerial, inputSerial, columns, nodes, identifies, built⟩ :=
    settled.tables table listed
  obtain ⟨contributed, gathered⟩ := settled.gathered
  have sound := settled.run.sound .initial
  have overrides := settled.run.overrides_nullable .initial (by exact nofun)
  have each : List.Forall₂ (ColumnOf schema) table.attributes columns :=
    built.each.imp fun _ _ made =>
      made.columnOf fun _ _ found => sound.nullable scalars overrides found
  have named {type : SchemaType} {name : String} (carried : type.name? = some name)
      (part : type ∈ (Tables.typesOf schema.setting table outputSerial inputSerial).output ::
        (Tables.typesOf schema.setting table outputSerial inputSerial).input.toList) :
      schema.find? name = some type :=
    (find?_collectNamed gathered name type).2
      ⟨.of_mem (List.mem_append_left contributed (Registry.mem_resolvedTypes built.settled part)),
        carried⟩
  have distinctColumns : (columns.map (·.name)).Nodup :=
    built.distinct.sublist ((List.sublist_append_left columns nodes).map _)
  rw [names_of_columns (built.each.imp fun _ _ made => made.name)] at distinctColumns
  refine ⟨_, _, columns, nodes, built.settled, ⟨_, _, rfl⟩, named rfl (List.mem_cons_self ..),
    named rfl (List.mem_cons_of_mem _ (List.mem_singleton_self _)),
    TypePool.fieldsOf_of_found built.fields, each, identifies,
    TypePool.inputFieldsOf_of_found built.inputs, built.distinct, ?_⟩
  rw [TypePool.inputFieldsOf_of_found built.inputs]
  exact distinctColumns.sublist (names_of_columnInputs_sublist table.attributes)

/-- **The types of row types match the catalog.** Let a catalog be built with the plugins for
well-known types, row types and identifiers, in any order, and with no further hooks. When the build
succeeds, every row type has an object with one field for each column, in their order, and last the
identifier of its rows if there is a primary key; its input object has exactly the columns whose
types have input types. Neither object has two fields of one name. The build fails if two columns of
a row type lead to one field name, or if a column of a row type with a primary key leads to that of
the identifier. -/
theorem row_types_of_catalog (catalog : Catalog) (naming : Naming) (config : Config)
    (aliases : List (String × String)) {plugins others : List Plugin}
    (chosen : plugins.Perm (.standardTypes :: .tables :: .nodeIds aliases :: others))
    (hookFree : ∀ plugin ∈ others, plugin.HookFree (.of catalog naming config)) :
    (∀ schema, (runIn (buildSchema (.of catalog naming config) plugins) .initial).1 = .ok schema →
      schema.setting = .of catalog naming config ∧ ∀ table ∈ catalog.composites,
        ∃ output input columns nodes, RowTypes schema table output input columns nodes) ∧
    ∀ table ∈ catalog.composites,
      ¬(table.attributes.map fun column => naming.columnField column.name).Nodup ∨
        (∃ key ∈ table.attributes, key.primaryKey = true) ∧
          (∃ column ∈ table.attributes, naming.columnField column.name = NodeIds.fieldName) →
      ∃ error, (runIn (buildSchema (.of catalog naming config) plugins) .initial).1 =
        .error error := by
  have scalars : (Setting.of catalog naming config).scalars.Nullable :=
    StandardScalars.nullable_make config.legacyNames
  have succeeds {schema : Schema}
      (built : (runIn (buildSchema (.of catalog naming config) plugins) .initial).1 = .ok schema) :
      schema.setting = .of catalog naming config ∧ ∀ table ∈ catalog.composites,
        ∃ output input columns nodes, RowTypes schema table output input columns nodes := by
    have ran : Yields (buildSchema (.of catalog naming config) plugins) .initial schema
        (runIn (buildSchema (.of catalog naming config) plugins) .initial).2 := Prod.ext built rfl
    have settled := yields_buildSchema scalars chosen hookFree ran
    have fixed := settled.fixed
    rw [← fixed] at settled scalars
    refine ⟨fixed, fun table listed => settled.rowTypes scalars ?_⟩
    rw [fixed]
    exact listed
  refine ⟨fun schema built => succeeds built, fun table listed clash => ?_⟩
  cases built : (runIn (buildSchema (.of catalog naming config) plugins) .initial).1 with
  | error error => exact ⟨error, rfl⟩
  | ok schema =>
    exfalso
    obtain ⟨fixed, tables⟩ := succeeds built
    obtain ⟨output, input, columns, nodes, types⟩ := tables table listed
    have distinct := types.distinct
    rw [List.map_append, names_of_columns (types.each.imp fun _ _ made => made.name),
      fixed] at distinct
    obtain ⟨distinctColumns, -, apart⟩ := List.nodup_append.1 distinct
    rcases clash with alike | ⟨⟨key, keyListed, isKey⟩, column, columnListed, same⟩
    · exact alike distinctColumns
    · cases types.identifies with
      | keyless unkeyed =>
        rw [unkeyed key keyListed] at isKey
        cases isKey
      | keyed _ _ name _ =>
        exact apart _ (List.mem_map_of_mem columnListed) _ (List.mem_singleton_self _)
          (same.trans name.symm)

/-- A row type over itself, with a key, and a row type of lists and domains over it, without one. -/
def sampleTables : Catalog where
  types := .ofList [
    (23, .plain 23 "pg_catalog" "int4" .base Category.numeric),
    (200, { Descriptor.plain 200 "app" "node" .composite Category.composite with
      attributes := [⟨"id", 23, true, true, none⟩,
        ⟨"parent", 200, false, false, some "The node above."⟩,
        ⟨"leaves", 201, true, false, none⟩] }),
    (201, { Descriptor.plain 201 "app" "_leaf" .array Category.array with arrayItem := some 202 }),
    (202, { Descriptor.plain 202 "app" "leaf" .domain Category.composite with
      domainBase := some 200 }),
    (203, { Descriptor.plain 203 "app" "forest" .composite Category.composite with
      attributes := [⟨"roots", 201, false, false, none⟩] })]

/-- A plugin that overrides a type which is not there. -/
def sampleOverrides : Plugin :=
  .script "Overrides" ([(999, ⟨.scalar 3 "String" none .string, none, none⟩, .yield)].map
    fun (id, mapping, rule) => .override id mapping rule)

/-- The plugins in another order. -/
def samplePlugins : List Plugin :=
  [.tables, .standardTypes, .nodeIds [("node", "Node")], sampleOverrides]

/-- The build succeeds with the usual names, and fails if all columns have one name. -/
theorem row_types_of_catalog_sample :
    samplePlugins.Perm [.standardTypes, .tables, .nodeIds [("node", "Node")], sampleOverrides] ∧
    (∀ naming, sampleOverrides.HookFree (.of sampleTables naming .default)) ∧
    (∃ schema,
        (runIn (buildSchema (.of sampleTables .qualified .default) samplePlugins) .initial).1 =
        .ok schema ∧
      ∀ table ∈ sampleTables.composites,
        ∃ output input columns nodes, RowTypes schema table output input columns nodes) ∧
    ∃ error, (runIn (buildSchema (.of sampleTables { Naming.qualified with
      columnField := fun _ => "value" }
      .default) samplePlugins) .initial).1 = .error error := by
  have chosen : samplePlugins.Perm
      [.standardTypes, .tables, .nodeIds [("node", "Node")], sampleOverrides] :=
    .swap ..
  have hookFree (naming : Naming) : ∀ plugin ∈ [sampleOverrides],
      plugin.HookFree (.of sampleTables naming .default) := by
    intro plugin listed
    obtain rfl := List.mem_singleton.1 listed
    refine hookFree_script "Overrides" fun entry listed => ?_
    obtain rfl := List.mem_singleton.1 listed
    exact nofun
  refine ⟨chosen, fun naming => hookFree naming _ (List.mem_singleton_self _), ?_, ?_⟩
  · have succeeds : (runIn (buildSchema (.of sampleTables .qualified .default) samplePlugins)
        .initial).1.isOk = true := by decide +kernel
    cases built : (runIn (buildSchema (.of sampleTables .qualified .default) samplePlugins)
      .initial).1 with
    | error error =>
      rw [built] at succeeds
      cases succeeds
    | ok schema =>
      obtain ⟨types, -⟩ :=
        row_types_of_catalog sampleTables .qualified .default _ chosen (hookFree _)
      exact ⟨schema, rfl, (types schema built).2⟩
  · obtain ⟨-, fails⟩ := row_types_of_catalog sampleTables
      { Naming.qualified with columnField := fun _ => "value" } .default _ chosen (hookFree _)
    exact fails _ (List.mem_cons_self ..) (.inl (by decide))

end CatalogSchema
