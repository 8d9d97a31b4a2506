/-
**The fields of columns.**

A column gives its row type one output field, and one input field if its type has an input type.
Both are read off the registry that resolved the column's type, and stay right in every later one.

* `FieldSet.Distinct`: fields under their own names, no two alike; what adding a field keeps.
* `ColumnField`, `columnInput`: the two fields of a column, from what a registry holds for its type.
* `yields_columnsFields`: the fields of all columns, in their order.
* `NodeIds.Identifies`, `NodeIds.yields_addField`: the field of the identifier, if there is a
  primary key.
-/

import CatalogSchema.Plugin.NodeIds
import CatalogSchema.Plugin.Tables
import CatalogSchema.Proofs.Build.Running
import CatalogSchema.Proofs.Resolution.Nullability
import Mathlib.Data.List.Forall2

namespace CatalogSchema

open Build

/-! ### Sets of fields -/

namespace FieldSet

/-- Every field has the name under which it was defined, and no two fields have one name. -/
structure Distinct (set : FieldSet Field) : Prop where
  named : ∀ field ∈ set.fields, field.value.name = field.name
  nodup : (set.fields.map (·.name)).Nodup

theorem distinct_empty (owner : String) : (empty owner : FieldSet Field).Distinct :=
  ⟨nofun, List.nodup_nil⟩

/-- The fields themselves have distinct names. -/
theorem Distinct.nodup_values {set : FieldSet Field} (distinct : set.Distinct) :
    (set.values.map (·.name)).Nodup := by
  have same : set.values.map (·.name) = set.fields.map (·.name) := by
    unfold values
    rw [List.map_map]
    exact List.map_congr_left distinct.named
  rw [same]
  exact distinct.nodup

/-- A field that is added comes last, and its name was free. -/
theorem Distinct.insert {set changed : FieldSet Field} (distinct : set.Distinct)
    {field : FieldDefinition Field} (named : field.value.name = field.name)
    (added : set.insert field = .ok changed) :
    changed.Distinct ∧ changed.values = set.values ++ [field.value] := by
  unfold FieldSet.insert at added
  cases found : set.find? field.name with
  | some other =>
    rw [found] at added
    cases added
  | none =>
    rw [found] at added
    cases added
    have free : field.name ∉ set.fields.map (·.name) := by
      unfold find? at found
      simpa using found
    refine ⟨⟨fun other listed => ?_, ?_⟩, List.map_append ..⟩
    · rcases List.mem_append.1 listed with listed | listed
      · exact distinct.named other listed
      · obtain rfl := List.mem_singleton.1 listed
        exact named
    · rw [List.map_append]
      refine List.nodup_append.2
        ⟨distinct.nodup, List.pairwise_singleton _ _, fun name taken other same => ?_⟩
      obtain rfl := List.mem_singleton.1 same
      exact ne_of_mem_of_not_mem taken free

end FieldSet

/-- Without hooks on fields a field is what its definition says. -/
theorem yields_define_iff {tracker : FieldTracker (StateM Workspace) Field}
    (plain : ∀ field context, tracker.finish field context = pure field) {name : String}
    {tags : FieldScope} {value : FieldContext → Field} {before after : Workspace}
    {defined : FieldDefinition Field} :
    Yields (tracker.define name tags fun context => pure (value context)) before defined after ↔
      ⟨name, value ⟨tracker.owner, name, tags.«over» tracker.scope⟩, tags.«over» tracker.scope⟩ =
        defined ∧
        before = after := by
  unfold FieldTracker.define
  simp only [plain, yields_bind_iff, yields_adapt_iff, yields_pure_iff]
  constructor
  · rintro ⟨_, _, ⟨rfl, rfl⟩, _, _, ⟨rfl, rfl⟩, rfl, rfl⟩
    exact ⟨rfl, rfl⟩
  · rintro ⟨rfl, rfl⟩
    exact ⟨_, _, ⟨rfl, rfl⟩, _, _, ⟨rfl, rfl⟩, rfl, rfl⟩

/-! ### Columns -/

/-- A settled id keeps its conversion. -/
theorem Registry.Grows.codecFor {earlier later : Registry} (grows : earlier.Grows later)
    {id : TypeId} {entry : TypeEntry} (settled : earlier.types.find? id = some entry)
    (setting : Setting) :
    later.codecFor setting id = earlier.codecFor setting id := by
  unfold Registry.codecFor
  rw [grows.codecs_kept settled, grows.plain_kept settled]

/-- The type of a column over the output type of its values: that type, or its non-null type if the
column is never null. -/
def Attribute.Types (column : Attribute) (output type : SchemaType) : Prop :=
  if column.notNull then type.IsNonNullOf output else type = output

/-- The output field of a column: its value is that of the column, converted as the registry
converts values of the column's type. -/
structure ColumnField (setting : Setting) (registry : Registry) (column : Attribute)
    (field : Field) : Prop where
  name : field.name = setting.naming.columnField column.name
  description : field.description = column.description
  type : ∃ entry, registry.types.find? column.typeId = some entry ∧
    column.Types entry.output field.type
  source : ∃ served, registry.codecFor setting column.typeId = .ok served ∧
    field.source = .column column.name served.codec

/-- The input field of a column, if its type has an input type. -/
def columnInput (setting : Setting) (registry : Registry) (column : Attribute) :
    Option InputField :=
  ((registry.types.find? column.typeId).bind (·.input)).map fun input =>
    ⟨setting.naming.columnField column.name, column.description, input⟩

section Columns

variable {setting : Setting} {earlier later : Registry} {column : Attribute}

theorem columnInput_of_settled {entry : TypeEntry}
    (settled : earlier.types.find? column.typeId = some entry) :
    columnInput setting earlier column = entry.input.map fun input =>
      ⟨setting.naming.columnField column.name, column.description, input⟩ := by
  unfold columnInput
  rw [settled, Option.bind_some]

theorem ColumnField.grows {field : Field} (grows : earlier.Grows later)
    (made : ColumnField setting earlier column field) : ColumnField setting later column field := by
  obtain ⟨entry, settled, types⟩ := made.type
  obtain ⟨served, serves, source⟩ := made.source
  exact ⟨made.name, made.description, ⟨entry, grows.types_kept settled, types⟩,
    served, (grows.codecFor settled setting).trans serves, source⟩

theorem ColumnField.columnInput_grows {field : Field} (grows : earlier.Grows later)
    (made : ColumnField setting earlier column field) :
    columnInput setting later column = columnInput setting earlier column := by
  obtain ⟨entry, settled, -⟩ := made.type
  rw [columnInput_of_settled settled, columnInput_of_settled (grows.types_kept settled)]

/-- The fields of columns stay right. -/
theorem columnFields_grow (grows : earlier.Grows later) {columns : List Attribute}
    {fields : List Field} (made : List.Forall₂ (ColumnField setting earlier) columns fields) :
    List.Forall₂ (ColumnField setting later) columns fields ∧
      columns.filterMap (columnInput setting later) =
        columns.filterMap (columnInput setting earlier) := by
  induction made with
  | nil => exact ⟨.nil, rfl⟩
  | cons first _ ih =>
    refine ⟨.cons (first.grows grows) ih.1, ?_⟩
    rw [List.filterMap_cons, List.filterMap_cons, first.columnInput_grows grows, ih.2]

/-- Fields named after columns, in the order of the columns. -/
theorem names_of_columns {columns : List Attribute} {fields : List Field}
    (named : List.Forall₂ (fun column field => field.name = setting.naming.columnField column.name)
      columns fields) :
    fields.map (·.name) = columns.map fun column => setting.naming.columnField column.name := by
  induction named with
  | nil => rfl
  | cons first _ ih => rw [List.map_cons, List.map_cons, first, ih]

/-- The input fields have the names of columns, in the order of the columns. -/
theorem names_of_columnInputs_sublist (columns : List Attribute) :
    ((columns.filterMap (columnInput setting earlier)).map (·.name)).Sublist
      (columns.map fun column => setting.naming.columnField column.name) := by
  induction columns with
  | nil => exact .slnil
  | cons column rest ih =>
    rw [List.filterMap_cons, List.map_cons]
    unfold columnInput
    cases (earlier.types.find? column.typeId).bind (·.input) with
    | none => exact ih.cons _
    | some input => exact ih.cons_cons _

end Columns

namespace Tables

variable {context : TypesContext} {tracker : FieldTracker (StateM Workspace) Field}
  {table : Descriptor} {before after : Workspace}

theorem yields_columnCodec {setting : Setting} {column : Attribute} {codec : Codec}
    (ran : Yields (columnCodec setting table column) before codec after) :
    (∃ served, before.registry.codecFor setting column.typeId = .ok served ∧ served.codec = codec) ∧
      before = after := by
  unfold columnCodec at ran
  obtain ⟨_, _, found, ran⟩ := yields_bind_iff.1 ran
  obtain ⟨rfl, rfl⟩ := yields_get_iff.1 found
  cases serves : before.registry.codecFor setting column.typeId with
  | error error =>
    rw [serves] at ran
    exact absurd ran not_yields_throw
  | ok served =>
    rw [serves] at ran
    obtain ⟨rfl, rfl⟩ := yields_pure_iff.1 ran
    exact ⟨⟨served, rfl, rfl⟩, rfl⟩

/-- Makes the type of a column. -/
def columnType (column : Attribute) (output : SchemaType) : Build SchemaType :=
  if column.notNull then make (·.nonNull output) else pure output

theorem columnFields_eq (column : Attribute) :
    columnFields context tracker table column = (do
      let entry ← ofResolve (Resolve.entry context.setting column.typeId)
      let codec ← columnCodec context.setting table column
      let type ← columnType column entry.output
      let name := context.setting.naming.columnField column.name
      let field ← ofPhase (tracker.define name
        (.ofTags [(columnTag, .string column.name)]) fun field =>
        pure ⟨field.fieldName, column.description, type, .column column.name codec⟩)
      return (field, entry.input.map fun input => ⟨name, column.description, input⟩)) := by
  unfold columnFields columnType
  by_cases never : column.notNull
  · simp only [if_pos never]
  · simp only [if_neg never]

theorem yields_columnType {column : Attribute} {output type : SchemaType}
    (ran : Yields (columnType column output) before type after) :
    column.Types output type ∧ before.registry.OnlyMakes after.registry := by
  unfold columnType at ran
  unfold Attribute.Types
  by_cases never : column.notNull
  · rw [if_pos never] at ran ⊢
    obtain ⟨rfl, rfl⟩ := yields_make_iff.1 ran
    exact ⟨TypePool.nonNull_isNonNullOf _ _, _, TypePool.grows_nonNull _ _, rfl⟩
  · rw [if_neg never] at ran ⊢
    obtain ⟨rfl, rfl⟩ := yields_pure_iff.1 ran
    exact ⟨rfl, .refl _⟩

/-- **The fields of one column.** -/
theorem yields_columnFields (plain : ∀ field context, tracker.finish field context = pure field)
    (sound : Sound context.setting before.registry) {column : Attribute}
    {made : FieldDefinition Field × Option InputField}
    (ran : Yields (columnFields context tracker table column) before made after) :
    ColumnField context.setting after.registry column made.1.value ∧
      made.1.value.name = made.1.name ∧
      made.2 = columnInput context.setting after.registry column ∧
      Run context.setting Request.Resolving before.registry after.registry := by
  rw [columnFields_eq] at ran
  simp only [yields_bind_iff, yields_ofPhase_iff, yields_define_iff plain, yields_pure_iff] at ran
  obtain ⟨entry, resolved, resolves, codec, _, converts, type, typed, typesColumn,
    _, _, ⟨rfl, rfl⟩, rfl, rfl⟩ := ran
  obtain ⟨settled, run⟩ := yields_entry sound resolves
  obtain ⟨⟨served, serves, rfl⟩, rfl⟩ := yields_columnCodec converts
  obtain ⟨types, makes⟩ := yields_columnType typesColumn
  have made : ColumnField context.setting resolved.registry column
      ⟨context.setting.naming.columnField column.name, column.description, type,
        .column column.name served.codec⟩ :=
    ⟨rfl, rfl, ⟨entry, settled, types⟩, served, serves, rfl⟩
  rw [made.columnInput_grows makes.grows, columnInput_of_settled settled]
  exact ⟨made.grows makes.grows, rfl, rfl, run.makes makes⟩

/-- **The fields of columns in order.** What is settled for a column stays while the later ones are
made. -/
theorem yields_columnsFields (plain : ∀ field context, tracker.finish field context = pure field)
    {columns : List Attribute} {fields : FieldSet Field} (distinct : fields.Distinct)
    {inputs : List InputField} (sound : Sound context.setting before.registry)
    {made : FieldSet Field × List InputField}
    (ran : Yields (columnsFields context tracker table fields inputs columns) before made after) :
    Run context.setting Request.Resolving before.registry after.registry ∧ made.1.Distinct ∧
      made.2 = inputs ++ columns.filterMap (columnInput context.setting after.registry) ∧
      ∃ added, made.1.values = fields.values ++ added ∧
        List.Forall₂ (ColumnField context.setting after.registry) columns added := by
  induction columns generalizing before fields inputs with
  | nil =>
    obtain ⟨rfl, rfl⟩ := yields_pure_iff.1 ran
    exact ⟨.start, distinct, (List.append_nil _).symm, [], (List.append_nil _).symm, .nil⟩
  | cons column rest ih =>
    unfold columnsFields at ran
    simp only [yields_bind_iff, yields_ofPipeline_iff] at ran
    obtain ⟨⟨field, input⟩, between, ranColumn, next, _, ⟨added, rfl⟩, ranRest⟩ := ran
    obtain ⟨first, named, rfl, run⟩ := yields_columnFields plain sound ranColumn
    obtain ⟨distinctNext, values⟩ := distinct.insert named added
    have soundBetween := run.sound sound
    obtain ⟨runRest, distinctLast, inputsLast, others, valuesLast, made⟩ :=
      ih distinctNext soundBetween ranRest
    have grows := runRest.grows soundBetween
    refine ⟨run.trans runRest, distinctLast, ?_, field.value :: others, ?_,
      .cons (first.grows grows) made⟩
    · rw [inputsLast, List.append_assoc, ← first.columnInput_grows grows, List.filterMap_cons]
      cases columnInput context.setting after.registry column <;> rfl
    · rw [valuesLast, values, List.append_assoc]
      rfl

end Tables

/-! ### Identifiers -/

namespace NodeIds

/-- The fields that identify a row: one of type `ID!` if some column is in the primary key, else
none. -/
inductive Identifies (scalars : StandardScalars) (columns : List Attribute) : List Field → Prop
  | keyless (unkeyed : ∀ column ∈ columns, column.primaryKey = false) :
      Identifies scalars columns []
  | keyed {column : Attribute} (listed : column ∈ columns) (key : column.primaryKey = true)
      {field : Field} (name : field.name = fieldName) {serial : Nat}
      (type : field.type = .nonNull serial scalars.id) :
      Identifies scalars columns [field]

/-- What is added to a row type, by what hooks of the fields phase see of it: a field for the
identifier if there is a primary key, else nothing. -/
inductive Adds (context : ObjectContext) : List Field → Prop
  | keyless (unkeyed : ∀ column ∈ context.descriptor.attributes, column.primaryKey = false) :
      Adds context []
  | keyed {column : Attribute} (listed : column ∈ context.descriptor.attributes)
      (key : column.primaryKey = true) {type : SchemaType}
      (wraps : type.IsNonNullOf context.setting.scalars.id) (description : Option String)
      (table : AliasTable) :
      Adds context [⟨fieldName, description, type,
        .nodeId context.typeName (context.descriptor.primaryKey.map (·.name)) table⟩]

theorem Adds.identifies {context : ObjectContext} (nullable : context.setting.scalars.id.Nullable)
    {nodes : List Field} (adds : Adds context nodes) :
    Identifies context.setting.scalars context.descriptor.attributes nodes := by
  cases adds with
  | keyless unkeyed => exact .keyless unkeyed
  | keyed listed key wraps =>
    obtain ⟨serial, type⟩ := wraps.wraps nullable
    exact .keyed listed key rfl type

/-- **The field of the identifier** is added last. -/
theorem yields_addField {context : ObjectContext}
    (plain : ∀ field about, context.finishField field about = pure field)
    {fields changed : FieldSet Field} (distinct : fields.Distinct) {before after : Workspace}
    (ran : Yields (addField fields context) before changed after) :
    changed.Distinct ∧ before.registry.OnlyMakes after.registry ∧
      ∃ nodes, changed.values = fields.values ++ nodes ∧ Adds context nodes := by
  unfold addField at ran
  by_cases keyless : (context.descriptor.primaryKey.map (·.name)).isEmpty
  · rw [if_pos keyless] at ran
    obtain ⟨rfl, rfl⟩ := yields_pure_iff.1 ran
    refine ⟨distinct, .refl _, [], (List.append_nil _).symm, .keyless ?_⟩
    simpa [Descriptor.primaryKey] using keyless
  · rw [if_neg keyless] at ran
    simp only [yields_bind_iff, yields_ofPipeline_iff, yields_make_iff, yields_ofPhase_iff] at ran
    obtain ⟨table, _, ⟨-, rfl⟩, type, _, ⟨rfl, rfl⟩, field, _, defined, added, rfl⟩ := ran
    obtain ⟨rfl, rfl⟩ := (yields_define_iff plain).1 defined
    obtain ⟨distinctAfter, values⟩ := distinct.insert rfl added
    have keyed : ∃ column ∈ context.descriptor.attributes, column.primaryKey = true := by
      simpa [Descriptor.primaryKey] using keyless
    obtain ⟨column, listed, key⟩ := keyed
    exact ⟨distinctAfter, ⟨_, before.registry.pool.grows_nonNull _, rfl⟩, [_], values,
      .keyed listed key (before.registry.pool.nonNull_isNonNullOf _) _ table⟩

end NodeIds

end CatalogSchema
