/-
**The objects of row types.**

* `TableBuilt`: the object and the input object of a row type have the fields of its columns, and
  whatever the fields phase added. It stays so in every later registry.
* `yields_buildTable`: building a declared row type. What it refers to may be declared only, itself
  included.
* `yields_buildTables`: building all row types.
-/

import CatalogSchema.Proofs.Build.Columns
import CatalogSchema.Proofs.Build.Registering

namespace CatalogSchema

open Build

/-! ### Giving objects their fields -/

namespace TypePool

variable {pool changed : TypePool} {serial : Nat} {name : String} {description : Option String}

theorem find?_of_setFields {fields : List Field}
    (given : pool.setFields (.object serial name description) fields = .ok changed) :
    changed.fields.find? serial = some fields := by
  unfold setFields at given
  dsimp only at given
  split at given
  · cases given
  · cases given
    exact SortedMap.find?_insert_self _ _ _

theorem fieldsOf_of_found {fields : List Field} (found : pool.fields.find? serial = some fields) :
    pool.fieldsOf (.object serial name description) = fields :=
  congrArg (·.getD []) found

theorem inputFieldsOf_of_found {fields : List InputField}
    (found : pool.inputFields.find? serial = some fields) :
    pool.inputFieldsOf (.inputObject serial name description) = fields :=
  congrArg (·.getD []) found

theorem find?_of_setInputFields {fields : List InputField}
    (given : pool.setInputFields (.inputObject serial name description) fields = .ok changed) :
    changed.inputFields.find? serial = some fields := by
  unfold setInputFields at given
  dsimp only at given
  split at given
  · cases given
  · cases given
    exact SortedMap.find?_insert_self _ _ _

end TypePool

/-! ### One row type -/

/-- No hook changes a field, and those on the fields of a row type add fields of a certain sort at
the end. -/
structure TypesContext.Finishes (context : TypesContext)
    (adds : List Attribute → List Field → Prop) : Prop where
  field : ∀ field about, context.finishField field about = pure field
  fields : ∀ ⦃table typeName scope fields before changed after⦄, fields.Distinct →
    Yields (context.finishFields fields (context.objectContext table typeName scope))
      before changed after →
    changed.Distinct ∧ before.registry.OnlyMakes after.registry ∧
      ∃ added, changed.values = fields.values ++ added ∧ adds table.attributes added

/-- The objects of a row type have the fields of its columns, and further fields after them. -/
structure TableBuilt (setting : Setting) (registry : Registry) (table : Descriptor)
    (outputSerial inputSerial : Nat) (columns added : List Field) : Prop where
  declared : Tables.Declared setting registry table outputSerial inputSerial
  settled : registry.types.find? table.id =
    some (Tables.typesOf setting table outputSerial inputSerial)
  fields : registry.pool.fields.find? outputSerial = some (columns ++ added)
  inputs : registry.pool.inputFields.find? inputSerial =
    some (table.attributes.filterMap (columnInput setting registry))
  each : List.Forall₂ (ColumnField setting registry) table.attributes columns
  distinct : ((columns ++ added).map (·.name)).Nodup

theorem TableBuilt.grows {setting : Setting} {earlier later : Registry}
    (grows : earlier.Grows later) {table : Descriptor} {outputSerial inputSerial : Nat}
    {columns added : List Field}
    (built : TableBuilt setting earlier table outputSerial inputSerial columns added) :
    TableBuilt setting later table outputSerial inputSerial columns added := by
  obtain ⟨columnsLater, inputsLater⟩ := columnFields_grow grows built.each
  refine ⟨built.declared.grows grows, grows.types_kept built.settled,
    grows.pool.fields_kept built.declared.output_made built.fields, ?_, columnsLater,
    built.distinct⟩
  rw [inputsLater]
  exact grows.pool.inputFields_kept built.declared.input_made built.inputs

namespace Tables

variable {context : TypesContext} {adds : List Attribute → List Field → Prop} {table : Descriptor}
  {before after : Workspace}

/-- Giving the objects of a row type their fields changes the pool alone. -/
theorem yields_setFields {outputSerial inputSerial : Nat} {outputName inputName : String}
    {outputNote inputNote : Option String} {fields : List Field} {inputs : List InputField}
    (made : outputSerial < before.registry.pool.next) {between : Workspace} {first second : Unit}
    (gives : Yields (updatePool (·.setFields (.object outputSerial outputName outputNote) fields))
      before first between)
    (givesInput : Yields
      (updatePool (·.setInputFields (.inputObject inputSerial inputName inputNote) inputs))
      between second after) :
    before.registry.OnlyMakes after.registry ∧
      after.registry.pool.fields.find? outputSerial = some fields ∧
      after.registry.pool.inputFields.find? inputSerial = some inputs := by
  obtain ⟨stored, given, rfl⟩ := yields_updatePool_iff.1 gives
  obtain ⟨pool, givenInput, rfl⟩ := yields_updatePool_iff.1 givesInput
  have early : before.registry.pool.Grows stored := TypePool.grows_setFields _ given
  have late : stored.Grows pool := stored.grows_setInputFields givenInput
  have kept := late.fields_kept (Nat.lt_of_lt_of_le made early.next_le)
    (TypePool.find?_of_setFields given)
  exact ⟨⟨pool, early.trans late, rfl⟩, kept, TypePool.find?_of_setInputFields givenInput⟩

/-- **Building one row type.** -/
theorem yields_buildTable (finishes : context.Finishes adds) {outputSerial inputSerial : Nat}
    (declared : Declared context.setting before.registry table outputSerial inputSerial)
    (sound : Sound context.setting before.registry) {type : SchemaType}
    (ran : Yields (buildTable context table) before type after) :
    Run context.setting Request.Resolving before.registry after.registry ∧
      ∃ columns added, adds table.attributes added ∧
        TableBuilt context.setting after.registry table outputSerial inputSerial columns added := by
  unfold buildTable at ran
  simp only [yields_bind_iff, yields_ofPhase_iff] at ran
  obtain ⟨entry, resolved, resolves, ⟨fields, inputs⟩, made, ranColumns, completed,
    finished, ranFinish, _, stored, gives, ran⟩ := ran
  obtain ⟨settled, run⟩ := yields_entry sound resolves
  have soundResolved := run.sound sound
  have declaredResolved := declared.grows (run.grows sound)
  -- The override decides, so that the objects are the declared ones.
  obtain ⟨rfl, -⟩ := soundResolved.settled_overridden settled declaredResolved.mapped
  obtain ⟨runColumns, distinct, rfl, columns, values, each⟩ :=
    yields_columnsFields finishes.field (FieldSet.distinct_empty _) soundResolved ranColumns
  obtain ⟨distinctAfter, finishing, added, valuesAfter, sort⟩ := finishes.fields distinct ranFinish
  obtain ⟨_, _, givesInput, done⟩ := yields_bind_iff.1 ran
  obtain ⟨-, rfl⟩ := yields_pure_iff.1 done
  have growsMade := runColumns.grows soundResolved
  have declaredFinished := (declaredResolved.grows growsMade).grows finishing.grows
  obtain ⟨storing, fieldsLast, inputsLast⟩ :=
    yields_setFields declaredFinished.output_made gives givesInput
  have makes := finishing.trans storing
  obtain ⟨eachLast, inputsKept⟩ := columnFields_grow makes.grows each
  have names := distinctAfter.nodup_values
  rw [valuesAfter, values] at fieldsLast names
  refine ⟨(run.trans runColumns).makes makes, columns, added, sort,
    declaredFinished.grows storing.grows,
    makes.grows.types_kept (growsMade.types_kept settled), fieldsLast, ?_, eachLast, names⟩
  rw [inputsKept]
  exact inputsLast

/-- **Building all row types.** -/
theorem yields_buildTables (finishes : context.Finishes adds)
    (declared : ∀ table ∈ context.setting.catalog.composites, ∃ outputSerial inputSerial,
      Declared context.setting before.registry table outputSerial inputSerial)
    (sound : Sound context.setting before.registry) {contributed types : List SchemaType}
    (ran : Yields (buildTables contributed context) before types after) :
    Run context.setting Request.Resolving before.registry after.registry ∧
      ∀ table ∈ context.setting.catalog.composites, ∃ outputSerial inputSerial columns added,
        adds table.attributes added ∧
          TableBuilt context.setting after.registry table outputSerial inputSerial
            columns added := by
  obtain ⟨results, _, built, done⟩ := yields_bind_iff.1 ran
  obtain ⟨-, rfl⟩ := yields_pure_iff.1 done
  have stays ⦃table earlier later⦄ (grows : earlier.Grows later) :
      (∃ outputSerial inputSerial columns added, adds table.attributes added ∧
        TableBuilt context.setting earlier table outputSerial inputSerial columns added) →
      ∃ outputSerial inputSerial columns added, adds table.attributes added ∧
        TableBuilt context.setting later table outputSerial inputSerial columns added :=
    fun ⟨outputSerial, inputSerial, columns, added, sort, built⟩ =>
      ⟨outputSerial, inputSerial, columns, added, sort, built.grows grows⟩
  refine yields_mapM stays sound
    (fun table listed between type later soundBetween grows ran => ?_) built
  obtain ⟨outputSerial, inputSerial, here⟩ := declared table listed
  obtain ⟨run, columns, added, sort, built⟩ :=
    yields_buildTable finishes (here.grows grows) soundBetween ran
  exact ⟨run, outputSerial, inputSerial, columns, added, sort, built⟩

end Tables

end CatalogSchema
