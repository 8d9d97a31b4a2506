/-
**Who is blamed for a missing type.**

A build with the plugins for well-known types, row types and identifiers resolves the columns of the
row types. A type that is missing below a column is blamed on the descriptor that refers to it. The
type of the column itself is asked for without a referrer, so if that is missing, the caller is
blamed and not the row type.

* `BuildError.missing?`: the missing type behind an error, and who is blamed for it.
* `Blamed`: what is known of both.
* `ResolutionFault.blamesWell`: who is blamed by a resolution.
* `BuildEngine.IsStandard`: the hooks of these plugins, whose errors blame no one else.
* `missing_types_blamed`: who is blamed when such a build fails.
-/

import CatalogSchema.Proofs.Build.PlainErrors
import CatalogSchema.Proofs.Build.Registering
import CatalogSchema.Proofs.Catalog.Listing

namespace CatalogSchema

open Build

/-! ### Missing types -/

mutual

/-- The type that is missing behind an error of a build, and who is blamed for it. -/
def BuildError.missing? : BuildError → Option (TypeId × String)
  | .missingDescriptor id referrer => some (id, referrer)
  | .typeResolution _ _ source => source.missing?
  | .pipeline error => error.missing?
  | _ => none

/-- The type that is missing behind an error of a phase, and who is blamed for it. -/
def PipelineError.missing? : PipelineError → Option (TypeId × String)
  | .hookFailed _ _ source => source.missing?
  | .fieldDefinition _ source => source.missing?
  | _ => none

/-- The type that is missing behind an error of a hook, and who is blamed for it. -/
def HookError.missing? : HookError → Option (TypeId × String)
  | .build error => error.missing?
  | .pipeline error => error.missing?
  | .message _ => none

end

/-- A descriptor refers to a type as its item, base or subtype, or as the type of an attribute. -/
def Descriptor.RefersTo (descriptor : Descriptor) (id : TypeId) : Prop :=
  (∃ role, descriptor.child? role = some id) ∨ ∃ column ∈ descriptor.attributes, column.typeId = id

/-- A row type has a column of a type. -/
def Catalog.HasColumn (catalog : Catalog) (id : TypeId) : Prop :=
  ∃ table ∈ catalog.composites, ∃ column ∈ table.attributes, column.typeId = id

/-- What is known of a missing type and of who is blamed for it: a descriptor that refers to it, or
the caller, and then it is the type of a column. -/
structure Blamed (catalog : Catalog) (id : TypeId) (referrer : String) : Prop where
  missing : catalog.find? id = none
  named : (∃ descriptor ∈ catalog.toList, descriptor.displayName = referrer ∧
    descriptor.RefersTo id) ∨
    referrer = "the caller" ∧ catalog.HasColumn id

/-- An error that blames in this way, if a type is missing behind it. -/
def BlamesWell (catalog : Catalog) (error : BuildError) : Prop :=
  ∀ id referrer, error.missing? = some (id, referrer) → Blamed catalog id referrer

/-! ### Errors of resolution -/

/-- No type is missing behind a plain error. -/
theorem PipelineError.Plain.missing? {error : PipelineError} (plain : error.Plain) :
    error.missing? = none := by
  cases error with
  | hookFailed | fieldDefinition => exact plain.elim
  | _ => rfl

theorem BuildError.Plain.blamesWell (catalog : Catalog) (error : BuildError) (plain : error.Plain) :
    BlamesWell catalog error := by
  intro id referrer missing
  cases error with
  | configuration | duplicateOverride | duplicateTypeName => cases missing
  | pipeline error => cases (PipelineError.Plain.missing? plain).symm.trans missing
  | missingDescriptor | enumNameCollision | recursionLimit | typeResolution => exact plain.elim

/-- What is met below an id is in the catalog. -/
theorem Catalog.mem_toList_of_descendant? {catalog : Catalog} {steps : Nat} {id : TypeId}
    {last : Descriptor} (met : catalog.descendant? steps id = some last) :
    last ∈ catalog.toList := by
  induction steps generalizing id with
  | zero => exact mem_toList_iff.2 ⟨id, met⟩
  | succ steps ih =>
    obtain ⟨childId, -, metBelow⟩ := Option.bind_eq_some_iff.1 met
    exact ih metBelow

/-- **Who is blamed by a resolution**: the descriptor that refers to the missing type. The caller is
blamed for the id itself, which is known, or the type of a column. -/
theorem ResolutionFault.blamesWell {setting : Setting} {id : TypeId} {error : BuildError}
    (fault : ResolutionFault setting id "the caller" error)
    (asked : (∃ descriptor, setting.catalog.find? id = some descriptor) ∨
      setting.catalog.HasColumn id) :
    BlamesWell setting.catalog error := by
  intro missingId referrer missing
  cases fault with
  | unknown unknown =>
    -- The id itself is missing, so it was asked for as the type of a column.
    cases missing
    refine ⟨unknown, .inr ⟨rfl, asked.resolve_left fun ⟨descriptor, known⟩ => ?_⟩⟩
    cases unknown.symm.trans known
  | tooDeep met => cases missing
  | within met because =>
    cases because with
    | missing below metReferrer refers unknown =>
      cases missing
      obtain ⟨role, -, inRole⟩ := Descriptor.exists_role_of_childId? refers
      exact ⟨unknown,
        .inl ⟨_, Catalog.mem_toList_of_descendant? metReferrer, rfl, .inl ⟨role, inRole⟩⟩⟩
    | configuration | collision => cases missing

/-! ### The plugins at hand -/

/-- The plugins for well-known types, row types and identifiers. -/
inductive Plugin.IsStandard : Plugin → Prop
  | standardTypes : IsStandard .standardTypes
  | tables : IsStandard .tables
  | nodeIds (aliases : List (String × String)) : IsStandard (.nodeIds aliases)

/-- An engine with no other hooks than these plugins have. -/
structure BuildEngine.IsStandard (engine : BuildEngine) : Prop where
  proper : engine.Proper
  hooks : ∀ phase, ∀ hook ∈ engine.hooks phase,
    hook ∈ Tables.hooks phase ∨ ∃ aliases, hook ∈ NodeIds.hooks aliases phase

namespace BuildEngine.IsStandard

variable {engine changed : BuildEngine}

theorem gains (standard : engine.IsStandard) {added : AddedHooks}
    (gained : engine.Gains added changed) (each : ∀ phase, ∀ hook ∈ added phase,
      hook ∈ Tables.hooks phase ∨ ∃ aliases, hook ∈ NodeIds.hooks aliases phase) :
    changed.IsStandard where
  proper := gained.proper
  hooks phase hook listed := by
    rw [gained.hooks, List.mem_append] at listed
    exact listed.elim (standard.hooks phase hook) (each phase hook)

theorem hooks_field (standard : engine.IsStandard) : engine.hooks .field = [] := by
  refine List.eq_nil_iff_forall_not_mem.2 fun hook listed => ?_
  rcases standard.hooks .field hook listed with listed | ⟨_, listed⟩ <;> cases listed

/-- **Registering such a plugin** adds its hooks, and its own errors are plain. -/
theorem concludes_register {fault : BuildError → Prop}
    (plain : ∀ error : BuildError, error.Plain → fault error) (standard : engine.IsStandard)
    (setting : Setting) {plugin : Plugin} (chosen : plugin.IsStandard) :
    Concludes fault BuildEngine.IsStandard (plugin.register setting engine) := by
  cases chosen with
  | standardTypes => exact .bind (StandardTypes.throws_register plain) fun _ _ => .pure standard
  | tables =>
    refine .bind (.forM fun table _ => Tables.throws_declare plain setting table) fun _ _ => ?_
    refine (concludes_addHook plain standard.proper _ _).mono
      (fun _ known => known) fun _ gained => ?_
    exact standard.gains gained fun phase hook listed => .inl listed
  | nodeIds aliases =>
    refine .bind (concludes_addHook plain standard.proper _ _) fun between first => ?_
    refine (concludes_addHook plain first.proper _ _).mono (fun _ known => known) fun _ second => ?_
    exact standard.gains (first.trans second) fun phase hook listed => .inr ⟨aliases, listed⟩

/-! ### Phases -/

variable {setting : Setting}

theorem throws_field {fault : PipelineError → Prop} (standard : engine.IsStandard) (field : Field)
    (within : FieldContext) : Throws fault (engine.runPhase .field field within) := by
  rw [runPhase_of_no_hooks standard.proper standard.hooks_field]
  exact .pure trivial

/-- The state phase resolves nothing. -/
theorem throws_state (standard : engine.IsStandard) (catalog : Catalog) (initial : BuildState)
    (context : StateContext) :
    Throws (fun error => BlamesWell catalog (.pipeline error))
      (engine.runPhase .state initial context) := by
  refine @throws_runPhase engine standard.proper .state _ context
    (fun hook listed value => ?_) initial
  rcases standard.hooks .state hook listed with listed | ⟨aliases, listed⟩
  · cases listed
  · obtain rfl := List.mem_singleton.1 listed
    refine .bind (.adapt (.modifyGet _) fun _ (failed : False) => failed.elim) fun table _ => ?_
    refine .adapt (.outcome (fun error refused => ?_) fun _ _ => trivial) fun _ known => known
    exact BuildError.Plain.blamesWell catalog (.pipeline error)
      (Capabilities.plain_of_extend refused)

/-- The fields phase resolves nothing. -/
theorem throws_fields (standard : engine.IsStandard) (catalog : Catalog) (fields : FieldSet Field)
    {context : ObjectContext}
    (finish : ∀ field within, Throws (fun error => BlamesWell catalog (.pipeline error))
      (context.finishField field within)) :
    Throws (fun error => BlamesWell catalog (.pipeline error))
      (engine.runPhase .fields fields context) := by
  refine @throws_runPhase engine standard.proper .fields _ context
    (fun hook listed value => ?_) fields
  rcases standard.hooks .fields hook listed with listed | ⟨aliases, listed⟩
  · cases listed
  · obtain rfl := List.mem_singleton.1 listed
    have added := NodeIds.throws_addField (BuildError.Plain.blamesWell catalog) finish value
    exact .adapt added fun _ known => known

/-- **The types phase** resolves row types, which are known, and the types of their columns. -/
theorem throws_types (standard : engine.IsStandard)
    (own : ∀ table ∈ setting.catalog.composites,
      ∃ descriptor, setting.catalog.find? table.id = some descriptor)
    (state : BuildState) :
    Throws (fun error => BlamesWell setting.catalog (.pipeline error))
      (engine.runPhase .types [] (engine.typesContext setting state)) := by
  refine @throws_runPhase engine standard.proper .types _ _ (fun hook listed value => ?_) []
  rcases standard.hooks .types hook listed with listed | ⟨aliases, listed⟩
  · obtain rfl := List.mem_singleton.1 listed
    have resolves {id : TypeId}
        (asked : (∃ descriptor, setting.catalog.find? id = some descriptor) ∨
          setting.catalog.HasColumn id) :
        Throws (BlamesWell setting.catalog) (Resolve.entry setting id) :=
      Resolve.throws_entry fun _ fault => fault.blamesWell asked
    have built : Throws (BlamesWell setting.catalog)
        (Tables.buildTables value (engine.typesContext setting state)) := Tables.throws_buildTables
      (BuildError.Plain.blamesWell setting.catalog)
        (fun table listed => resolves (.inl (own table listed)))
      (fun table listed column inTable => resolves (.inr ⟨table, listed, column, inTable, rfl⟩))
      (fun field within => standard.throws_field field within)
      (fun table fields typeName scope =>
          standard.throws_fields setting.catalog fields fun field within =>
        standard.throws_field field within) value
    exact .adapt built fun _ known => known
  · cases listed

end BuildEngine.IsStandard

/-! ### Builds -/

/-- **A build with these plugins** blames well. -/
theorem blamesWell_of_buildSchema {setting : Setting} {plugins : List Plugin}
    (own : ∀ table ∈ setting.catalog.composites,
      ∃ descriptor, setting.catalog.find? table.id = some descriptor)
    (standard : ∀ plugin ∈ plugins, plugin.IsStandard) :
    Throws (BlamesWell setting.catalog) (buildSchema setting plugins) := by
  have plain := BuildError.Plain.blamesWell setting.catalog
  refine @throws_buildSchema _ plain BuildEngine.IsStandard _ _
    ⟨BuildEngine.proper_empty, nofun⟩ ?_ ?_ ?_
  · exact fun plugin listed engine known =>
      known.concludes_register plain setting (standard plugin listed)
  · exact fun engine known initial context => known.throws_state setting.catalog initial context
  · exact fun engine known state => known.throws_types own state

/-- The caller has no name that a descriptor can have. -/
theorem Descriptor.displayName_ne_caller (descriptor : Descriptor) :
    descriptor.displayName ≠ "the caller" := by
  intro same
  have dotted : '.' ∈ descriptor.displayName.toList := by
    unfold displayName QualifiedName.text
    simp
  rw [same] at dotted
  revert dotted
  decide

/-- **Who is blamed for a missing type.** Let a build with the plugins for well-known types, row
types and identifiers fail because a type is missing. Then it is missing from the catalog. Either it
is blamed on a descriptor that refers to it, or on the caller, and then it is the type of a column
of a row type. -/
theorem missing_types_blamed {setting : Setting} {descriptors : List Descriptor}
    (made : Catalog.ofList descriptors = .ok setting.catalog) {plugins : List Plugin}
    (standard : ∀ plugin ∈ plugins, plugin.IsStandard) {error : BuildError}
    (failed : (runIn (buildSchema setting plugins) .initial).1 = .error error) {id : TypeId}
    {referrer : String} (missing : error.missing? = some (id, referrer)) :
    setting.catalog.find? id = none ∧
      ((∃ descriptor ∈ descriptors, descriptor.displayName = referrer ∧ descriptor.RefersTo id) ↔
        referrer ≠ "the caller") ∧
      (referrer = "the caller" →
        ∃ table ∈ descriptors, table.kind = .composite ∧
          ∃ column ∈ table.attributes, column.typeId = id) := by
  obtain ⟨-, -, holds⟩ := Catalog.ofList_eq_ok_iff.1 made
  have own : ∀ table ∈ setting.catalog.composites,
      ∃ descriptor, setting.catalog.find? table.id = some descriptor := by
    intro table listed
    obtain ⟨inList, -⟩ := holds.mem_composites_iff.1 listed
    exact ⟨table, (holds _ _).2 ⟨inList, rfl⟩⟩
  have blames := (blamesWell_of_buildSchema own standard .initial).1 error failed
  obtain ⟨unknown, named⟩ := blames id referrer missing
  refine ⟨unknown, ⟨?_, fun other => ?_⟩, fun same => ?_⟩
  · rintro ⟨descriptor, -, rfl, -⟩
    exact descriptor.displayName_ne_caller
  · obtain ⟨descriptor, listed, blamed⟩ := named.resolve_right fun caller => other caller.1
    exact ⟨descriptor, holds.mem_toList_iff.1 listed, blamed⟩
  · subst same
    rcases named with ⟨descriptor, -, blamed, -⟩ | ⟨-, table, listed, column⟩
    · exact absurd blamed descriptor.displayName_ne_caller
    · obtain ⟨inList, kind⟩ := holds.mem_composites_iff.1 listed
      exact ⟨table, inList, kind, column⟩

/-- A list over a type that is not there, and a row type with a column of a given type. -/
def danglingDescriptors (column : TypeId) : List Descriptor := [
  { Descriptor.plain 900 "app" "_gone" .array Category.array with arrayItem := some 999 },
  { Descriptor.plain 901 "app" "track" .composite Category.composite with
    attributes := [⟨"stops", column, false, false, none⟩] }]

/-- Their catalog, with the usual names. -/
def danglingSetting (column : TypeId) : Setting :=
  .of ⟨.ofList ((danglingDescriptors column).map fun descriptor => (descriptor.id, descriptor))⟩
    .qualified .default

/-- The column has the type of the lists, and the lists are blamed. -/
theorem missing_types_blamed_track :
    Catalog.ofList (danglingDescriptors 900) = .ok (danglingSetting 900).catalog ∧
      ∃ error, (runIn (buildSchema (danglingSetting 900) [.standardTypes, .tables]) .initial).1 =
        .error error ∧
        error.missing? = some (999, "app._gone") ∧
        ∃ descriptor ∈ danglingDescriptors 900,
          descriptor.displayName = "app._gone" ∧ descriptor.RefersTo 999 := by
  have made : Catalog.ofList (danglingDescriptors 900) = .ok (danglingSetting 900).catalog := rfl
  have standard : ∀ plugin ∈ [Plugin.standardTypes, Plugin.tables], plugin.IsStandard := by
    simp only [List.forall_mem_cons]
    exact ⟨.standardTypes, .tables, nofun⟩
  obtain ⟨error, failed, missing⟩ := exists_of_failsWith
    (fun error => decide (error.missing? = some (999, "app._gone")))
    (runIn (buildSchema (danglingSetting 900) [.standardTypes, .tables]) .initial).1
      (by decide +kernel)
  replace missing := of_decide_eq_true missing
  obtain ⟨-, blamed, -⟩ := missing_types_blamed made standard failed missing
  exact ⟨made, error, failed, missing, blamed.2 (by decide)⟩

/-- The column has the type that is not there. The caller is blamed, which is no descriptor. -/
theorem missing_column_type_blamed_on_caller :
    Catalog.ofList (danglingDescriptors 999) = .ok (danglingSetting 999).catalog ∧
      (∃ error, (runIn (buildSchema (danglingSetting 999) [.tables]) .initial).1 = .error error ∧
        error.missing? = some (999, "the caller")) ∧
      ∀ descriptor ∈ danglingDescriptors 999, descriptor.displayName ≠ "the caller" := by
  obtain ⟨error, failed, missing⟩ := exists_of_failsWith
    (fun error => decide (error.missing? = some (999, "the caller")))
    (runIn (buildSchema (danglingSetting 999) [.tables]) .initial).1 (by decide +kernel)
  exact ⟨rfl, ⟨error, failed, of_decide_eq_true missing⟩, by decide⟩

end CatalogSchema
