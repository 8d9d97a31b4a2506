/-
**What a synthesis makes.**

`StandsAlone` and `Completed` say which types and which conversion a descriptor gets, the latter
over what its child became. Making them settles nothing (`Registry.SameEntries`).

* `runOn_standalone`: a type without a child is made, unless its labels collide.
* `runOn_complete`: a type is made over any child, except a range over a type without a name.
-/

import CatalogSchema.Proofs.Resolution.Shape

namespace CatalogSchema

/-! ### The types -/

/-- A type without a child: an enumeration, or a scalar with the conversion of its category. -/
inductive StandsAlone (setting : Setting) (descriptor : Descriptor) :
    TypeEntry → Option SharedCodec → Prop
  | enumeration (serial : Nat) {members : List EnumMember} (kind : descriptor.kind = .enumeration)
      (named : enumMembers setting.naming descriptor.displayName (descriptor.labels.getD []) =
        .ok members) :
      StandsAlone setting descriptor
        (.both (.enumeration serial (setting.naming.typeName descriptor) descriptor.description
          members))
        none
  | scalar (serial : Nat) (kind : descriptor.kind ≠ .enumeration) :
      StandsAlone setting descriptor (.both (Resolve.scalarOf setting descriptor).1)
        (some ⟨serial, (Resolve.scalarOf setting descriptor).2⟩)

/-- The scalar of a category is a standard one. -/
theorem Resolve.scalarOf_mem (setting : Setting) (descriptor : Descriptor) :
    (scalarOf setting descriptor).1 ∈ setting.scalars.toList := by
  unfold scalarOf StandardScalars.toList
  dsimp only
  split
  · simp
  · split <;> simp

/-- Another name for a type, with the serial number of a new alias. -/
def SchemaType.renamed (serial : Nat) (name : String) (description : Option String) :
    SchemaType → SchemaType
  | .list listSerial inner => .list listSerial inner
  | .nonNull wrapperSerial inner => .nonNull wrapperSerial inner
  | type => .«alias» serial name description type

/-- A type over what its child became in a registry: a list, an alias, or the objects of ranges that
the registry holds for the name of the child. -/
inductive Completed (setting : Setting) (registry : Registry) (descriptor : Descriptor) :
    ChildRole → TypeId → TypeEntry → TypeEntry → SharedCodec → Prop
  | array {itemId : TypeId} {item : TypeEntry} {itemDescriptor : Descriptor}
      (outputSerial inputSerial codecSerial : Nat)
      (known : setting.catalog.find? itemId = some itemDescriptor) :
      Completed setting registry descriptor .arrayItem itemId item
        ⟨.list outputSerial item.output, item.input.map (.list inputSerial)⟩
        ⟨codecSerial, .array descriptor.displayName (registry.partCodec itemId itemDescriptor)
          itemDescriptor.qualifiedName⟩
  | domain {baseId : TypeId} {base : TypeEntry} {baseDescriptor : Descriptor} {shared : SharedCodec}
      (outputSerial inputSerial : Nat) (distinct : outputSerial ≠ inputSerial)
      (known : setting.catalog.find? baseId = some baseDescriptor)
      (converts : shared.codec = registry.partCodec baseId baseDescriptor)
      (shares : ∀ held, registry.codecs.find? baseId = some held → shared = held) :
      Completed setting registry descriptor .domainBase baseId base
        ⟨base.output.renamed outputSerial (setting.naming.typeName descriptor)
          descriptor.description, base.input.map fun type =>
            if type = base.output then
              base.output.renamed outputSerial (setting.naming.typeName descriptor)
                descriptor.description
            else
              type.renamed inputSerial
                (setting.naming.inputType (setting.naming.typeName descriptor))
                descriptor.description⟩
        shared
  | range {subId : TypeId} {sub shape : TypeEntry} {subDescriptor : Descriptor} {subName : String}
      (codecSerial : Nat) (known : setting.catalog.find? subId = some subDescriptor)
      (name : sub.output.name? = some subName)
      (shaped : registry.rangeShapes.find? subName = some shape) :
      Completed setting registry descriptor .rangeSubtype subId sub shape
        ⟨codecSerial, .range descriptor.qualifiedName (registry.partCodec subId subDescriptor)⟩

namespace Catalog

theorem require_eq_ok {catalog : Catalog} {id : TypeId} {descriptor : Descriptor}
    (known : catalog.find? id = some descriptor) (referrer : Option Descriptor) :
    catalog.require id referrer = .ok descriptor := by
  unfold require
  rw [known]

theorem find?_of_require {catalog : Catalog} {id : TypeId} {descriptor : Descriptor}
    {referrer : Option Descriptor} (required : catalog.require id referrer = .ok descriptor) :
    catalog.find? id = some descriptor := by
  unfold require at required
  split at required
  · rename_i found
    cases required
    exact found
  · cases required

theorem require_eq_error {catalog : Catalog} {id : TypeId} (unknown : catalog.find? id = none)
    (referrer : Option Descriptor) :
    catalog.require id referrer =
      .error (.missingDescriptor id ((referrer.map Descriptor.displayName).getD "the caller")) := by
  unfold require
  rw [unknown]

end Catalog

namespace Resolve

variable {setting : Setting}

/-! ### Making them -/

/-- **A type without a child.** -/
theorem runOn_standalone (setting : Setting) (descriptor : Descriptor) (registry : Registry) :
    (∃ entry codec after, runOn (standalone setting descriptor) registry =
      (.ok (entry, codec), after) ∧
      StandsAlone setting descriptor entry codec ∧ registry.SameEntries after ∧
      after.rangeShapes = registry.rangeShapes) ∨
    ∃ error, descriptor.kind = .enumeration ∧
      enumMembers setting.naming descriptor.displayName (descriptor.labels.getD []) = .error error ∧
      runOn (standalone setting descriptor) registry = (.error error, registry) := by
  unfold standalone
  by_cases kind : descriptor.kind = .enumeration
  · rw [if_pos kind]
    unfold enumType
    cases named : enumMembers setting.naming descriptor.displayName (descriptor.labels.getD []) with
    | error error =>
      refine .inr ⟨error, kind, rfl, ?_⟩
      rw [runOn_bind, runOn_bind, runOn_ofExcept]
    | ok members =>
      refine .inl ⟨_, _, _, ?_, .enumeration registry.pool.next kind named,
        .ofPool registry.pool.grows_skip, rfl⟩
      rw [runOn_bind, runOn_bind, runOn_ofExcept]
      rfl
  · rw [if_neg kind]
    exact .inl ⟨_, _, _, rfl, .scalar registry.pool.next kind,
      .ofPool registry.pool.grows_skip, rfl⟩

/-- Making a list type where there is an input type. -/
theorem runOn_mapM_list (input : Option SchemaType) (registry : Registry) :
    ∃ pool, runOn (input.mapM fun type => make (·.list type)) registry =
        (.ok (input.map (.list registry.pool.next)), { registry with pool }) ∧
      registry.pool.Grows pool := by
  cases input with
  | none => exact ⟨_, rfl, .refl _⟩
  | some type => exact ⟨_, rfl, registry.pool.grows_list type⟩

theorem runOn_completeArray {descriptor itemDescriptor : Descriptor} {itemId : TypeId}
    (known : setting.catalog.find? itemId = some itemDescriptor) (item : TypeEntry)
    (registry : Registry) :
    ∃ entry shared pool, runOn (completeArray setting descriptor itemId item) registry =
        (.ok (entry, some shared), { registry with pool }) ∧ registry.pool.Grows pool ∧
      Completed setting { registry with pool } descriptor .arrayItem itemId item entry shared := by
  let skipped : TypePool := { registry.pool with next := registry.pool.next + 1 }
  obtain ⟨pool, ran, grows⟩ := runOn_mapM_list item.input
    { registry with pool := (skipped.list item.output).2 }
  refine ⟨_, _, pool, ?_,
    registry.pool.grows_skip.trans ((skipped.grows_list item.output).trans grows),
    .array skipped.next (skipped.list item.output).2.next registry.pool.next known⟩
  unfold completeArray
  rw [runOn_bind, runOn_ofExcept, Catalog.require_eq_ok known]
  simp only [runOn_bind, runOn_get, runOn_share, runOn_make]
  rw [ran]
  rfl

/-- Renaming a type: a new alias, unless the type is kept, and then any serial number describes
it. -/
theorem runOn_rename (name : String) (description : Option String) (type : SchemaType)
    (registry : Registry) :
    ∃ pool, runOn (rename name description type) registry =
        (.ok (type.renamed registry.pool.next name description), { registry with pool }) ∧
      registry.pool.Grows pool ∧ ∃ serial, serial ≠ pool.next ∧
        type.renamed registry.pool.next name description =
          type.renamed serial name description := by
  cases type with
  | list _ _ => exact ⟨_, rfl, .refl _, registry.pool.next + 1, Nat.succ_ne_self _, rfl⟩
  | nonNull _ _ => exact ⟨_, rfl, .refl _, registry.pool.next + 1, Nat.succ_ne_self _, rfl⟩
  | _ => exact ⟨_, rfl, registry.pool.grows_skip, registry.pool.next,
    (Nat.succ_ne_self _).symm, rfl⟩

/-- Renaming the input type, which keeps the output's new name if it is the output's type. -/
theorem runOn_renameInput (inputName : String) (description : Option String)
    (base : TypeEntry) (output : SchemaType) (registry : Registry) :
    ∃ pool, runOn (base.input.mapM fun type =>
          if type = base.output then pure output else rename inputName description type) registry =
        (.ok (base.input.map fun type =>
          if type = base.output then output
            else type.renamed registry.pool.next inputName description),
          { registry with pool }) ∧
      registry.pool.Grows pool := by
  cases base.input with
  | none => exact ⟨_, rfl, .refl _⟩
  | some type =>
    rw [Option.mapM_some, runOn_map]
    by_cases same : type = base.output
    · simp only [same, if_true, Option.map_some]
      exact ⟨_, rfl, .refl _⟩
    · obtain ⟨pool, ran, grows, -⟩ := runOn_rename inputName description type registry
      simp only [same, if_false, Option.map_some]
      rw [ran]
      exact ⟨_, rfl, grows⟩

theorem runOn_completeDomain {descriptor baseDescriptor : Descriptor} {baseId : TypeId}
    (known : setting.catalog.find? baseId = some baseDescriptor) (base : TypeEntry)
    (registry : Registry) :
    ∃ entry shared pool, runOn (completeDomain setting descriptor baseId base) registry =
        (.ok (entry, some shared), { registry with pool }) ∧ registry.pool.Grows pool ∧
      Completed setting { registry with pool } descriptor .domainBase baseId base entry shared := by
  obtain ⟨named, ranOutput, growsOutput, outputSerial, distinct, sameOutput⟩ := runOn_rename
    (setting.naming.typeName descriptor) descriptor.description base.output registry
  rw [sameOutput] at ranOutput
  obtain ⟨pool, ranInput, growsInput⟩ := runOn_renameInput
    (setting.naming.inputType (setting.naming.typeName descriptor)) descriptor.description base
    (base.output.renamed outputSerial (setting.naming.typeName descriptor) descriptor.description)
    { registry with pool := named }
  unfold completeDomain
  simp only [runOn_bind, ranOutput, ranInput, runOn_ofExcept, Catalog.require_eq_ok known,
    runOn_get]
  cases held : registry.codecs.find? baseId with
  | some shared =>
    refine ⟨_, shared, pool, rfl, growsOutput.trans growsInput,
      .domain outputSerial named.next distinct known ?_ fun other found => ?_⟩
    · simp only [Registry.partCodec, held]
    · exact Option.some.inj (held.symm.trans found)
  | none =>
    refine ⟨_, _, _, rfl, growsOutput.trans (growsInput.trans pool.grows_skip),
      .domain outputSerial named.next distinct known ?_ fun other found => ?_⟩
    · simp only [Registry.partCodec, held]
    · cases held.symm.trans found

/-- Which objects of ranges are new after a type was completed over a child: none but those that fit
the child, under its name. -/
def NewShapes (setting : Setting) (before after : Registry) (role : ChildRole) (child : TypeEntry) :
    Prop :=
  ∀ name shape, after.rangeShapes.find? name = some shape →
    before.rangeShapes.find? name = some shape ∨
      role = .rangeSubtype ∧ child.output.name? = some name ∧
        ShapeOver setting after.pool name child shape

theorem runOn_completeRange {descriptor subDescriptor : Descriptor} {subId : TypeId}
    (known : setting.catalog.find? subId = some subDescriptor) {sub : TypeEntry} {subName : String}
    (named : sub.output.name? = some subName) (registry : Registry) :
    ∃ entry shared after, runOn (completeRange setting descriptor subId sub) registry =
        (.ok (entry, some shared), after) ∧ registry.SameEntries after ∧
      Completed setting after descriptor .rangeSubtype subId sub entry shared ∧
      NewShapes setting registry after .rangeSubtype sub := by
  obtain ⟨shape, shaped, ran, same, found, fresh⟩ :=
    runOn_rangeShape setting subName sub registry
  have later : shaped.SameEntries
      { shaped with pool := { shaped.pool with next := shaped.pool.next + 1 } } :=
    .ofPool shaped.pool.grows_skip
  refine ⟨shape, _, _, ?_, same.trans later, .range shaped.pool.next known named found,
    fun name other there => ?_⟩
  · unfold completeRange
    rw [runOn_bind, runOn_ofExcept, Catalog.require_eq_ok known]
    simp only [named, runOn_bind, ran, runOn_get, runOn_share]
    rfl
  · rcases fresh name other there with old | ⟨rfl, fits⟩
    · exact .inl old
    · exact .inr ⟨rfl, named, fits.grows later.pool⟩

/-- **A type over its child.** Only a range can fail, over a child without a name. -/
theorem runOn_complete (descriptor : Descriptor) {childDescriptor : Descriptor} {childId : TypeId}
    (known : setting.catalog.find? childId = some childDescriptor) (role : ChildRole)
    (child : TypeEntry) (registry : Registry) :
    (∃ entry shared after, runOn (complete setting descriptor role childId child) registry =
        (.ok (entry, some shared), after) ∧ registry.SameEntries after ∧
      Completed setting after descriptor role childId child entry shared ∧
      NewShapes setting registry after role child) ∨
    role = .rangeSubtype ∧ child.output.name? = none ∧
      runOn (complete setting descriptor role childId child) registry =
        (.error (.configuration
          (.unnamedSubtype childDescriptor.displayName child.output.text)), registry) := by
  cases role with
  | arrayItem =>
    obtain ⟨entry, shared, pool, ran, grows, completed⟩ := runOn_completeArray known child registry
    exact .inl ⟨entry, shared, _, ran, .ofPool grows, completed, fun _ _ there => .inl there⟩
  | domainBase =>
    obtain ⟨entry, shared, pool, ran, grows, completed⟩ := runOn_completeDomain known child registry
    exact .inl ⟨entry, shared, _, ran, .ofPool grows, completed, fun _ _ there => .inl there⟩
  | rangeSubtype =>
    cases named : child.output.name? with
    | some subName => exact .inl (runOn_completeRange known named registry)
    | none =>
      refine .inr ⟨rfl, rfl, ?_⟩
      show runOn (completeRange setting descriptor childId child) registry = _
      unfold completeRange
      rw [runOn_bind, runOn_ofExcept, Catalog.require_eq_ok known]
      simp only [named]
      rfl

end Resolve

end CatalogSchema
