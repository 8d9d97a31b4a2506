/-
**Resolution does not depend on serial numbers.**

From registries that differ in the serial numbers only, the same request has the same outcome but
for the numbers, and leaves registries that differ in them only.

* `Registry.Corresponds`: two registries differ in the serial numbers only.
* `tracks_entry`: so do the types of an id, and the registries after they are asked for.
* `Registry.Corresponds.decode`, `encode`: values are converted alike.
-/

import CatalogSchema.Proofs.Schema.Renumbering
import CatalogSchema.Resolution.Resolve

namespace CatalogSchema

variable {numbers : Equiv.Perm Nat}

/-! ### Values -/

instance : Numbered TypeId := .none TypeId

instance : Numbered TypeEntry where
  renumber numbers entry := ⟨renumber numbers entry.output, renumber numbers entry.input⟩
  renumber_refl entry := by simp
  renumber_symm numbers entry := by simp

@[simp] theorem TypeEntry.renumber_both (numbers : Equiv.Perm Nat) (type : SchemaType) :
    renumber numbers (TypeEntry.both type) = .both (renumber numbers type) := rfl

instance : Numbered SharedCodec where
  renumber numbers shared := ⟨numbers shared.serial, shared.codec⟩
  renumber_refl _ := rfl
  renumber_symm numbers shared := by simp

instance : Numbered Override where
  renumber numbers mapping :=
    ⟨renumber numbers mapping.output, renumber numbers mapping.input,
      renumber numbers mapping.codec⟩
  renumber_refl mapping := by simp
  renumber_symm numbers mapping := by simp

/-- The scalars of every schema keep their numbers. -/
def StandardScalars.Fixed (scalars : StandardScalars) (numbers : Equiv.Perm Nat) : Prop :=
  ∀ scalar ∈ scalars.toList, renumber numbers scalar = scalar

/-! ### Registries -/

/-- Two registries differ in the serial numbers only. -/
structure Registry.Corresponds (numbers : Equiv.Perm Nat)
    (registry registry' : Registry) : Prop where
  pool : registry.pool.Corresponds numbers registry'.pool
  overrides : registry.overrides.Corresponds numbers registry'.overrides
  types : registry.types.Corresponds numbers registry'.types
  codecs : registry.codecs.Corresponds numbers registry'.codecs
  rangeShapes : registry.rangeShapes.Corresponds numbers registry'.rangeShapes
  sets : registry.sets.Corresponds numbers registry'.sets

namespace Registry.Corresponds

variable {registry registry' : Registry}

theorem refl (registry : Registry) : registry.Corresponds (.refl Nat) registry :=
  ⟨.refl _, .refl _, .refl _, .refl _, .refl _, .refl _⟩

theorem partCodec (same : registry.Corresponds numbers registry') (id : TypeId)
    (descriptor : Descriptor) :
    registry'.partCodec id descriptor = registry.partCodec id descriptor := by
  unfold Registry.partCodec
  rw [same.codecs id]
  cases registry.codecs.find? id <;> rfl

theorem file (same : registry.Corresponds numbers registry') (id : TypeId) (entry : TypeEntry)
    (codec : Option SharedCodec) :
    (registry.file id entry codec).Corresponds numbers
      (registry'.file id (renumber numbers entry) (renumber numbers codec)) where
  pool := same.pool
  overrides := same.overrides
  types := same.types.insertIfNew id entry
  codecs := by
    cases codec with
    | none => exact same.codecs
    | some codec => exact same.codecs.insertIfNew id codec
  rangeShapes := same.rangeShapes
  sets := same.sets

/-- The conversion of an id. -/
theorem codecFor (same : registry.Corresponds numbers registry') (setting : Setting) (id : TypeId) :
    Together (fun served served' => served'.codec = served.codec) (registry.codecFor setting id)
      (registry'.codecFor setting id) := by
  unfold Registry.codecFor
  rw [same.codecs id, same.overrides id]
  cases registry.codecs.find? id with
  | some shared => exact .ok rfl
  | none =>
    have given : (renumber numbers (registry.overrides.find? id)).bind (·.codec) =
        renumber numbers ((registry.overrides.find? id).bind (·.codec)) := by
      cases registry.overrides.find? id <;> rfl
    dsimp only [renumber_none]
    rw [given]
    cases (registry.overrides.find? id).bind (·.codec) with
    | some shared => exact .ok rfl
    | none => cases setting.catalog.find? id <;> first | exact .ok rfl | exact .error _

/-- **Values are decoded alike.** -/
theorem decode (same : registry.Corresponds numbers registry') (setting : Setting) (id : TypeId)
    (value : Json) :
    registry'.decode setting id value = registry.decode setting id value := by
  have served := same.codecFor setting id
  unfold Registry.decode
  generalize registry.codecFor setting id = found at served ⊢
  generalize registry'.codecFor setting id = found' at served ⊢
  cases served with
  | ok equal => exact congrArg (Codec.decode · value) equal
  | error error => rfl

/-- **Values are encoded alike.** -/
theorem encode (same : registry.Corresponds numbers registry') (setting : Setting) (id : TypeId)
    (value : Json) :
    registry'.encode setting id value = registry.encode setting id value := by
  have served := same.codecFor setting id
  unfold Registry.encode
  generalize registry.codecFor setting id = found at served ⊢
  generalize registry'.codecFor setting id = found' at served ⊢
  cases served with
  | ok equal => exact congrArg (Codec.encode · value) equal
  | error error => rfl

end Registry.Corresponds

namespace Resolve

/-- Two steps of resolution that differ in the serial numbers only. -/
abbrev Tracks {α : Type} [Numbered α] (numbers : Equiv.Perm Nat) (step step' : Resolve α) : Prop :=
  CatalogSchema.Tracks numbers (Registry.Corresponds numbers) step step'

variable {setting : Setting}

/-! ### Making types -/

theorem tracks_make {build build' : TypePool → SchemaType × TypePool}
    (each : ∀ {pool pool'}, pool.Corresponds numbers pool' →
      (build' pool').1 = renumber numbers (build pool).1 ∧
        (build pool).2.Corresponds numbers (build' pool').2) :
    Tracks numbers (make build) (make build') :=
  InStep.modifyGet fun same => by
    obtain ⟨made, grown⟩ := each same.pool
    exact ⟨made, { same with pool := grown }⟩

theorem tracks_share (codec : Codec) : Tracks numbers (share codec) (share codec) :=
  InStep.modifyGet fun same => by
    refine ⟨?_, { same with pool := same.pool.skip }⟩
    show SharedCodec.mk _ codec = ⟨numbers _, codec⟩
    rw [same.pool.numbers_next]

/-- A step that the outcome of a calculation decides. -/
theorem tracks_bind_ofExcept {α β : Type} [Numbered β] (outcome : Except BuildError α)
    {next next' : α → Resolve β} (later : ∀ value, Tracks numbers (next value) (next' value)) :
    Tracks numbers (ofExcept outcome >>= next) (ofExcept outcome >>= next') :=
  .bind_plain (.outcome (.refl outcome)) later

theorem tracks_bind_requireChild {β : Type} [Numbered β] (descriptor : Descriptor)
    (role : ChildRole) {next next' : TypeId → Resolve β}
    (later : ∀ child, Tracks numbers (next child) (next' child)) :
    Tracks numbers (requireChild descriptor role >>= next)
      (requireChild descriptor role >>= next') := by
  refine .bind_plain ?_ later
  unfold requireChild
  cases descriptor.child? role with
  | none => exact .throw _
  | some child => exact .pure rfl

/-! ### Types that stand alone -/

theorem tracks_enumType (descriptor : Descriptor) :
    Tracks numbers (enumType setting descriptor) (enumType setting descriptor) := by
  unfold enumType
  refine tracks_bind_ofExcept _ fun members => ?_
  refine (tracks_make fun same => same.make fun _ => rfl).bind fun type => ?_
  exact .pure (TypeEntry.both type)

theorem tracks_scalarType (fixed : setting.scalars.Fixed numbers) (descriptor : Descriptor) :
    Tracks numbers (scalarType setting descriptor) (scalarType setting descriptor) := by
  have kept : renumber numbers (scalarOf setting descriptor).1 =
      (scalarOf setting descriptor).1 := by
    refine fixed _ ?_
    unfold scalarOf
    split
    · simp [StandardScalars.toList]
    · split <;> simp [StandardScalars.toList]
  unfold scalarType
  generalize scalarOf setting descriptor = chosen at kept ⊢
  obtain ⟨scalar, codec⟩ := chosen
  refine (tracks_share codec).bind fun shared => InStep.pure ?_
  rw [renumber_pair, TypeEntry.renumber_both, kept, renumber_some]

/-! ### Types over another type -/

theorem tracks_rename (name : String) (description : Option String) (type : SchemaType) :
    Tracks numbers (rename name description type)
      (rename name description (renumber numbers type)) := by
  have renamed : Tracks numbers
      (make fun pool => pool.make fun serial => .«alias» serial name description type)
      (make fun pool =>
          pool.make fun serial => .«alias» serial name description (renumber numbers type)) :=
    tracks_make fun same => same.make fun _ => rfl
  cases type with
  | list serial inner => exact .pure (SchemaType.list serial inner)
  | nonNull serial inner => exact .pure (SchemaType.nonNull serial inner)
  | _ => exact renamed

section Over

variable {resolveChild : TypeId → Resolve TypeEntry}
  (child : ∀ id, Tracks numbers (resolveChild id) (resolveChild id))

include child

theorem tracks_arrayType (descriptor : Descriptor) :
    Tracks numbers (arrayType setting resolveChild descriptor)
      (arrayType setting resolveChild descriptor) := by
  unfold arrayType
  refine tracks_bind_requireChild _ _ fun itemId => ?_
  refine (child itemId).bind fun item => ?_
  refine tracks_bind_ofExcept _ fun itemDescriptor => ?_
  refine .bind_get fun same => ?_
  dsimp only
  rw [same.partCodec]
  refine (tracks_share _).bind fun shared => ?_
  refine (tracks_make fun same => same.list item.output).bind fun output => ?_
  refine (Tracks.mapOption item.input fun type => tracks_make fun same => same.list type).bind
    fun input => ?_
  exact .pure (TypeEntry.mk output input, some shared)

theorem tracks_domainType (descriptor : Descriptor) :
    Tracks numbers (domainType setting resolveChild descriptor)
      (domainType setting resolveChild descriptor) := by
  unfold domainType
  refine tracks_bind_requireChild _ _ fun baseId => ?_
  refine (child baseId).bind fun base => ?_
  refine (tracks_rename _ _ base.output).bind fun output => ?_
  have renamesInput (type : SchemaType) : Tracks numbers
      (if type = base.output then pure output
        else rename (setting.naming.inputType (setting.naming.typeName descriptor))
          descriptor.description type)
      (if renumber numbers type = renumber numbers base.output then pure (renumber numbers output)
        else rename (setting.naming.inputType (setting.naming.typeName descriptor))
          descriptor.description (renumber numbers type)) := by
    by_cases one : type = base.output
    · rw [if_pos one, if_pos (congrArg _ one)]
      exact .pure output
    · rw [if_neg one, if_neg fun equal => one (renumber_injective numbers equal)]
      exact tracks_rename _ _ type
  refine (Tracks.mapOption base.input renamesInput).bind fun input => ?_
  refine tracks_bind_ofExcept _ fun baseDescriptor => ?_
  refine .bind_get fun {registry registry'} same => ?_
  rw [same.codecs baseId]
  cases registry.codecs.find? baseId with
  | some shared => exact .pure (TypeEntry.mk output input, some shared)
  | none => exact (tracks_share _).bind fun shared => .pure (TypeEntry.mk output input, some shared)

end Over

theorem tracks_makeRangeInput (subName : String) {inclusive : SchemaType} (subInput : SchemaType) :
    Tracks numbers (makeRangeInput setting subName inclusive subInput)
      (makeRangeInput setting subName (renumber numbers inclusive)
        (renumber numbers subInput)) := by
  unfold makeRangeInput
  refine (tracks_make fun same => same.nonNull subInput).bind fun value => ?_
  refine (tracks_make
    fun same => same.inputObject _ _ [⟨"value", none, value⟩, ⟨"inclusive", none, inclusive⟩]).bind
    fun bound => ?_
  exact tracks_make fun same => same.inputObject _ _ [⟨"start", none, bound⟩, ⟨"end", none, bound⟩]

variable (fixed : setting.scalars.Fixed numbers)

include fixed

theorem tracks_makeRangeShape (subName : String) (sub : TypeEntry) :
    Tracks numbers (makeRangeShape setting subName sub)
      (makeRangeShape setting subName (renumber numbers sub)) := by
  have boolean : renumber numbers setting.scalars.boolean = setting.scalars.boolean :=
    fixed _ (by simp [StandardScalars.toList])
  unfold makeRangeShape
  refine Tracks.bind (tracks_make fun same => ?_) fun inclusive => ?_
  · have made := same.nonNull setting.scalars.boolean
    rwa [boolean] at made
  refine (tracks_make fun same => same.nonNull sub.output).bind fun value => ?_
  refine (tracks_make
    fun same => same.object _ _ [.property "value" value, .property "inclusive" inclusive]).bind
    fun bound => ?_
  refine (tracks_make
    fun same => same.object _ _ [.property "start" bound, .property "end" bound]).bind
    fun output => ?_
  refine (Tracks.mapOption sub.input fun type => tracks_makeRangeInput subName type).bind
    fun input => ?_
  exact .pure (TypeEntry.mk output input)

theorem tracks_rangeShape (subName : String) (sub : TypeEntry) :
    Tracks numbers (rangeShape setting subName sub)
      (rangeShape setting subName (renumber numbers sub)) := by
  unfold rangeShape
  refine .bind_get fun {registry registry'} same => ?_
  rw [same.rangeShapes subName]
  cases registry.rangeShapes.find? subName with
  | some shape => exact .pure shape
  | none =>
    refine (tracks_makeRangeShape fixed subName sub).bind fun shape => ?_
    refine .bind_modify (fun same => ?_) (.pure shape)
    exact { same with rangeShapes := same.rangeShapes.insert subName shape }

theorem tracks_rangeType {resolveChild : TypeId → Resolve TypeEntry}
    (child : ∀ id, Tracks numbers (resolveChild id) (resolveChild id)) (remaining : Nat)
    (descriptor : Descriptor) :
    Tracks numbers (rangeType setting remaining resolveChild descriptor)
      (rangeType setting remaining resolveChild descriptor) := by
  unfold rangeType
  refine tracks_bind_requireChild _ _ fun subId => ?_
  refine tracks_bind_ofExcept _ fun subDescriptor => ?_
  refine tracks_bind_ofExcept _ fun bottom => ?_
  split
  · exact .throw _
  · refine (child subId).bind fun sub => ?_
    have named : (renumber numbers sub).output.name? = sub.output.name? :=
      SchemaType.name?_renumber ..
    rw [named]
    cases sub.output.name? with
    | none =>
      show Tracks numbers (throw (.configuration (.unnamedSubtype _ sub.output.text)))
        (throw (.configuration (.unnamedSubtype _ (renumber numbers sub.output).text)))
      rw [SchemaType.text_renumber]
      exact .throw _
    | some subName =>
      refine (tracks_rangeShape fixed subName sub).bind fun shape => ?_
      refine .bind_get fun same => ?_
      dsimp only
      rw [same.partCodec]
      exact (tracks_share _).bind fun shared => .pure (shape, some shared)

/-! ### One type, and the types below it -/

theorem tracks_synthesize {resolveChild : TypeId → Resolve TypeEntry}
    (child : ∀ id, Tracks numbers (resolveChild id) (resolveChild id)) (remaining : Nat)
    (id : TypeId) (descriptor : Descriptor) :
    Tracks numbers (synthesize setting remaining resolveChild id descriptor)
      (synthesize setting remaining resolveChild id descriptor) := by
  unfold synthesize
  refine .bind_get fun {registry registry'} same => ?_
  rw [same.overrides id]
  cases registry.overrides.find? id with
  | some mapping => exact .pure (TypeEntry.mk mapping.output mapping.input, mapping.codec)
  | none =>
    dsimp only [renumber_none]
    split
    · exact (tracks_enumType descriptor).bind fun entry => .pure (entry, none)
    · exact tracks_rangeType fixed child remaining descriptor
    · exact tracks_domainType child descriptor
    · exact tracks_arrayType child descriptor
    · exact tracks_arrayType child descriptor
    · exact tracks_scalarType fixed descriptor

/-- **Resolution does not depend on serial numbers**, at any level. -/
theorem tracks_resolveAt (remaining : Nat) (id : TypeId) (referrer : Option Descriptor) :
    Tracks numbers (resolveAt setting remaining id referrer)
      (resolveAt setting remaining id referrer) := by
  induction remaining generalizing id referrer with
  | zero =>
    rw [resolveAt]
    refine .bind_get fun {registry registry'} same => ?_
    rw [same.types id]
    cases registry.types.find? id with
    | some entry => exact .pure entry
    | none => exact tracks_bind_ofExcept _ fun descriptor => .throw _
  | succ remaining ih =>
    rw [resolveAt]
    refine .bind_get fun {registry registry'} same => ?_
    rw [same.types id]
    cases registry.types.find? id with
    | some entry => exact .pure entry
    | none =>
      refine tracks_bind_ofExcept _ fun descriptor => ?_
      have made := tracks_synthesize fixed (fun child => ih child (some descriptor))
        remaining id descriptor
      refine (made.adapt (·.resolving descriptor)).bind fun (entry, codec) => ?_
      exact .bind_modify (fun same => same.file id entry codec) (.pure entry)

/-- **The types of an id** differ in the serial numbers only. -/
theorem tracks_entry (id : TypeId) : Tracks numbers (entry setting id) (entry setting id) :=
  tracks_resolveAt fixed _ id none

end Resolve

end CatalogSchema
