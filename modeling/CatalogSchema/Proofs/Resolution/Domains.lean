/-
**Domains cannot be told from their bases.**

* `DomainOver`: a domain without override and the base that it names.
* `IsRenaming`: what a domain makes of a type of its base.
* `Sound.renames`: the types of a settled domain are those of its base under the domain's own name.
* `Alike`: two settled ids with the same shapes and the same conversion. Domains are alike to
  everything further down their chain (`Sound.alike_of_chain`).
* `Tame`: aliases do not wrap lists or non-null types, unless callers gave them so.
* `domains_transparent`: all of this for reachable registries.
-/

import CatalogSchema.Proofs.Resolution.Prescription
import CatalogSchema.Schema.Reachable

namespace CatalogSchema

open Relation

variable {setting : Setting} {registry : Registry}

/-! ### Shapes -/

namespace SchemaType

/-- Lists and non-null types. -/
def IsWrapper : SchemaType → Prop
  | .list _ _ | .nonNull _ _ => True
  | _ => False

/-- What renaming makes of a type: a list or a non-null type itself, and an alias of any other. -/
def IsRenaming (renamed : SchemaType) (name : String) (description : Option String)
    (type : SchemaType) : Prop :=
  (type.IsWrapper → renamed = type) ∧
    (¬type.IsWrapper → ∃ serial, renamed = .«alias» serial name description type)

theorem isRenaming_renamed (serial : Nat) (name : String) (description : Option String)
    (type : SchemaType) :
    (type.renamed serial name description).IsRenaming name description type := by
  cases type with
  | list | nonNull => exact ⟨fun _ => rfl, fun bare => absurd trivial bare⟩
  | _ => exact ⟨False.elim, fun _ => ⟨serial, rfl⟩⟩

/-- Different types stay different when they are renamed with different serial numbers. -/
theorem renamed_ne {first second : SchemaType} (different : first ≠ second) {serial other : Nat}
    (distinct : serial ≠ other) (name otherName : String) (description : Option String) :
    first.renamed serial name description ≠ second.renamed other otherName description := by
  cases first <;> cases second <;> simp_all [renamed]

theorem unwrapAlias_renamed (serial : Nat) (name : String) (description : Option String)
    (type : SchemaType) :
    (type.renamed serial name description).unwrapAlias = type.unwrapAlias := by
  cases type <;> rfl

theorem isList_unwrapAlias (type : SchemaType) : type.unwrapAlias.isList = type.isList := by
  induction type with
  | «alias» _ _ _ _ ih => exact ih
  | _ => rfl

end SchemaType

/-- Two types with the same type behind all aliases, and so the same fields. -/
structure SameShape (pool : TypePool) (first second : SchemaType) : Prop where
  unwrapAlias : first.unwrapAlias = second.unwrapAlias
  fields : pool.fieldsOf first = pool.fieldsOf second
  inputFields : pool.inputFieldsOf first = pool.inputFieldsOf second
  isList : first.isList = second.isList

theorem SameShape.of_unwrapAlias {first second : SchemaType}
    (same : first.unwrapAlias = second.unwrapAlias) (pool : TypePool) :
    SameShape pool first second where
  unwrapAlias := same
  fields := by
    unfold TypePool.fieldsOf
    rw [same]
  inputFields := by
    unfold TypePool.inputFieldsOf
    rw [same]
  isList := by rw [← first.isList_unwrapAlias, same, second.isList_unwrapAlias]

/-! ### One domain -/

/-- A domain without override and its base. -/
structure DomainOver (setting : Setting) (overrides : SortedMap TypeId Override) (id : TypeId)
    (descriptor : Descriptor) (baseId : TypeId) : Prop where
  plain : overrides.find? id = none
  known : setting.catalog.find? id = some descriptor
  kind : descriptor.kind = .domain
  base : descriptor.domainBase = some baseId

theorem DomainOver.rests {overrides : SortedMap TypeId Override} {id baseId : TypeId}
    {descriptor : Descriptor} (domain : DomainOver setting overrides id descriptor baseId) :
    descriptor.builtOver = some .domainBase := by
  unfold Descriptor.builtOver
  rw [domain.kind]
  rfl

/-- The types of a domain over those of its base: both are renamed, and there is one instance for
output and input exactly if the base has one. -/
structure Renames (setting : Setting) (descriptor : Descriptor)
    (entry base : TypeEntry) : Prop where
  output : entry.output.IsRenaming (setting.naming.typeName descriptor) descriptor.description
    base.output
  input : entry.input.isSome = base.input.isSome
  shared : entry.input = some entry.output ↔ base.input = some base.output
  apart : ∀ {type baseType}, entry.input = some type → base.input = some baseType →
    baseType ≠ base.output →
    type.IsRenaming (setting.naming.inputType (setting.naming.typeName descriptor))
      descriptor.description baseType
  unwrapOutput : entry.output.unwrapAlias = base.output.unwrapAlias
  unwrapInput : entry.input.map SchemaType.unwrapAlias = base.input.map SchemaType.unwrapAlias

theorem Completed.renames {descriptor : Descriptor} {baseId : TypeId} {base entry : TypeEntry}
    {shared : SharedCodec}
    (completed : Completed setting registry descriptor .domainBase baseId base entry shared) :
    Renames setting descriptor entry base := by
  cases completed with
  | domain outputSerial inputSerial distinct known converts shares =>
    obtain ⟨output, input⟩ := base
    cases input with
    | none =>
      exact ⟨SchemaType.isRenaming_renamed _ _ _ _, rfl, ⟨nofun, nofun⟩, nofun,
        SchemaType.unwrapAlias_renamed _ _ _ _, rfl⟩
    | some type =>
      by_cases same : type = output
      · subst same
        refine ⟨SchemaType.isRenaming_renamed _ _ _ _, rfl, ?_, ?_,
          SchemaType.unwrapAlias_renamed _ _ _ _, ?_⟩
        · simp only [Option.map_some, if_true]
        · rintro _ _ - ⟨⟩ different
          exact absurd rfl different
        · simp only [Option.map_some, if_true]
          rw [SchemaType.unwrapAlias_renamed]
      · have apart := SchemaType.renamed_ne (Ne.symm same) distinct
          (setting.naming.typeName descriptor)
          (setting.naming.inputType (setting.naming.typeName descriptor)) descriptor.description
        refine ⟨SchemaType.isRenaming_renamed _ _ _ _, rfl, ?_, ?_,
          SchemaType.unwrapAlias_renamed _ _ _ _, ?_⟩
        · simp only [Option.map_some, if_neg same, Option.some.injEq]
          exact ⟨fun one => absurd one.symm apart, fun one => absurd one same⟩
        · simp only [Option.map_some, if_neg same, Option.some.injEq]
          rintro _ _ rfl rfl -
          exact SchemaType.isRenaming_renamed _ _ _ _
        · simp only [Option.map_some, if_neg same]
          rw [SchemaType.unwrapAlias_renamed]

/-- **The types of a settled domain** are those of its base, which is settled, renamed. -/
theorem Sound.renames (sound : Sound setting registry) {id baseId : TypeId}
    {descriptor : Descriptor} (domain : DomainOver setting registry.overrides id descriptor baseId)
    {entry : TypeEntry} (settled : registry.types.find? id = some entry) :
    ∃ base, registry.types.find? baseId = some base ∧ Renames setting descriptor entry base := by
  obtain ⟨base, _, settledBase, completed⟩ :=
    sound.settled_overChild settled domain.known domain.plain domain.rests domain.base
  exact ⟨base, settledBase, completed.renames⟩

/-! ### Chains of domains -/

/-- Two ids of which the values are converted alike, with and without a cache of intervals. -/
structure ConvertsLike (setting : Setting) (registry : Registry) (id other : TypeId) : Prop where
  decode : ∀ value, registry.decode setting id value = registry.decode setting other value
  encode : ∀ value, registry.encode setting id value = registry.encode setting other value
  decodeCached : ∀ value cache,
    registry.decodeCached setting id value cache = registry.decodeCached setting other value cache
  encodeCached : ∀ value cache,
    registry.encodeCached setting id value cache = registry.encodeCached setting other value cache

/-- A domain is prescribed the conversion of its base. -/
theorem Sound.convertsLike (sound : Sound setting registry) {id baseId : TypeId}
    {descriptor : Descriptor} (domain : DomainOver setting registry.overrides id descriptor baseId)
    {entry base : TypeEntry} (settled : registry.types.find? id = some entry)
    (settledBase : registry.types.find? baseId = some base) :
    ConvertsLike setting registry id baseId := by
  obtain ⟨codec, serves⟩ := sound.serves settled
  obtain ⟨baseCodec, servesBase⟩ := sound.serves settledBase
  have prescribedBase := (servesBase.prescribed baseCodec).2 rfl
  have prescribed : Prescribes setting registry.overrides id baseCodec :=
    .domain domain.plain domain.known domain.kind domain.base prescribedBase
  obtain rfl : baseCodec = codec := (serves.prescribed baseCodec).1 prescribed
  refine ⟨fun value => ?_, fun value => ?_, fun value cache => ?_, fun value cache => ?_⟩
  · rw [serves.decode, servesBase.decode]
  · rw [serves.encode, servesBase.encode]
  · rw [serves.decodeCached, servesBase.decodeCached]
  · rw [serves.encodeCached, servesBase.encodeCached]

/-- Two settled ids that cannot be told apart by the shapes of their types and by their
conversions. -/
structure Alike (setting : Setting) (registry : Registry) (id other : TypeId)
    (entry otherEntry : TypeEntry) : Prop where
  converts : ConvertsLike setting registry id other
  output : SameShape registry.pool entry.output otherEntry.output
  input : entry.input.isSome = otherEntry.input.isSome
  inputShape : ∀ {type otherType}, entry.input = some type → otherEntry.input = some otherType →
    SameShape registry.pool type otherType
  shared : entry.input = some entry.output ↔ otherEntry.input = some otherEntry.output

theorem Alike.refl (id : TypeId) (entry : TypeEntry) :
    Alike setting registry id id entry entry where
  converts := ⟨fun _ => rfl, fun _ => rfl, fun _ _ => rfl, fun _ _ => rfl⟩
  output := .of_unwrapAlias rfl _
  input := rfl
  inputShape given given' := by
    obtain rfl := Option.some.inj (given.symm.trans given')
    exact .of_unwrapAlias rfl _
  shared := Iff.rfl

theorem Alike.trans {id other last : TypeId} {entry otherEntry lastEntry : TypeEntry}
    (first : Alike setting registry id other entry otherEntry)
    (second : Alike setting registry other last otherEntry lastEntry) :
    Alike setting registry id last entry lastEntry where
  converts := {
    decode value := (first.converts.decode value).trans (second.converts.decode value)
    encode value := (first.converts.encode value).trans (second.converts.encode value)
    decodeCached value cache :=
      (first.converts.decodeCached value cache).trans (second.converts.decodeCached value cache)
    encodeCached value cache :=
      (first.converts.encodeCached value cache).trans (second.converts.encodeCached value cache) }
  output := .of_unwrapAlias (first.output.unwrapAlias.trans second.output.unwrapAlias) _
  input := first.input.trans second.input
  inputShape {type lastType} given given' := by
    have between : otherEntry.input.isSome := by
      rw [← first.input, given]
      rfl
    obtain ⟨otherType, found⟩ := Option.isSome_iff_exists.1 between
    exact .of_unwrapAlias ((first.inputShape given found).unwrapAlias.trans
      (second.inputShape found given').unwrapAlias) _
  shared := first.shared.trans second.shared

/-- A settled domain is alike to its base. -/
theorem Renames.alike {id baseId : TypeId} {descriptor : Descriptor} {entry base : TypeEntry}
    (renames : Renames setting descriptor entry base)
    (converts : ConvertsLike setting registry id baseId) :
    Alike setting registry id baseId entry base where
  converts := converts
  output := .of_unwrapAlias renames.unwrapOutput _
  input := renames.input
  inputShape given given' := by
    have same := renames.unwrapInput
    rw [given, given'] at same
    exact .of_unwrapAlias (Option.some.inj same) _
  shared := renames.shared

/-- One step down a chain of domains. -/
def DomainStep (setting : Setting) (overrides : SortedMap TypeId Override)
    (id baseId : TypeId) : Prop :=
  ∃ descriptor, DomainOver setting overrides id descriptor baseId

/-- **A settled domain is alike to everything further down its chain.** -/
theorem Sound.alike_of_chain (sound : Sound setting registry) {top bottom : TypeId}
    (chain : ReflTransGen (DomainStep setting registry.overrides) top bottom) {entry : TypeEntry}
    (settled : registry.types.find? top = some entry) :
    ∃ last, registry.types.find? bottom = some last ∧
      Alike setting registry top bottom entry last := by
  induction chain with
  | refl => exact ⟨entry, settled, .refl top entry⟩
  | tail _ step ih =>
    obtain ⟨between, settledBetween, alike⟩ := ih
    obtain ⟨descriptor, domain⟩ := step
    obtain ⟨base, settledBase, renames⟩ := sound.renames domain settledBetween
    have converts := sound.convertsLike domain settledBetween settledBase
    exact ⟨base, settledBase, alike.trans (renames.alike converts)⟩

/-! ### Aliases -/

/-- A type holds itself, and what the type that it wraps or stands for holds. -/
def SchemaType.Holds (type part : SchemaType) : Prop :=
  ReflTransGen (fun outer inner => inner ∈ outer.inside) type part

theorem SchemaType.holds_iff {type part : SchemaType} :
    type.Holds part ↔ part = type ∨ ∃ inner ∈ type.inside, inner.Holds part := by
  unfold Holds
  rw [ReflTransGen.cases_head_iff, eq_comm]

/-- A part of a type that callers gave: a scalar of the setting, or a type of an override. -/
def Given (setting : Setting) (overrides : SortedMap TypeId Override) (part : SchemaType) : Prop :=
  (∃ scalar ∈ setting.scalars.toList, scalar.Holds part) ∨
    ∃ id mapping, overrides.find? id = some mapping ∧
      ∃ type ∈ mapping.output :: mapping.input.toList, type.Holds part

/-- A type in which no alias wraps a list or a non-null type, unless it was given. -/
def Tame (setting : Setting) (overrides : SortedMap TypeId Override) (type : SchemaType) : Prop :=
  ∀ serial name description delegate, type.Holds (.«alias» serial name description delegate) →
    Given setting overrides (.«alias» serial name description delegate) ∨ ¬delegate.IsWrapper

section Tame

variable {overrides : SortedMap TypeId Override} {type : SchemaType}

/-- What wraps tame types is tame, if it is no alias itself. -/
theorem Tame.of_inside (inside : ∀ inner ∈ type.inside, Tame setting overrides inner)
    (proper : ∀ serial name description delegate,
      type ≠ .«alias» serial name description delegate) : Tame setting overrides type := by
  intro serial name description delegate holds
  rcases SchemaType.holds_iff.1 holds with self | ⟨inner, listed, holds⟩
  · exact absurd self.symm (proper serial name description delegate)
  · exact inside inner listed serial name description delegate holds

theorem Tame.list (tame : Tame setting overrides type) (serial : Nat) :
    Tame setting overrides (.list serial type) :=
  .of_inside (fun _ listed => List.mem_singleton.1 listed ▸ tame) nofun

/-- Renaming keeps a type tame: an alias is made only of types that are no wrappers. -/
theorem Tame.renamed (tame : Tame setting overrides type) (serial : Nat) (name : String)
    (description : Option String) :
    Tame setting overrides (type.renamed serial name description) := by
  obtain ⟨kept, aliased⟩ := type.isRenaming_renamed serial name description
  by_cases wrapper : type.IsWrapper
  · rw [kept wrapper]
    exact tame
  · obtain ⟨other, made⟩ := aliased wrapper
    rw [made]
    intro serial name description delegate holds
    rcases SchemaType.holds_iff.1 holds with self | ⟨inner, listed, holds⟩
    · cases self
      exact .inr wrapper
    · rw [List.mem_singleton.1 listed] at holds
      exact tame serial name description delegate holds

theorem Tame.of_given (given : ∀ part, type.Holds part → Given setting overrides part) :
    Tame setting overrides type :=
  fun _ _ _ _ holds => .inl (given _ holds)

end Tame

/-- The types of an entry are tame. -/
def TameEntry (setting : Setting) (overrides : SortedMap TypeId Override)
    (entry : TypeEntry) : Prop :=
  ∀ type ∈ entry.output :: entry.input.toList, Tame setting overrides type

theorem TameEntry.both {overrides : SortedMap TypeId Override} {type : SchemaType}
    (tame : Tame setting overrides type) : TameEntry setting overrides (.both type) := by
  intro other listed
  rcases List.mem_cons.1 listed with rfl | listed
  · exact tame
  · rwa [List.mem_singleton.1 listed]

theorem StandsAlone.tame {overrides : SortedMap TypeId Override} {descriptor : Descriptor}
    {entry : TypeEntry} {codec : Option SharedCodec}
    (stands : StandsAlone setting descriptor entry codec) : TameEntry setting overrides entry := by
  cases stands with
  | enumeration => exact .both (.of_inside nofun nofun)
  | scalar => exact .both (.of_given fun part holds => .inl ⟨_, Resolve.scalarOf_mem _ _, holds⟩)

/-- The objects of ranges hold no aliases. -/
theorem ShapeOver.tame {overrides : SortedMap TypeId Override} {pool : TypePool} {name : String}
    {sub shape : TypeEntry} (fits : ShapeOver setting pool name sub shape) :
    TameEntry setting overrides shape := by
  obtain ⟨output, input⟩ := shape
  obtain ⟨-, ⟨_, -, object⟩, fitsInput⟩ := fits
  intro type listed
  rcases List.mem_cons.1 listed with rfl | listed
  · cases object
    exact .of_inside nofun nofun
  · obtain rfl : input = some type := by simpa using listed
    generalize sub.input = subInput at fitsInput
    cases fitsInput with
    | some _ object =>
      cases object
      exact .of_inside nofun nofun

/-- A type completed over a tame child is tame. -/
theorem Completed.tame {overrides : SortedMap TypeId Override} (sound : Sound setting registry)
    {descriptor : Descriptor} {role : ChildRole} {childId : TypeId} {child entry : TypeEntry}
    {shared : SharedCodec}
    (completed : Completed setting registry descriptor role childId child entry shared)
    (below : TameEntry setting overrides child) : TameEntry setting overrides entry := by
  have output : Tame setting overrides child.output := below _ (List.mem_cons_self ..)
  have input : ∀ {type}, child.input = some type → Tame setting overrides type := fun given =>
    below _ (List.mem_cons_of_mem _ (by simp [given]))
  cases completed with
  | array outputSerial inputSerial _ _ =>
    intro type listed
    rcases List.mem_cons.1 listed with rfl | listed
    · exact output.list outputSerial
    · obtain ⟨inner, given, rfl⟩ := Option.map_eq_some_iff.1 (Option.mem_toList.1 listed)
      exact (input given).list inputSerial
  | domain outputSerial inputSerial _ _ _ _ =>
    intro type listed
    rcases List.mem_cons.1 listed with rfl | listed
    · exact output.renamed _ _ _
    · obtain ⟨inner, given, rfl⟩ := Option.map_eq_some_iff.1 (Option.mem_toList.1 listed)
      split
      · exact output.renamed _ _ _
      · exact (input given).renamed _ _ _
  | range _ _ _ shaped =>
    obtain ⟨_, _, _, -, -, fits⟩ := sound.shapes shaped
    exact fits.tame

/-- **Settled types are tame.** The induction follows the references of the id, which end. -/
theorem Sound.tame (sound : Sound setting registry) {id : TypeId} {entry : TypeEntry}
    (settled : registry.types.find? id = some entry) :
    TameEntry setting registry.overrides entry := by
  induction sound.grounded settled generalizing entry with
  | intro id _ ih =>
    obtain ⟨descriptor, known, built⟩ := sound.built settled
    generalize registry.codecs.find? id = codec at built
    cases built with
    | overridden found =>
      exact fun type listed => .of_given fun part holds => .inr ⟨id, _, found, type, listed, holds⟩
    | alone _ _ stands => exact stands.tame
    | @overChild role childId _ _ _ plain rests _ admitted settledChild completed =>
      have found := Resolve.child?_of_askChild admitted
      exact completed.tame sound
        (ih childId ⟨plain, descriptor, role, known, rests, found⟩ settledChild)

/-! ### Reachable registries -/

/-- **Domains are transparent.** In a reachable registry a settled domain without override has the
types of its base, renamed: lists and non-null types are kept, any other type gets an alias of the
domain's own name. Down a chain of domains of any length, conversions, fields, lists and the types
behind aliases are those of the bottom, and there is one instance for output and input if there is
one at the bottom. No alias wraps a list or a non-null type, unless callers gave it so. -/
theorem domains_transparent (setting : Setting) {registry : Registry}
    (reachable : Reachable setting registry) :
    (∀ id descriptor baseId entry, DomainOver setting registry.overrides id descriptor baseId →
      registry.types.find? id = some entry →
      ∃ base, registry.types.find? baseId = some base ∧ Renames setting descriptor entry base ∧
        ConvertsLike setting registry id baseId) ∧
    (∀ top bottom entry, ReflTransGen (DomainStep setting registry.overrides) top bottom →
      registry.types.find? top = some entry →
      ∃ last, registry.types.find? bottom = some last ∧
        Alike setting registry top bottom entry last) ∧
    ∀ id entry, registry.types.find? id = some entry →
      TameEntry setting registry.overrides entry := by
  have sound := reachable.sound
  refine ⟨fun id descriptor baseId entry domain settled => ?_,
    fun top bottom entry chain settled => sound.alike_of_chain chain settled,
    fun id entry settled => sound.tame settled⟩
  obtain ⟨base, settledBase, renames⟩ := sound.renames domain settled
  exact ⟨base, settledBase, renames, sound.convertsLike domain settled settledBase⟩

/-- The domain over the number type, which has an override. -/
theorem domains_transparent_sample :
    Reachable sampleSetting sampleRegistry ∧ ∃ descriptor entry base,
      DomainOver sampleSetting sampleRegistry.overrides 100 descriptor 23 ∧
      sampleRegistry.types.find? 100 = some entry ∧ sampleRegistry.types.find? 23 = some base ∧
      Renames sampleSetting descriptor entry base ∧
      ConvertsLike sampleSetting sampleRegistry 100 23 ∧
      Alike sampleSetting sampleRegistry 100 23 entry base ∧
      TameEntry sampleSetting sampleRegistry.overrides entry := by
  have resolved : (sampleRegistry.types.find? 100).isSome := by decide +kernel
  obtain ⟨entry, settled⟩ := Option.isSome_iff_exists.1 resolved
  have domain : DomainOver sampleSetting sampleRegistry.overrides 100 _ 23 :=
    ⟨by decide +kernel, rfl, rfl, rfl⟩
  obtain ⟨renamed, chained, tame⟩ := domains_transparent sampleSetting sampleRegistry_reachable
  obtain ⟨base, settledBase, renames, converts⟩ := renamed 100 _ 23 entry domain settled
  obtain ⟨last, settledLast, alike⟩ := chained 100 23 entry (.single ⟨_, domain⟩) settled
  obtain rfl := Option.some.inj (settledBase.symm.trans settledLast)
  exact ⟨sampleRegistry_reachable, _, entry, base, domain, settled, settledBase, renames, converts,
    alike, tame 100 entry settled⟩

end CatalogSchema
