/-
**Every resolved type is served the conversion that its descriptor prescribes.**

`Prescribes` reads a conversion off the descriptors, from the top down, and knows of no registry. A
registry makes conversions from the bottom up, in the order in which types are asked for.

* `Prescribes.unique`: an id is prescribed one conversion at most.
* `Sound.prescribes`: what a sound registry holds for a settled id is prescribed.
* `Sound.serves`: a sound registry serves a settled id as prescribed, value by value.
* `served_prescribed`: so does every reachable registry.
-/

import CatalogSchema.Proofs.Resolution.Requests

namespace CatalogSchema

/-! ### What descriptors prescribe -/

/-- The conversion of a type that is built over no other, by its category. -/
def Descriptor.categoryCodec (descriptor : Descriptor) : Codec :=
  if descriptor.category = Category.boolean then .boolean descriptor.qualifiedName
  else if descriptor.category = Category.numeric then .bigNumber descriptor.qualifiedName
  else .identity descriptor.qualifiedName

/-- Base and row types. -/
def Descriptor.IsGeneric (descriptor : Descriptor) : Prop :=
  descriptor.kind = .base ∨ descriptor.kind = .composite

/-- Types that are lists by kind, or by their category. -/
def Descriptor.IsArray (descriptor : Descriptor) : Prop :=
  descriptor.kind = .array ∨
    descriptor.IsGeneric ∧ descriptor.category = Category.array ∧ descriptor.arrayItem.isSome

/-- The conversion that the overrides and the descriptors of a catalog prescribe for an id. -/
inductive Prescribes (setting : Setting) (overrides : SortedMap TypeId Override) :
    TypeId → Codec → Prop
  | overridden {id : TypeId} {descriptor : Descriptor} {mapping : Override}
      (found : overrides.find? id = some mapping)
      (known : setting.catalog.find? id = some descriptor) :
      Prescribes setting overrides id
        ((mapping.codec.map SharedCodec.codec).getD (.identity descriptor.qualifiedName))
  | enumeration {id : TypeId} {descriptor : Descriptor} (plain : overrides.find? id = none)
      (known : setting.catalog.find? id = some descriptor) (kind : descriptor.kind = .enumeration) :
      Prescribes setting overrides id (.identity descriptor.qualifiedName)
  | domain {id baseId : TypeId} {descriptor : Descriptor} {codec : Codec}
      (plain : overrides.find? id = none) (known : setting.catalog.find? id = some descriptor)
      (kind : descriptor.kind = .domain) (base : descriptor.domainBase = some baseId)
      (below : Prescribes setting overrides baseId codec) : Prescribes setting overrides id codec
  | array {id itemId : TypeId} {descriptor itemDescriptor : Descriptor} {codec : Codec}
      (plain : overrides.find? id = none) (known : setting.catalog.find? id = some descriptor)
      (listed : descriptor.IsArray) (item : descriptor.arrayItem = some itemId)
      (knownItem : setting.catalog.find? itemId = some itemDescriptor)
      (below : Prescribes setting overrides itemId codec) :
      Prescribes setting overrides id
        (.array descriptor.displayName codec itemDescriptor.qualifiedName)
  | range {id subId : TypeId} {descriptor : Descriptor} {codec : Codec}
      (plain : overrides.find? id = none) (known : setting.catalog.find? id = some descriptor)
      (kind : descriptor.kind = .range) (sub : descriptor.rangeSubtype = some subId)
      (below : Prescribes setting overrides subId codec) :
      Prescribes setting overrides id (.range descriptor.qualifiedName codec)
  | generic {id : TypeId} {descriptor : Descriptor} (plain : overrides.find? id = none)
      (known : setting.catalog.find? id = some descriptor) (generic : descriptor.IsGeneric)
      (unlisted : ¬descriptor.IsArray) : Prescribes setting overrides id descriptor.categoryCodec

variable {setting : Setting}

/-- An id is prescribed one conversion at most. -/
theorem Prescribes.unique {overrides : SortedMap TypeId Override} {id : TypeId}
    {codec other : Codec} (prescribes : Prescribes setting overrides id codec)
    (also : Prescribes setting overrides id other) : codec = other := by
  induction prescribes generalizing other with
  | overridden found known => cases also <;> simp_all
  | enumeration plain known kind =>
    cases also <;> simp_all [Descriptor.IsArray, Descriptor.IsGeneric]
  | domain plain known kind base below ih =>
    cases also with
    | domain _ known' _ base' below' =>
      obtain rfl := Option.some.inj (known.symm.trans known')
      obtain rfl := Option.some.inj (base.symm.trans base')
      exact ih below'
    | _ => simp_all [Descriptor.IsArray, Descriptor.IsGeneric]
  | array plain known listed item knownItem below ih =>
    cases also with
    | array _ known' _ item' knownItem' below' =>
      obtain rfl := Option.some.inj (known.symm.trans known')
      obtain rfl := Option.some.inj (item.symm.trans item')
      obtain rfl := Option.some.inj (knownItem.symm.trans knownItem')
      rw [ih below']
    | _ => simp_all [Descriptor.IsArray, Descriptor.IsGeneric]
  | range plain known kind sub below ih =>
    cases also with
    | range _ known' _ sub' below' =>
      obtain rfl := Option.some.inj (known.symm.trans known')
      obtain rfl := Option.some.inj (sub.symm.trans sub')
      rw [ih below']
    | _ => simp_all [Descriptor.IsArray, Descriptor.IsGeneric]
  | generic plain known generic unlisted =>
    cases also <;> simp_all [Descriptor.IsArray, Descriptor.IsGeneric]

/-! ### What a registry holds -/

/-- A type without a child is an enumeration, or a base or row type that is no list. -/
theorem Descriptor.childless {descriptor : Descriptor} (rests : descriptor.builtOver = none) :
    descriptor.kind = .enumeration ∨ descriptor.IsGeneric ∧ ¬descriptor.IsArray := by
  unfold builtOver at rests
  unfold IsArray IsGeneric
  cases kind : descriptor.kind <;> simp_all [TypeKind.requiredChild]

/-- Only lists are built over an item. -/
theorem Descriptor.isArray_of_builtOver {descriptor : Descriptor}
    (rests : descriptor.builtOver = some .arrayItem) : descriptor.IsArray := by
  unfold builtOver at rests
  unfold IsArray IsGeneric
  cases kind : descriptor.kind <;> simp_all [TypeKind.requiredChild, Option.isSome_iff_ne_none]

/-- Only domains are built over a base. -/
theorem Descriptor.kind_of_builtOver_domainBase {descriptor : Descriptor}
    (rests : descriptor.builtOver = some .domainBase) : descriptor.kind = .domain := by
  unfold builtOver at rests
  cases kind : descriptor.kind <;> simp_all [TypeKind.requiredChild]

theorem scalarOf_codec (setting : Setting) (descriptor : Descriptor) :
    (Resolve.scalarOf setting descriptor).2 = descriptor.categoryCodec := by
  unfold Resolve.scalarOf Descriptor.categoryCodec
  rw [apply_ite Prod.snd, apply_ite Prod.snd]

/-- A type that stands alone has the conversion of its category, or is an enumeration. -/
theorem StandsAlone.prescribes {registry : Registry} {id : TypeId} {descriptor : Descriptor}
    (plain : registry.overrides.find? id = none)
    (known : setting.catalog.find? id = some descriptor) (childless : descriptor.builtOver = none)
    {entry : TypeEntry} (stands : StandsAlone setting descriptor entry (registry.codecs.find? id)) :
    Prescribes setting registry.overrides id (registry.partCodec id descriptor) := by
  unfold Registry.partCodec
  generalize registry.codecs.find? id = codec at stands
  cases stands with
  | enumeration serial kind named => exact .enumeration plain known kind
  | scalar serial kind =>
    obtain ⟨generic, unlisted⟩ := (Descriptor.childless childless).resolve_left kind
    show Prescribes setting registry.overrides id (Resolve.scalarOf setting descriptor).2
    rw [scalarOf_codec]
    exact .generic plain known generic unlisted

/-- A completed type has the conversion of its descriptor over the conversion of its child. -/
theorem Completed.prescribes {registry : Registry} {id childId : TypeId}
    {descriptor : Descriptor} {role : ChildRole} (plain : registry.overrides.find? id = none)
    (known : setting.catalog.find? id = some descriptor) (rests : descriptor.builtOver = some role)
    (found : descriptor.child? role = some childId) {child entry : TypeEntry} {shared : SharedCodec}
    (completed : Completed setting registry descriptor role childId child entry shared)
    (below : ∀ {childDescriptor}, setting.catalog.find? childId = some childDescriptor →
      Prescribes setting registry.overrides childId (registry.partCodec childId childDescriptor)) :
    Prescribes setting registry.overrides id shared.codec := by
  cases completed with
  | array _ _ _ knownItem =>
    exact .array plain known (Descriptor.isArray_of_builtOver rests) found
      knownItem (below knownItem)
  | domain _ _ _ knownBase converts _ =>
    rw [converts]
    exact .domain plain known (Descriptor.kind_of_builtOver_domainBase rests)
      found (below knownBase)
  | range _ knownSub _ _ =>
    exact .range plain known (Descriptor.kind_of_builtOver_rangeSubtype rests)
      found (below knownSub)

/-- **What a sound registry holds for a settled id is prescribed.** The induction follows the
references of the id, which end. -/
theorem Sound.prescribes {registry : Registry} (sound : Sound setting registry) {id : TypeId}
    {entry : TypeEntry} (settled : registry.types.find? id = some entry) {descriptor : Descriptor}
    (known : setting.catalog.find? id = some descriptor) :
    Prescribes setting registry.overrides id (registry.partCodec id descriptor) := by
  induction sound.grounded settled generalizing entry descriptor with
  | intro id _ ih =>
    obtain ⟨descriptor', known', built⟩ := sound.built settled
    obtain rfl := Option.some.inj (known.symm.trans known')
    generalize held : registry.codecs.find? id = codec at built
    cases built with
    | @overridden mapping found =>
      have codec : registry.partCodec id descriptor =
          (mapping.codec.map SharedCodec.codec).getD (.identity descriptor.qualifiedName) := by
        unfold Registry.partCodec
        rw [held]
        cases mapping.codec <;> rfl
      rw [codec]
      exact .overridden found known
    | alone plain childless stands =>
      rw [← held] at stands
      exact stands.prescribes plain known childless
    | @overChild role childId child _ shared plain rests remaining admitted
        settledChild completed =>
      have codec : registry.partCodec id descriptor = shared.codec := by
        unfold Registry.partCodec
        rw [held]
      have found := Resolve.child?_of_askChild admitted
      rw [codec]
      exact completed.prescribes plain known rests found fun knownChild =>
        ih childId ⟨plain, descriptor, role, known, rests, found⟩ settledChild knownChild

/-- An override with a conversion has it registered when its id is resolved. -/
theorem Built.override_codec {registry : Registry} {id : TypeId} {descriptor : Descriptor}
    {entry : TypeEntry} {codec : Option SharedCodec}
    (built : Built setting registry id descriptor entry codec) (unregistered : codec = none) :
    (registry.overrides.find? id).bind (·.codec) = none := by
  cases built with
  | overridden found =>
    rw [found]
    exact unregistered
  | alone plain _ _ =>
    rw [plain]
    rfl
  | overChild => cases unregistered

/-- The conversion that serves a settled id is the one that it has as a part of others. -/
theorem Sound.codecFor {registry : Registry} (sound : Sound setting registry) {id : TypeId}
    {entry : TypeEntry} (settled : registry.types.find? id = some entry) {descriptor : Descriptor}
    (known : setting.catalog.find? id = some descriptor) :
    ∃ served, registry.codecFor setting id = .ok served ∧
      served.codec = registry.partCodec id descriptor := by
  unfold Registry.codecFor Registry.partCodec
  cases held : registry.codecs.find? id with
  | some shared => exact ⟨.shared shared, rfl, rfl⟩
  | none =>
    obtain ⟨_, -, built⟩ := sound.built settled
    rw [built.override_codec held]
    simp only [known]
    exact ⟨_, rfl, rfl⟩

/-- An id is served a conversion: it is the one that is prescribed, and values of the id are decoded
and encoded by it, with or without a cache of intervals. -/
structure ServesAsPrescribed (setting : Setting) (registry : Registry) (id : TypeId)
    (codec : Codec) : Prop where
  prescribed : ∀ other, Prescribes setting registry.overrides id other ↔ other = codec
  served : ∃ served, registry.codecFor setting id = .ok served ∧ served.codec = codec
  decode : ∀ value, registry.decode setting id value = codec.decode value
  encode : ∀ value, registry.encode setting id value = codec.encode value
  decodeCached : ∀ value cache,
    registry.decodeCached setting id value cache = codec.decodeCached value cache
  encodeCached : ∀ value cache,
    registry.encodeCached setting id value cache = codec.encodeCached value cache

theorem Sound.serves {registry : Registry} (sound : Sound setting registry) {id : TypeId}
    {entry : TypeEntry} (settled : registry.types.find? id = some entry) :
    ∃ codec, ServesAsPrescribed setting registry id codec := by
  obtain ⟨descriptor, known, -⟩ := sound.built settled
  have prescribes := sound.prescribes settled known
  obtain ⟨served, serves, same⟩ := sound.codecFor settled known
  refine ⟨registry.partCodec id descriptor, fun other => ⟨fun also => ?_, fun same => ?_⟩,
    ⟨served, serves, same⟩, fun value => ?_, fun value => ?_, fun value cache => ?_,
    fun value cache => ?_⟩
  · exact also.unique prescribes
  · rw [same]
    exact prescribes
  · unfold Registry.decode
    rw [serves, ← same]
    rfl
  · unfold Registry.encode
    rw [serves, ← same]
    rfl
  · unfold Registry.decodeCached
    rw [serves, ← same]
  · unfold Registry.encodeCached
    rw [serves, ← same]

/-- **Every resolved id is served the conversion that its descriptor prescribes**, whatever was
asked for before, and in which order. -/
theorem served_prescribed {registry : Registry} (reachable : Reachable setting registry)
    {id : TypeId} {entry : TypeEntry} (resolved : registry.types.find? id = some entry) :
    ∃ codec, ServesAsPrescribed setting registry id codec :=
  reachable.sound.serves resolved

theorem served_prescribed_sample :
    Reachable sampleSetting sampleRegistry ∧ sampleRegistry.types.find? 101 ≠ none ∧
      ∃ codec, ServesAsPrescribed sampleSetting sampleRegistry 101 codec := by
  have resolved : (sampleRegistry.types.find? 101).isSome := by decide +kernel
  obtain ⟨entry, found⟩ := Option.isSome_iff_exists.1 resolved
  refine ⟨sampleRegistry_reachable, ?_, served_prescribed sampleRegistry_reachable found⟩
  rw [found]
  exact Option.some_ne_none entry

end CatalogSchema
