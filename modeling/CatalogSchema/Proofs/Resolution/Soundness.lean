/-
**Every settled type is what its descriptor says.**

* `Built`: types and a conversion are those of a descriptor, over what a registry holds for the
  child.
* `Sound`: every settled id is built, its references end somewhere, and every object of ranges was
  made for a range that is settled.
* `Resolves.settles`: a resolution keeps a registry sound, whatever its outcome, and settles nothing
  but the id and ids that it leads to.
-/

import CatalogSchema.Proofs.Resolution.References

namespace CatalogSchema

open Relation

variable {setting : Setting} {overrides : SortedMap TypeId Override}

/-! ### Built types -/

/-- The types and the conversion of a descriptor, over what a registry holds for its child. -/
inductive Built (setting : Setting) (registry : Registry) (id : TypeId) (descriptor : Descriptor) :
    TypeEntry → Option SharedCodec → Prop
  | overridden {mapping : Override} (found : registry.overrides.find? id = some mapping) :
      Built setting registry id descriptor ⟨mapping.output, mapping.input⟩ mapping.codec
  | alone {entry : TypeEntry} {codec : Option SharedCodec}
      (plain : registry.overrides.find? id = none) (childless : descriptor.builtOver = none)
      (stands : StandsAlone setting descriptor entry codec) :
      Built setting registry id descriptor entry codec
  | overChild {role : ChildRole} {childId : TypeId} {child entry : TypeEntry} {shared : SharedCodec}
      (plain : registry.overrides.find? id = none) (rests : descriptor.builtOver = some role)
      (remaining : Nat)
      (admitted : Resolve.askChild setting remaining descriptor role = .ok childId)
      (settled : registry.types.find? childId = some child)
      (completed : Completed setting registry descriptor role childId child entry shared) :
      Built setting registry id descriptor entry (some shared)

theorem Completed.grows {before after : Registry} (grows : before.Grows after)
    {descriptor : Descriptor} {role : ChildRole} {childId : TypeId} {child entry : TypeEntry}
    {shared : SharedCodec} (settled : before.types.find? childId = some child)
    (completed : Completed setting before descriptor role childId child entry shared) :
    Completed setting after descriptor role childId child entry shared := by
  cases completed with
  | array outputSerial inputSerial codecSerial known =>
    rw [← grows.partCodec settled]
    exact .array outputSerial inputSerial codecSerial known
  | domain outputSerial inputSerial distinct known converts shares =>
    refine .domain outputSerial inputSerial distinct known ?_ fun held found => ?_
    · rw [converts, grows.partCodec settled]
    · exact shares held (by rw [← grows.codecs_kept settled, found])
  | range codecSerial known name shaped =>
    rw [← grows.partCodec settled]
    exact .range codecSerial known name (grows.shapes_kept shaped)

/-- What is built stays built. -/
theorem Built.grows {before after : Registry} (grows : before.Grows after) {id : TypeId}
    {descriptor : Descriptor} {entry : TypeEntry} {codec : Option SharedCodec}
    (same : after.overrides.find? id = before.overrides.find? id)
    (built : Built setting before id descriptor entry codec) :
    Built setting after id descriptor entry codec := by
  cases built with
  | overridden found => exact .overridden (same.trans found)
  | alone plain childless stands => exact .alone (same.trans plain) childless stands
  | overChild plain rests remaining admitted settled completed =>
    exact .overChild (same.trans plain) rests remaining admitted (grows.types_kept settled)
      (completed.grows grows settled)

/-! ### Sound registries -/

/-- A settled range without override, and its settled subtype. -/
structure SettledRange (setting : Setting) (registry : Registry) (rangeId subId : TypeId)
    (range sub : TypeEntry) : Prop where
  described : ∃ descriptor, setting.catalog.find? rangeId = some descriptor ∧
    descriptor.kind = .range ∧ descriptor.rangeSubtype = some subId
  plain : registry.overrides.find? rangeId = none
  range : registry.types.find? rangeId = some range
  sub : registry.types.find? subId = some sub

/-- A range for which the objects of ranges under a name were made. -/
def ShapeMade (setting : Setting) (registry : Registry) (name : String)
    (shape : TypeEntry) : Prop :=
  ∃ rangeId subId sub, SettledRange setting registry rangeId subId shape sub ∧
    sub.output.name? = some name ∧ ShapeOver setting registry.pool name sub shape

/-- Every settled id is built and grounded, and all objects of ranges are in use. -/
structure Sound (setting : Setting) (registry : Registry) : Prop where
  built : ∀ {id entry}, registry.types.find? id = some entry →
    ∃ descriptor, setting.catalog.find? id = some descriptor ∧
      Built setting registry id descriptor entry (registry.codecs.find? id)
  grounded : ∀ {id entry}, registry.types.find? id = some entry →
    Grounded setting registry.overrides id
  codecs_settled : ∀ {id}, registry.types.find? id = none → registry.codecs.find? id = none
  shapes : ∀ {name shape}, registry.rangeShapes.find? name = some shape →
    ShapeMade setting registry name shape

theorem SettledRange.grows {before after : Registry} (grows : before.Grows after)
    {rangeId subId : TypeId} {range sub : TypeEntry}
    (settled : SettledRange setting before rangeId subId range sub) :
    SettledRange setting after rangeId subId range sub where
  described := settled.described
  plain := (grows.plain_kept settled.range).trans settled.plain
  range := grows.types_kept settled.range
  sub := grows.types_kept settled.sub

theorem ShapeMade.grows {before after : Registry} (grows : before.Grows after) {name : String}
    {shape : TypeEntry} (made : ShapeMade setting before name shape) :
    ShapeMade setting after name shape := by
  obtain ⟨rangeId, subId, sub, settled, named, fits⟩ := made
  exact ⟨rangeId, subId, sub, settled.grows grows, named, fits.grows grows.pool⟩

/-- Later overrides only take references away. -/
theorem Registry.Grows.refers {before after : Registry} (grows : before.Grows after)
    {id child : TypeId} (refers : Refers setting after.overrides id child) :
    Refers setting before.overrides id child := by
  refine ⟨?_, refers.child⟩
  cases found : before.overrides.find? id with
  | none => rfl
  | some mapping => exact absurd (grows.overrides_kept found) (by rw [refers.plain]; nofun)

/-- A registry that grows without settling an id stays sound. -/
theorem Sound.of_grows {before after : Registry} (sound : Sound setting before)
    (grows : before.Grows after) (types : after.types = before.types)
    (codecs : after.codecs = before.codecs) (shapes : after.rangeShapes = before.rangeShapes) :
    Sound setting after where
  built {id entry} found := by
    rw [types] at found
    obtain ⟨descriptor, known, built⟩ := sound.built found
    rw [codecs]
    exact ⟨descriptor, known, built.grows grows (grows.plain_kept found)⟩
  grounded found := by
    rw [types] at found
    exact (sound.grounded found).mono grows.refers
  codecs_settled free := by
    rw [types] at free
    rw [codecs]
    exact sound.codecs_settled free
  shapes found := by
    rw [shapes] at found
    exact (sound.shapes found).grows grows

theorem Sound.initial : Sound setting .initial where
  built found := by cases found
  grounded found := by cases found
  codecs_settled _ := rfl
  shapes found := by cases found

/-! ### What a settled id is -/

section Settled

variable {registry : Registry} {id : TypeId} {descriptor : Descriptor} {entry : TypeEntry}

theorem Sound.settled_overridden (sound : Sound setting registry)
    (settled : registry.types.find? id = some entry) {mapping : Override}
    (found : registry.overrides.find? id = some mapping) :
    entry = ⟨mapping.output, mapping.input⟩ ∧ registry.codecs.find? id = mapping.codec := by
  obtain ⟨_, -, built⟩ := sound.built settled
  generalize registry.codecs.find? id = codec at built ⊢
  cases built with
  | overridden found' =>
    obtain rfl := Option.some.inj (found.symm.trans found')
    exact ⟨rfl, rfl⟩
  | alone plain _ _ => cases plain.symm.trans found
  | overChild plain _ _ _ _ _ => cases plain.symm.trans found

theorem Sound.settled_alone (sound : Sound setting registry)
    (settled : registry.types.find? id = some entry)
    (known : setting.catalog.find? id = some descriptor)
    (plain : registry.overrides.find? id = none) (childless : descriptor.builtOver = none) :
    StandsAlone setting descriptor entry (registry.codecs.find? id) := by
  obtain ⟨descriptor', known', built⟩ := sound.built settled
  obtain rfl := Option.some.inj (known.symm.trans known')
  generalize registry.codecs.find? id = codec at built ⊢
  cases built with
  | overridden found => cases plain.symm.trans found
  | alone _ _ stands => exact stands
  | overChild _ rests _ _ _ _ => cases childless.symm.trans rests

theorem Sound.settled_over (sound : Sound setting registry)
    (settled : registry.types.find? id = some entry)
    (known : setting.catalog.find? id = some descriptor)
    (plain : registry.overrides.find? id = none) {role : ChildRole}
    (rests : descriptor.builtOver = some role) :
    ∃ remaining childId child shared, Resolve.askChild setting remaining descriptor role =
      .ok childId ∧
      registry.types.find? childId = some child ∧ registry.codecs.find? id = some shared ∧
      Completed setting registry descriptor role childId child entry shared := by
  obtain ⟨descriptor', known', built⟩ := sound.built settled
  obtain rfl := Option.some.inj (known.symm.trans known')
  generalize registry.codecs.find? id = codec at built ⊢
  cases built with
  | overridden found => cases plain.symm.trans found
  | alone _ childless _ => cases childless.symm.trans rests
  | overChild _ rests' remaining admitted settledChild completed =>
    obtain rfl := Option.some.inj (rests.symm.trans rests')
    exact ⟨remaining, _, _, _, admitted, settledChild, rfl, completed⟩

/-- A type that is settled over its child, where the child is known. -/
theorem Sound.settled_overChild (sound : Sound setting registry)
    (settled : registry.types.find? id = some entry)
    (known : setting.catalog.find? id = some descriptor)
    (plain : registry.overrides.find? id = none) {role : ChildRole}
    (rests : descriptor.builtOver = some role) {childId : TypeId}
    (found : descriptor.child? role = some childId) :
    ∃ child shared, registry.types.find? childId = some child ∧
      Completed setting registry descriptor role childId child entry shared := by
  obtain ⟨_, otherId, child, shared, admitted, settledChild, -, completed⟩ :=
    sound.settled_over settled known plain rests
  obtain rfl := Option.some.inj (found.symm.trans (Resolve.child?_of_askChild admitted))
  exact ⟨child, shared, settledChild, completed⟩

end Settled

/-! ### Filing keeps a registry sound -/

/-- Only ranges are built over a subtype. -/
theorem Descriptor.kind_of_builtOver_rangeSubtype {descriptor : Descriptor}
    (rests : descriptor.builtOver = some .rangeSubtype) : descriptor.kind = .range := by
  unfold Descriptor.builtOver at rests
  cases kind : descriptor.kind with
  | range => rfl
  | array | domain | enumeration =>
    rw [kind] at rests
    cases rests
  | base | composite =>
    rw [kind] at rests
    dsimp only at rests
    split at rests <;> cases rests

/-- What is built over grounded ids is grounded. -/
theorem Built.grounded {registry : Registry} {id : TypeId} {descriptor : Descriptor}
    (known : setting.catalog.find? id = some descriptor) {entry : TypeEntry}
    {codec : Option SharedCodec} (built : Built setting registry id descriptor entry codec)
    (below : ∀ {childId child}, registry.types.find? childId = some child →
      Grounded setting registry.overrides childId) : Grounded setting registry.overrides id := by
  refine .intro id fun child refers => ?_
  obtain ⟨plain, descriptor', role, known', rests', found'⟩ := refers
  obtain rfl : descriptor = descriptor' := Option.some.inj (known.symm.trans known')
  cases built with
  | overridden found => cases plain.symm.trans found
  | alone _ childless _ => cases childless.symm.trans rests'
  | overChild _ rests remaining admitted settled _ =>
    obtain rfl := Option.some.inj (rests.symm.trans rests')
    have found := Resolve.child?_of_askChild admitted
    obtain rfl := Option.some.inj (found.symm.trans found')
    exact below settled

/-- Filing a built id keeps a registry sound, if the new objects of ranges are made for it. -/
theorem Sound.file {before between : Registry} (sound : Sound setting before)
    (same : before.SameEntries between) {id : TypeId} (free : before.types.find? id = none)
    {descriptor : Descriptor} (known : setting.catalog.find? id = some descriptor)
    {entry : TypeEntry}
    {codec : Option SharedCodec} (built : Built setting between id descriptor entry codec)
    (shapes : ∀ {name shape}, between.rangeShapes.find? name = some shape →
      before.rangeShapes.find? name = some shape ∨
        ShapeMade setting (between.file id entry codec) name shape) :
    Sound setting (between.file id entry codec) := by
  have freeBetween : between.types.find? id = none := by rw [same.types, free]
  have noCodec : between.codecs.find? id = none := by rw [same.codecs, sound.codecs_settled free]
  have late : between.Grows (between.file id entry codec) := .file freeBetween
  have grows : before.Grows (between.file id entry codec) := same.grows.trans late
  have references : (between.file id entry codec).overrides = before.overrides := same.overrides
  refine ⟨fun {other kept} found => ?_, fun {other kept} found => ?_, fun {other} unsettled => ?_,
    fun {name shape} found => ?_⟩
  · by_cases self : other = id
    · subst self
      rw [Registry.file_types_self freeBetween] at found
      cases found
      rw [Registry.file_codecs_self noCodec]
      exact ⟨descriptor, known, built.grows late rfl⟩
    · rw [Registry.file_types_of_ne self, same.types] at found
      obtain ⟨otherDescriptor, otherKnown, otherBuilt⟩ := sound.built found
      rw [Registry.file_codecs_of_ne self, same.codecs]
      exact ⟨otherDescriptor, otherKnown, otherBuilt.grows grows (grows.plain_kept found)⟩
  · rw [references]
    by_cases self : other = id
    · subst self
      have soundBetween : Grounded setting between.overrides other :=
        built.grounded known fun settled => by
          rw [same.types] at settled
          rw [same.overrides]
          exact sound.grounded settled
      rwa [same.overrides] at soundBetween
    · rw [Registry.file_types_of_ne self, same.types] at found
      exact sound.grounded found
  · have different : other ≠ id := by
      rintro rfl
      rw [Registry.file_types_self freeBetween] at unsettled
      cases unsettled
    rw [Registry.file_types_of_ne different, same.types] at unsettled
    rw [Registry.file_codecs_of_ne different, same.codecs, sound.codecs_settled unsettled]
  · rcases shapes found with old | made
    · exact (sound.shapes old).grows grows
    · exact made

/-! ### One resolution -/

/-- What a resolution of an id leaves behind, whatever its outcome: nothing is settled but the id
and ids that it leads to. -/
structure Settles (setting : Setting) (before : Registry) (id : TypeId)
    (outcome : Except BuildError TypeEntry) (after : Registry) : Prop where
  sound : Sound setting after
  grows : before.Grows after
  overrides : after.overrides = before.overrides
  sets : after.sets = before.sets
  below : ∀ {other entry}, after.types.find? other = some entry →
    before.types.find? other = some entry ∨ ReflTransGen (Refers setting before.overrides) id other
  returned : ∀ {entry}, outcome = .ok entry → after.types.find? id = some entry

/-- A resolution that changes nothing. -/
theorem Settles.unchanged {registry : Registry} (sound : Sound setting registry) {id : TypeId}
    {outcome : Except BuildError TypeEntry}
    (returned : ∀ {entry}, outcome = .ok entry → registry.types.find? id = some entry) :
    Settles setting registry id outcome registry :=
  ⟨sound, .refl registry, rfl, rfl, .inl, returned⟩

/-- A resolution that fails after the child of the id was resolved. -/
theorem Settles.failed {before after : Registry} {id childId : TypeId}
    (refers : Refers setting before.overrides id childId) {outcome : Except BuildError TypeEntry}
    (settles : Settles setting before childId outcome after) (error : BuildError) :
    Settles setting before id (.error error) after where
  sound := settles.sound
  grows := settles.grows
  overrides := settles.overrides
  sets := settles.sets
  below found := (settles.below found).imp_right (.head refers)
  returned := nofun

/-- An id that is not settled is not settled by resolving its child. -/
theorem Settles.still_free {before after : Registry} {id childId : TypeId}
    (free : before.types.find? id = none) (refers : Refers setting before.overrides id childId)
    {outcome : Except BuildError TypeEntry}
    (settles : Settles setting before childId outcome after) :
    after.types.find? id = none := by
  cases found : after.types.find? id with
  | none => rfl
  | some entry =>
    -- The id would have been settled as part of its own child, and settled ids do not lead back.
    rcases settles.below found with old | leads
    · cases free.symm.trans old
    · have grounded := settles.sound.grounded found
      rw [settles.overrides] at grounded
      exact absurd (.head' refers leads) grounded.not_cyclic

/-- A resolution that files its id, after a registry in which nothing else was settled. -/
theorem Settles.filed {before between : Registry} {id : TypeId} {entry : TypeEntry}
    {codec : Option SharedCodec} (free : between.types.find? id = none)
    (sound : Sound setting (between.file id entry codec)) (grows : before.Grows between)
    (overrides : between.overrides = before.overrides) (sets : between.sets = before.sets)
    (below : ∀ {other entry}, between.types.find? other = some entry →
      before.types.find? other = some entry ∨
        ReflTransGen (Refers setting before.overrides) id other) :
    Settles setting before id (.ok entry) (between.file id entry codec) where
  sound := sound
  grows := grows.trans (.file free)
  overrides := overrides
  sets := sets
  below {other kept} found := by
    by_cases self : other = id
    · subst self
      exact .inr .refl
    · rw [Registry.file_types_of_ne self] at found
      exact below found
  returned same := by
    cases same
    exact Registry.file_types_self free

/-- The objects of ranges that a completed type brings are made for it. -/
theorem Completed.shapeMade {before between : Registry} {remaining : Nat} {id childId : TypeId}
    {descriptor : Descriptor} {role : ChildRole} {child entry : TypeEntry} {shared : SharedCodec}
    (opened : OpenedOver setting between remaining id descriptor role childId)
    (settled : between.types.find? childId = some child)
    (completed : Completed setting between descriptor role childId child entry shared)
    (fresh : Resolve.NewShapes setting before between role child) {name : String}
    {shape : TypeEntry} (there : between.rangeShapes.find? name = some shape) :
    before.rangeShapes.find? name = some shape ∨
      ShapeMade setting (between.file id entry (some shared)) name shape := by
  rcases fresh name shape there with old | ⟨rfl, named, fits⟩
  · exact .inl old
  · cases completed with
    | range codecSerial knownSub named' shaped =>
      obtain rfl := Option.some.inj (named.symm.trans named')
      obtain rfl := Option.some.inj (there.symm.trans shaped)
      have kind := Descriptor.kind_of_builtOver_rangeSubtype opened.rests
      have found := Resolve.child?_of_askChild opened.admitted
      refine .inr ⟨id, childId, child,
        ⟨⟨descriptor, opened.known, kind, found⟩, opened.plain, ?_, ?_⟩, named, fits⟩
      · exact Registry.file_types_self opened.free
      · exact (Registry.Grows.file opened.free).types_kept settled

/-- A type over its child, after the child was resolved. -/
theorem Settles.overChild {before after made : Registry} {remaining : Nat} {id childId : TypeId}
    {descriptor : Descriptor} {role : ChildRole} {child entry : TypeEntry} {shared : SharedCodec}
    (opened : OpenedOver setting before remaining id descriptor role childId)
    (settles : Settles setting before childId (.ok child) after) (same : after.SameEntries made)
    (completed : Completed setting made descriptor role childId child entry shared)
    (fresh : Resolve.NewShapes setting after made role child) :
    Settles setting before id (.ok entry) (made.file id entry (some shared)) := by
  have freeAfter := settles.still_free opened.free opened.refers
  have plain : made.overrides.find? id = none := by
    rw [same.overrides, settles.overrides, opened.plain]
  have openedMade : OpenedOver setting made remaining id descriptor role childId :=
    ⟨⟨by rw [same.types, freeAfter], opened.known, plain⟩, opened.rests, opened.admitted⟩
  have settled : made.types.find? childId = some child := by rw [same.types, settles.returned rfl]
  have sound : Sound setting (made.file id entry (some shared)) :=
    settles.sound.file same freeAfter opened.known
      (.overChild plain opened.rests remaining opened.admitted settled completed)
      (completed.shapeMade openedMade settled fresh)
  refine .filed openedMade.free sound (settles.grows.trans same.grows)
    (same.overrides.trans settles.overrides)
    (same.sets.trans settles.sets) fun {other kept} there => ?_
  rw [same.types] at there
  exact (settles.below there).imp_right (.head opened.refers)

/-- A type without a child. -/
theorem Settles.alone {before made : Registry} (sound : Sound setting before) {id : TypeId}
    {descriptor : Descriptor} {entry : TypeEntry} {codec : Option SharedCodec}
    (opened : Opened setting before id descriptor) (childless : descriptor.builtOver = none)
    (stands : StandsAlone setting descriptor entry codec) (same : before.SameEntries made)
    (shapes : made.rangeShapes = before.rangeShapes) :
    Settles setting before id (.ok entry) (made.file id entry codec) := by
  have free : made.types.find? id = none := by rw [same.types, opened.free]
  have plain : made.overrides.find? id = none := by rw [same.overrides, opened.plain]
  have filed : Sound setting (made.file id entry codec) :=
    sound.file same opened.free opened.known (.alone plain childless stands) fun found => by
      rw [shapes] at found
      exact .inl found
  refine .filed free filed same.grows same.overrides same.sets fun {other kept} there => ?_
  rw [same.types] at there
  exact .inl there

/-- **A resolution keeps a registry sound**, whatever its outcome. -/
theorem Resolves.settles {remaining : Nat} {id : TypeId} {referrer : Option Descriptor}
    {before after : Registry} {outcome : Except BuildError TypeEntry}
    (resolves : Resolves setting remaining id referrer before outcome after)
    (sound : Sound setting before) : Settles setting before id outcome after := by
  induction resolves with
  | settled found =>
    refine .unchanged sound fun same => ?_
    cases same
    exact found
  | unknown | tooDeep | unlabelled | refused => exact .unchanged sound nofun
  | @overridden remaining id referrer registry descriptor mapping free known found =>
    have filed : Sound setting (registry.file id ⟨mapping.output, mapping.input⟩ mapping.codec) :=
      sound.file (.refl registry) free known (.overridden found) .inl
    exact .filed free filed (.refl registry) rfl rfl .inl
  | alone opened childless stands same shapes =>
    exact .alone sound opened childless stands same shapes
  | childFailed opened _ ih => exact (ih sound).failed opened.refers _
  | unnamed opened _ _ _ ih => exact (ih sound).failed opened.refers _
  | overChild opened _ same completed fresh ih =>
    exact .overChild opened (ih sound) same completed fresh

theorem Sound.described {registry : Registry} (sound : Sound setting registry) :
    Described setting registry := by
  intro id entry found
  obtain ⟨descriptor, known, -⟩ := sound.built found
  exact ⟨descriptor, known⟩

end CatalogSchema
