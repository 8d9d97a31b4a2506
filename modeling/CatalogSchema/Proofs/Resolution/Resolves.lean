/-
**What one resolution does.**

`Resolves` lists the ways in which a resolution can end, each with the registry that it leaves. What
is said about resolution elsewhere is an induction over these cases.

* `resolveAt_resolves`: every resolution ends in one of them.
* `Resolves.of_settled` to `Resolves.of_over`: which case it is, by what is known beforehand.
-/

import CatalogSchema.Proofs.Resolution.Synthesis

namespace CatalogSchema

open Resolve

/-- Every settled id has a descriptor. -/
def Described (setting : Setting) (registry : Registry) : Prop :=
  ∀ id entry, registry.types.find? id = some entry →
    ∃ descriptor, setting.catalog.find? id = some descriptor

/-- An id that is about to be made from its descriptor. -/
structure Opened (setting : Setting) (registry : Registry) (id : TypeId) (descriptor : Descriptor) :
    Prop where
  free : registry.types.find? id = none
  known : setting.catalog.find? id = some descriptor
  plain : registry.overrides.find? id = none

/-- An id that is about to be made over a child, which it may ask for. -/
structure OpenedOver (setting : Setting) (registry : Registry) (remaining : Nat) (id : TypeId)
    (descriptor : Descriptor) (role : ChildRole) (childId : TypeId) : Prop
    extends Opened setting registry id descriptor where
  rests : descriptor.builtOver = some role
  admitted : askChild setting remaining descriptor role = .ok childId

/-- How a resolution ends, with the levels that remain for it, its id and referrer, and the registry
before and after. -/
inductive Resolves (setting : Setting) :
    Nat → TypeId → Option Descriptor → Registry → Except BuildError TypeEntry → Registry → Prop
  /-- The id is settled already. -/
  | settled {remaining : Nat} {id : TypeId} {referrer : Option Descriptor} {registry : Registry}
      {entry : TypeEntry} (found : registry.types.find? id = some entry) :
      Resolves setting remaining id referrer registry (.ok entry) registry
  | unknown {remaining : Nat} {id : TypeId} {referrer : Option Descriptor} {registry : Registry}
      (free : registry.types.find? id = none) (unknown : setting.catalog.find? id = none) :
      Resolves setting remaining id referrer registry
        (.error (.missingDescriptor id ((referrer.map Descriptor.displayName).getD "the caller")))
        registry
  | tooDeep {id : TypeId} {referrer : Option Descriptor} {registry : Registry}
      {descriptor : Descriptor}
      (free : registry.types.find? id = none) (known : setting.catalog.find? id = some descriptor) :
      Resolves setting 0 id referrer registry
        (.error (.recursionLimit descriptor.displayName descriptor.kind setting.config.depthLimit))
        registry
  | overridden {remaining : Nat} {id : TypeId} {referrer : Option Descriptor} {registry : Registry}
      {descriptor : Descriptor} {mapping : Override} (free : registry.types.find? id = none)
      (known : setting.catalog.find? id = some descriptor)
      (found : registry.overrides.find? id = some mapping) :
      Resolves setting (remaining + 1) id referrer registry (.ok ⟨mapping.output, mapping.input⟩)
        (registry.file id ⟨mapping.output, mapping.input⟩ mapping.codec)
  | alone {remaining : Nat} {id : TypeId} {referrer : Option Descriptor} {registry made : Registry}
      {descriptor : Descriptor} {entry : TypeEntry} {codec : Option SharedCodec}
      (opened : Opened setting registry id descriptor) (childless : descriptor.builtOver = none)
      (stands : StandsAlone setting descriptor entry codec) (same : registry.SameEntries made)
      (shapes : made.rangeShapes = registry.rangeShapes) :
      Resolves setting (remaining + 1) id referrer registry (.ok entry) (made.file id entry codec)
  /-- The labels of an enumeration have no distinct names. -/
  | unlabelled {remaining : Nat} {id : TypeId} {referrer : Option Descriptor} {registry : Registry}
      {descriptor : Descriptor} {error : BuildError}
      (opened : Opened setting registry id descriptor) (kind : descriptor.kind = .enumeration)
      (collide : enumMembers setting.naming descriptor.displayName (descriptor.labels.getD []) =
        .error error) :
      Resolves setting (remaining + 1) id referrer registry (.error (error.resolving descriptor))
        registry
  /-- The child may not be asked for. -/
  | refused {remaining : Nat} {id : TypeId} {referrer : Option Descriptor} {registry : Registry}
      {descriptor : Descriptor} {role : ChildRole} {error : BuildError}
      (opened : Opened setting registry id descriptor) (rests : descriptor.builtOver = some role)
      (refused : askChild setting remaining descriptor role = .error error) :
      Resolves setting (remaining + 1) id referrer registry (.error (error.resolving descriptor))
        registry
  | childFailed {remaining : Nat} {id childId : TypeId} {referrer : Option Descriptor}
      {registry after : Registry} {descriptor : Descriptor} {role : ChildRole} {error : BuildError}
      (opened : OpenedOver setting registry remaining id descriptor role childId)
      (child : Resolves setting remaining childId (some descriptor) registry (.error error) after) :
      Resolves setting (remaining + 1) id referrer registry
        (.error (error.resolving descriptor)) after
  /-- The subtype of a range has no name. -/
  | unnamed {remaining : Nat} {id childId : TypeId} {referrer : Option Descriptor}
      {registry after : Registry} {descriptor childDescriptor : Descriptor} {child : TypeEntry}
      (opened : OpenedOver setting registry remaining id descriptor .rangeSubtype childId)
      (sub : Resolves setting remaining childId (some descriptor) registry (.ok child) after)
      (knownChild : setting.catalog.find? childId = some childDescriptor)
      (unnamed : child.output.name? = none) :
      Resolves setting (remaining + 1) id referrer registry
        (.error (.resolving descriptor
          (.configuration (.unnamedSubtype childDescriptor.displayName child.output.text)))) after
  | overChild {remaining : Nat} {id childId : TypeId} {referrer : Option Descriptor}
      {registry after made : Registry} {descriptor : Descriptor} {role : ChildRole}
      {child entry : TypeEntry} {shared : SharedCodec}
      (opened : OpenedOver setting registry remaining id descriptor role childId)
      (below : Resolves setting remaining childId (some descriptor) registry (.ok child) after)
      (same : after.SameEntries made)
      (completed : Completed setting made descriptor role childId child entry shared)
      (fresh : NewShapes setting after made role child) :
      Resolves setting (remaining + 1) id referrer registry (.ok entry)
        (made.file id entry (some shared))

variable {setting : Setting}

/-! ### Descriptors -/

/-- What is resolved has a descriptor. -/
theorem Resolves.known {remaining : Nat} {id : TypeId} {referrer : Option Descriptor}
    {before after : Registry} {entry : TypeEntry}
    (resolves : Resolves setting remaining id referrer before (.ok entry) after)
    (described : Described setting before) :
    ∃ descriptor, setting.catalog.find? id = some descriptor := by
  cases resolves with
  | settled found => exact described _ _ found
  | overridden _ known _ => exact ⟨_, known⟩
  | alone opened _ _ _ _ => exact ⟨_, opened.known⟩
  | overChild opened _ _ _ _ => exact ⟨_, opened.known⟩

/-! ### Every resolution -/

/-- One synthesis without override, given how the child is resolved. -/
theorem resolves_opened {remaining : Nat} {id : TypeId} (referrer : Option Descriptor)
    {registry : Registry} {descriptor : Descriptor} (opened : Opened setting registry id descriptor)
    (described : Described setting registry)
    (below : ∀ childId, Resolves setting remaining childId (some descriptor) registry
      (runOn (resolveAt setting remaining childId (some descriptor)) registry).1
      (runOn (resolveAt setting remaining childId (some descriptor)) registry).2) :
    let ran := runOn (synthesize setting remaining
      (fun child => resolveAt setting remaining child (some descriptor)) id descriptor) registry
    match ran.1 with
    | .ok (entry, codec) =>
      Resolves setting (remaining + 1) id referrer registry (.ok entry) (ran.2.file id entry codec)
    | .error error =>
      Resolves setting (remaining + 1) id referrer registry (.error (error.resolving descriptor))
        ran.2 := by
  intro ran
  simp only [ran, runOn_synthesize, opened.plain]
  cases rests : descriptor.builtOver with
  | none =>
    dsimp only
    rcases runOn_standalone setting descriptor registry with
      ⟨entry, codec, made, ran, stands, same, shapes⟩ | ⟨error, kind, collide, ran⟩
    · rw [ran]
      exact .alone opened rests stands same shapes
    · rw [ran]
      exact .unlabelled opened kind collide
  | some role =>
    dsimp only
    unfold runOver
    cases admitted : askChild setting remaining descriptor role with
    | error error => exact .refused opened rests admitted
    | ok childId =>
      have openedOver : OpenedOver setting registry remaining id descriptor role childId :=
        ⟨opened, rests, admitted⟩
      specialize below childId
      dsimp only
      rcases child : runOn (resolveAt setting remaining childId (some descriptor)) registry with
        ⟨error | entry, after⟩
      · rw [child] at below
        exact .childFailed openedOver below
      · rw [child] at below
        dsimp only at below ⊢
        obtain ⟨childDescriptor, knownChild⟩ := below.known described
        rcases runOn_complete descriptor knownChild role entry after with
          ⟨made, shared, last, ran, same, completed, fresh⟩ | ⟨rfl, unnamed, ran⟩
        · rw [ran]
          exact .overChild openedOver below same completed fresh
        · rw [ran]
          exact .unnamed openedOver below knownChild unnamed

/-- **Every resolution ends in one of the cases of `Resolves`.** -/
theorem resolveAt_resolves {registry : Registry} (described : Described setting registry)
    (remaining : Nat) (id : TypeId) (referrer : Option Descriptor) :
    Resolves setting remaining id referrer registry
      (runOn (resolveAt setting remaining id referrer) registry).1
      (runOn (resolveAt setting remaining id referrer) registry).2 := by
  induction remaining generalizing registry id referrer with
  | zero =>
    rw [runOn_resolveAt_zero]
    cases settled : registry.types.find? id with
    | some entry => exact .settled settled
    | none =>
      cases known : setting.catalog.find? id with
      | none =>
        rw [Catalog.require_eq_error known]
        exact .unknown settled known
      | some descriptor =>
        rw [Catalog.require_eq_ok known]
        exact .tooDeep settled known
  | succ remaining ih =>
    rw [runOn_resolveAt_succ]
    cases settled : registry.types.find? id with
    | some entry => exact .settled settled
    | none =>
      cases known : setting.catalog.find? id with
      | none =>
        rw [Catalog.require_eq_error known]
        exact .unknown settled known
      | some descriptor =>
        rw [Catalog.require_eq_ok known]
        cases plain : registry.overrides.find? id with
        | some mapping =>
          simp only [runOn_synthesize, plain]
          exact .overridden settled known plain
        | none =>
          have opened := resolves_opened referrer ⟨settled, known, plain⟩ described
            fun childId => ih described childId (some descriptor)
          dsimp only at opened ⊢
          rcases ran : runOn (synthesize setting remaining
            (fun child => resolveAt setting remaining child (some descriptor)) id descriptor)
            registry with ⟨error | ⟨entry, codec⟩, after⟩
          · rw [ran] at opened
            exact opened
          · rw [ran] at opened
            exact opened

/-! ### Which case it is -/

section Inversion

variable {remaining : Nat} {id : TypeId} {referrer : Option Descriptor} {registry after : Registry}
  {outcome : Except BuildError TypeEntry} {descriptor : Descriptor}

theorem Resolves.of_settled
    (resolves : Resolves setting remaining id referrer registry outcome after)
    {entry : TypeEntry} (settled : registry.types.find? id = some entry) : outcome = .ok entry := by
  cases resolves with
  | settled found => rw [Option.some.inj (found.symm.trans settled)]
  | unknown free | tooDeep free | overridden free => cases free.symm.trans settled
  | alone opened | unlabelled opened | refused opened => cases opened.free.symm.trans settled
  | childFailed opened | unnamed opened | overChild opened => cases opened.free.symm.trans settled

theorem Resolves.of_unknown
    (resolves : Resolves setting remaining id referrer registry outcome after)
    (free : registry.types.find? id = none) (unknown : setting.catalog.find? id = none) :
    outcome = .error
      (.missingDescriptor id ((referrer.map Descriptor.displayName).getD "the caller")) := by
  cases resolves with
  | settled found => cases free.symm.trans found
  | unknown => rfl
  | tooDeep _ known | overridden _ known => cases unknown.symm.trans known
  | alone opened | unlabelled opened | refused opened => cases unknown.symm.trans opened.known
  | childFailed opened | unnamed opened | overChild opened => cases unknown.symm.trans opened.known

theorem Resolves.of_zero (resolves : Resolves setting 0 id referrer registry outcome after)
    (free : registry.types.find? id = none) (known : setting.catalog.find? id = some descriptor) :
    outcome = .error
      (.recursionLimit descriptor.displayName descriptor.kind setting.config.depthLimit) := by
  cases resolves with
  | settled found => cases free.symm.trans found
  | unknown _ unknown => cases unknown.symm.trans known
  | tooDeep _ known' => rw [Option.some.inj (known.symm.trans known')]

theorem Resolves.of_overridden
    (resolves : Resolves setting (remaining + 1) id referrer registry outcome after)
    (free : registry.types.find? id = none) (known : setting.catalog.find? id = some descriptor)
    {mapping : Override} (overridden : registry.overrides.find? id = some mapping) :
    outcome = .ok ⟨mapping.output, mapping.input⟩ := by
  cases resolves with
  | settled found => cases free.symm.trans found
  | unknown _ unknown => cases unknown.symm.trans known
  | overridden _ _ found => rw [Option.some.inj (found.symm.trans overridden)]
  | alone opened | unlabelled opened | refused opened => cases opened.plain.symm.trans overridden
  | childFailed opened | unnamed opened | overChild opened =>
    cases opened.plain.symm.trans overridden

theorem Opened.unique (opened : Opened setting registry id descriptor) {other : Descriptor}
    (also : Opened setting registry id other) : descriptor = other :=
  Option.some.inj (opened.known.symm.trans also.known)

theorem Resolves.of_childless
    (resolves : Resolves setting (remaining + 1) id referrer registry outcome after)
    (opened : Opened setting registry id descriptor) (childless : descriptor.builtOver = none) :
    (∃ entry codec, StandsAlone setting descriptor entry codec ∧ outcome = .ok entry) ∨
      ∃ error, descriptor.kind = .enumeration ∧
        enumMembers setting.naming descriptor.displayName (descriptor.labels.getD []) =
          .error error ∧
        outcome = .error (error.resolving descriptor) := by
  cases resolves with
  | settled found => cases opened.free.symm.trans found
  | unknown _ unknown => cases unknown.symm.trans opened.known
  | overridden _ _ found => cases opened.plain.symm.trans found
  | alone opened' _ stands _ _ =>
    obtain rfl := opened.unique opened'
    exact .inl ⟨_, _, stands, rfl⟩
  | unlabelled opened' kind collide =>
    obtain rfl := opened.unique opened'
    exact .inr ⟨_, kind, collide, rfl⟩
  | refused opened' rests _ =>
    obtain rfl := opened.unique opened'
    cases childless.symm.trans rests
  | childFailed opened' | unnamed opened' | overChild opened' =>
    obtain rfl := opened.unique opened'.toOpened
    cases childless.symm.trans opened'.rests

theorem Descriptor.builtOver_enumeration (kind : descriptor.kind = .enumeration) :
    descriptor.builtOver = none := by
  unfold Descriptor.builtOver
  rw [kind]
  rfl

theorem Resolves.of_refused
    (resolves : Resolves setting (remaining + 1) id referrer registry outcome after)
    (opened : Opened setting registry id descriptor) {role : ChildRole}
    (rests : descriptor.builtOver = some role) {error : BuildError}
    (refused : askChild setting remaining descriptor role = .error error) :
    outcome = .error (error.resolving descriptor) := by
  cases resolves with
  | settled found => cases opened.free.symm.trans found
  | unknown _ unknown => cases unknown.symm.trans opened.known
  | overridden _ _ found => cases opened.plain.symm.trans found
  | alone opened' childless =>
    obtain rfl := opened.unique opened'
    cases childless.symm.trans rests
  | unlabelled opened' kind =>
    obtain rfl := opened.unique opened'
    cases (Descriptor.builtOver_enumeration kind).symm.trans rests
  | refused opened' rests' refused' =>
    obtain rfl := opened.unique opened'
    obtain rfl := Option.some.inj (rests.symm.trans rests')
    cases refused.symm.trans refused'
    rfl
  | childFailed opened' | unnamed opened' | overChild opened' =>
    obtain rfl := opened.unique opened'.toOpened
    obtain rfl := Option.some.inj (rests.symm.trans opened'.rests)
    cases refused.symm.trans opened'.admitted

/-- What an id is about to be made over is determined. -/
theorem OpenedOver.unique_over {role role' : ChildRole} {childId childId' : TypeId}
    {other : Descriptor} (opened : OpenedOver setting registry remaining id descriptor role childId)
    (also : OpenedOver setting registry remaining id other role' childId') :
    descriptor = other ∧ role = role' ∧ childId = childId' := by
  obtain rfl := opened.toOpened.unique also.toOpened
  obtain rfl := Option.some.inj (opened.rests.symm.trans also.rests)
  cases opened.admitted.symm.trans also.admitted
  exact ⟨rfl, rfl, rfl⟩

/-- A type over its child: the child fails, or the child is the subtype of a range and has no name,
or the type is made. -/
theorem Resolves.of_over
    (resolves : Resolves setting (remaining + 1) id referrer registry outcome after)
    {role : ChildRole} {childId : TypeId}
    (opened : OpenedOver setting registry remaining id descriptor role childId) :
    (∃ error, Resolves setting remaining childId (some descriptor) registry (.error error) after ∧
        outcome = .error (error.resolving descriptor)) ∨
      ∃ child settled,
      Resolves setting remaining childId (some descriptor) registry (.ok child) settled ∧
        ((role = .rangeSubtype ∧ child.output.name? = none ∧ after = settled ∧
            ∃ childDescriptor, setting.catalog.find? childId = some childDescriptor ∧
              outcome = .error (.resolving descriptor (.configuration
                (.unnamedSubtype childDescriptor.displayName child.output.text)))) ∨
          ∃ entry, outcome = .ok entry ∧ (role = .rangeSubtype → child.output.name? ≠ none)) := by
  cases resolves with
  | settled found => cases opened.free.symm.trans found
  | unknown _ unknown => cases unknown.symm.trans opened.known
  | overridden _ _ found => cases opened.plain.symm.trans found
  | alone opened' childless =>
    obtain rfl := opened.unique opened'
    cases childless.symm.trans opened.rests
  | unlabelled opened' kind =>
    obtain rfl := opened.unique opened'
    cases (Descriptor.builtOver_enumeration kind).symm.trans opened.rests
  | refused opened' rests' refused =>
    obtain rfl := opened.unique opened'
    obtain rfl := Option.some.inj (opened.rests.symm.trans rests')
    cases refused.symm.trans opened.admitted
  | childFailed opened' child =>
    obtain ⟨rfl, rfl, rfl⟩ := opened.unique_over opened'
    exact .inl ⟨_, child, rfl⟩
  | unnamed opened' sub knownChild unnamed =>
    obtain ⟨rfl, rfl, rfl⟩ := opened.unique_over opened'
    exact .inr ⟨_, _, sub, .inl ⟨rfl, unnamed, rfl, _, knownChild, rfl⟩⟩
  | overChild opened' below same completed =>
    obtain ⟨rfl, rfl, rfl⟩ := opened.unique_over opened'
    refine .inr ⟨_, _, below, .inr ⟨_, rfl, ?_⟩⟩
    rintro rfl
    cases completed with
    | range _ _ name _ =>
      rw [name]
      exact Option.some_ne_none _

end Inversion

end CatalogSchema
