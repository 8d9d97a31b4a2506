/-
**An override decides for its id, from the moment it is accepted.**

An override is accepted only as long as nothing was made of its id, so nothing that is settled ever
rests on a type that is overridden later.

* `Registration`: what registering an override answers, and that only an accepted one leaves a
  trace.
* `Obeys`: what an id with an override is resolved to, and how its values are converted.
* `Sound.obeys`: every sound registry obeys its overrides.
* `overrides_decide`: overrides in every reachable registry and after all further requests.
-/

import CatalogSchema.Proofs.Resolution.Closure

namespace CatalogSchema

open Relation Resolve

variable {setting : Setting} {registry : Registry}

/-! ### Registering -/

section Registering

variable {id : TypeId}

/-- What registering an override answers. It is accepted if its id has none and is not settled, and
only then the registry changes: the id has the override. -/
structure Registration (setting : Setting) (registry : Registry) (id : TypeId) (mapping : Override)
    (rule : ConflictRule) (outcome : Except BuildError Bool) (after : Registry) : Prop where
  late : registry.types.contains id →
    outcome = .error (.configuration (.lateOverride (displayName setting id)))
  duplicate : ¬registry.types.contains id → registry.overrides.contains id → rule = .fail →
    outcome = .error (.duplicateOverride (displayName setting id))
  dropped : ¬registry.types.contains id → registry.overrides.contains id → rule = .yield →
    outcome = .ok false
  accepted : outcome = .ok true ↔ ¬registry.types.contains id ∧ ¬registry.overrides.contains id
  taken : outcome = .ok true →
    after = { registry with overrides := registry.overrides.insert id mapping } ∧
      after.overrides.find? id = some mapping ∧
      ∀ other, other ≠ id → after.overrides.find? other = registry.overrides.find? other
  refused : outcome ≠ .ok true → after = registry

/-- An override that is refused leaves no trace. -/
theorem Registration.of_refused {mapping : Override} {rule : ConflictRule}
    {outcome : Except BuildError Bool} (refused : outcome ≠ .ok true)
    (there : registry.types.contains id ∨ registry.overrides.contains id)
    (late : registry.types.contains id →
      outcome = .error (.configuration (.lateOverride (displayName setting id))))
    (duplicate : ¬registry.types.contains id → registry.overrides.contains id → rule = .fail →
      outcome = .error (.duplicateOverride (displayName setting id)))
    (dropped : ¬registry.types.contains id → registry.overrides.contains id → rule = .yield →
      outcome = .ok false) :
    Registration setting registry id mapping rule outcome registry where
  late := late
  duplicate := duplicate
  dropped := dropped
  accepted := by
    refine ⟨fun taken => absurd taken refused, fun free => ?_⟩
    rcases there with settled | overridden
    · exact absurd settled free.1
    · exact absurd overridden free.2
  taken taken := absurd taken refused
  refused _ := rfl

theorem runOn_registerOverride (setting : Setting) (registry : Registry) (id : TypeId)
    (mapping : Override) (rule : ConflictRule) :
    Registration setting registry id mapping rule
      (runOn (registerOverride setting id mapping rule) registry).1
      (runOn (registerOverride setting id mapping rule) registry).2 := by
  cases settled : registry.types.find? id with
  | some entry =>
    have there : registry.types.contains id := by simp [SortedMap.contains, settled]
    rw [runOn_registerOverride_of_settled settled]
    exact .of_refused (by simp) (.inl there) (fun _ => rfl) (fun absent => absurd there absent)
      (fun absent => absurd there absent)
  | none =>
    have absent : ¬registry.types.contains id := by simp [SortedMap.contains, settled]
    cases found : registry.overrides.find? id with
    | some other =>
      have there : registry.overrides.contains id := by simp [SortedMap.contains, found]
      rw [runOn_registerOverride_of_overridden settled found]
      cases rule with
      | fail =>
        exact .of_refused (by simp) (.inr there) (fun late => absurd late absent) (fun _ _ _ => rfl)
          (fun _ _ same => by cases same)
      | yield =>
        exact .of_refused (by simp) (.inr there) (fun late => absurd late absent)
          (fun _ _ same => by cases same) (fun _ _ _ => rfl)
    | none =>
      have plain : ¬registry.overrides.contains id := by simp [SortedMap.contains, found]
      rw [runOn_registerOverride_of_free settled found]
      exact ⟨fun late => absurd late absent, fun _ taken => absurd taken plain,
        fun _ taken => absurd taken plain, ⟨fun _ => ⟨absent, plain⟩, fun _ => rfl⟩,
        fun _ => ⟨rfl, SortedMap.find?_insert_self _ _ _,
          fun _ different => SortedMap.find?_insert_of_ne _ different _⟩,
        fun refused => absurd rfl refused⟩

end Registering

/-! ### Resolving -/

/-- The conversion that an override gives to its id: its own, or none, and then values pass
unchanged. -/
def Override.served (mapping : Override) (descriptor : Descriptor) : ServedCodec :=
  match mapping.codec with
  | some shared => .shared shared
  | none => .passing (.identity descriptor.qualifiedName)

/-- An id with an override has the types of the override, before anything about its descriptor is
asked, and its values are converted as the override says. -/
structure Obeys (setting : Setting) (registry : Registry) (id : TypeId)
    (mapping : Override) : Prop where
  settled : ∀ {entry}, registry.types.find? id = some entry →
    entry = ⟨mapping.output, mapping.input⟩ ∧ registry.codecs.find? id = mapping.codec
  asked : ∀ {descriptor}, setting.catalog.find? id = some descriptor →
    0 < setting.config.depthLimit →
    (runOn (Resolve.entry setting id) registry).1 = .ok ⟨mapping.output, mapping.input⟩ ∧
    (runOn (Resolve.output setting id) registry).1 = .ok mapping.output ∧
    (runOn (Resolve.input setting id) registry).1 = .ok mapping.input
  served : ∀ {descriptor}, setting.catalog.find? id = some descriptor →
    registry.codecFor setting id = .ok (mapping.served descriptor)

/-- An id with an override is resolved at once. -/
theorem Sound.entry_overridden (sound : Sound setting registry) {id : TypeId} {mapping : Override}
    (found : registry.overrides.find? id = some mapping) {descriptor : Descriptor}
    (known : setting.catalog.find? id = some descriptor) (levels : 0 < setting.config.depthLimit) :
    (runOn (Resolve.entry setting id) registry).1 = .ok ⟨mapping.output, mapping.input⟩ := by
  have resolves := resolveAt_resolves sound.described setting.config.depthLimit id none
  obtain ⟨remaining, limit⟩ := Nat.exists_eq_succ_of_ne_zero (Nat.ne_of_gt levels)
  cases settled : registry.types.find? id with
  | some entry =>
    obtain ⟨rfl, -⟩ := sound.settled_overridden settled found
    exact resolves.of_settled settled
  | none =>
    rw [limit] at resolves
    unfold Resolve.entry
    rw [limit]
    exact resolves.of_overridden settled known found

/-- A sound registry obeys its overrides. -/
theorem Sound.obeys (sound : Sound setting registry) {id : TypeId} {mapping : Override}
    (found : registry.overrides.find? id = some mapping) : Obeys setting registry id mapping where
  settled settled := sound.settled_overridden settled found
  asked known levels := by
    have resolved := sound.entry_overridden found known levels
    rw [runOn_output, runOn_input, resolved]
    exact ⟨rfl, rfl, rfl⟩
  served {descriptor} known := by
    have registered :
        registry.codecs.find? id = none ∨ registry.codecs.find? id = mapping.codec := by
      cases settled : registry.types.find? id with
      | some entry => exact .inr (sound.settled_overridden settled found).2
      | none => exact .inl (sound.codecs_settled settled)
    unfold Registry.codecFor Override.served
    rw [found, known, Option.bind_some]
    rcases registered with absent | same
    · rw [absent]
      cases mapping.codec <;> rfl
    · rw [same]
      cases mapping.codec <;> rfl

/-! ### All requests -/

/-- **Overrides decide.** What registering an override answers in a reachable registry depends on
its id alone, and a refused override leaves the registry as it was. An override that is there stays,
whatever is asked and registered later, and the registry obeys it. Nothing that a settled id rests
on can be given an override any more. -/
theorem overrides_decide (setting : Setting) {registry : Registry}
    (reachable : Reachable setting registry) :
    (∀ id mapping rule, Registration setting registry id mapping rule
      (runOn (registerOverride setting id mapping rule) registry).1
      (runOn (registerOverride setting id mapping rule) registry).2) ∧
    (∀ id mapping later, registry.overrides.find? id = some mapping →
      Run setting (fun _ => True) registry later →
      later.overrides.find? id = some mapping ∧ Obeys setting later id mapping) ∧
    ∀ id entry last, registry.types.find? id = some entry →
      ReflTransGen (Refers setting registry.overrides) id last →
      ∀ mapping rule, runOn (registerOverride setting last mapping rule) registry =
        (.error (.configuration (.lateOverride (displayName setting last))), registry) := by
  have sound := reachable.sound
  refine ⟨fun id mapping rule => runOn_registerOverride setting registry id mapping rule,
    fun id mapping later found run => ?_, fun id entry last settled leads mapping rule => ?_⟩
  · obtain ⟨soundLater, grows⟩ := run.sound_grows sound
    have kept := grows.overrides_kept found
    exact ⟨kept, soundLater.obeys kept⟩
  · obtain ⟨lastEntry, settledLast⟩ := sound.descendant_settled settled leads
    exact runOn_registerOverride_of_settled settledLast mapping rule

/-- The list over the domain over the number type rests on the override of that type, which
stays. -/
theorem overrides_decide_sample :
    Reachable sampleSetting sampleRegistry ∧
    (∃ mapping, sampleRegistry.overrides.find? 23 = some mapping ∧
      Obeys sampleSetting sampleRegistry 23 mapping) ∧
    (∃ entry, sampleRegistry.types.find? 101 = some entry) ∧
    ReflTransGen (Refers sampleSetting sampleRegistry.overrides) 101 23 ∧
    ∀ mapping rule, runOn (registerOverride sampleSetting 23 mapping rule) sampleRegistry =
      (.error (.configuration (.lateOverride "pg_catalog.int4")), sampleRegistry) := by
  have overridden : (sampleRegistry.overrides.find? 23).isSome := by decide +kernel
  have resolved : (sampleRegistry.types.find? 101).isSome := by decide +kernel
  obtain ⟨mapping, found⟩ := Option.isSome_iff_exists.1 overridden
  obtain ⟨entry, settled⟩ := Option.isSome_iff_exists.1 resolved
  have items : Refers sampleSetting sampleRegistry.overrides 101 100 :=
    ⟨by decide +kernel, _, .arrayItem, rfl, rfl, rfl⟩
  have base : Refers sampleSetting sampleRegistry.overrides 100 23 :=
    ⟨by decide +kernel, _, .domainBase, rfl, rfl, rfl⟩
  have leads : ReflTransGen (Refers sampleSetting sampleRegistry.overrides) 101 23 :=
    .head items (.single base)
  obtain ⟨-, obeys, late⟩ := overrides_decide sampleSetting sampleRegistry_reachable
  exact ⟨sampleRegistry_reachable, ⟨mapping, found, (obeys 23 mapping _ found .start).2⟩,
    ⟨entry, settled⟩, leads, late 101 entry 23 settled leads⟩

end CatalogSchema
