/-
**A resolved type keeps its instances.**

The tables of a registry are written once: what stands under an id is never removed and never
replaced by another instance, whatever is asked later and whether or not it succeeds.

* `Registry.Retains`: a later registry holds what an earlier one held, answers with it, and does not
  change when it does.
* `Registry.Remembers`: what a registry answers with is held afterwards.
* `retains_of_grows`, `Sound.remembers`: both follow from `Registry.Grows` and `Sound`, which every
  request keeps.
-/

import CatalogSchema.Proofs.Resolution.Requests

namespace CatalogSchema

open Resolve

variable {setting : Setting} {registry : Registry}

/-! ### What is held is answered -/

theorem runOn_entry_of_settled {id : TypeId} {entry : TypeEntry}
    (settled : registry.types.find? id = some entry) :
    runOn (Resolve.entry setting id) registry = (.ok entry, registry) :=
  runOn_resolveAt_of_settled settled

theorem codecFor_of_found {id : TypeId} {shared : SharedCodec}
    (found : registry.codecs.find? id = some shared) :
    registry.codecFor setting id = .ok (.shared shared) := by
  unfold Registry.codecFor
  rw [found]

theorem runOn_rangeShape_of_found {name : String} {shape : TypeEntry}
    (found : registry.rangeShapes.find? name = some shape) (sub : TypeEntry) :
    runOn (rangeShape setting name sub) registry = (.ok shape, registry) := by
  unfold rangeShape
  rw [runOn_bind, runOn_get]
  simp only [found]
  rfl

/-- What an earlier registry held is held by a later one, which answers with it and stays as it
is. -/
structure Registry.Retains (setting : Setting) (held later : Registry) : Prop where
  types : ∀ {id entry}, held.types.find? id = some entry →
    later.types.find? id = some entry ∧
    runOn (Resolve.entry setting id) later = (.ok entry, later) ∧
    runOn (Resolve.output setting id) later = (.ok entry.output, later) ∧
    runOn (Resolve.input setting id) later = (.ok entry.input, later)
  codecs : ∀ {id shared}, held.codecs.find? id = some shared →
    later.codecs.find? id = some shared ∧ later.codecFor setting id = .ok (.shared shared)
  sets : ∀ {id type}, held.sets.find? id = some type →
    later.sets.find? id = some type ∧
    runOn (Resolve.setOutput setting id) later = (.ok type, later)
  shapes : ∀ {name shape}, held.rangeShapes.find? name = some shape →
    later.rangeShapes.find? name = some shape ∧
    ∀ sub, runOn (rangeShape setting name sub) later = (.ok shape, later)
  overrides : ∀ {id mapping}, held.overrides.find? id = some mapping →
    later.overrides.find? id = some mapping

/-- A conversion is registered for settled ids only. -/
theorem Sound.settled_of_codec (sound : Sound setting registry) {id : TypeId} {shared : SharedCodec}
    (found : registry.codecs.find? id = some shared) :
    ∃ entry, registry.types.find? id = some entry := by
  cases settled : registry.types.find? id with
  | some entry => exact ⟨entry, rfl⟩
  | none =>
    rw [sound.codecs_settled settled] at found
    cases found

theorem retains_of_grows {later : Registry} (sound : Sound setting registry)
    (grows : registry.Grows later) : registry.Retains setting later where
  types {id entry} settled := by
    have kept := grows.types_kept settled
    have ran : runOn (Resolve.entry setting id) later = (.ok entry, later) :=
      runOn_entry_of_settled kept
    refine ⟨kept, ran, ?_, ?_⟩
    · rw [runOn_output, ran]
      rfl
    · rw [runOn_input, ran]
      rfl
  codecs {id shared} found := by
    obtain ⟨entry, settled⟩ := sound.settled_of_codec found
    have kept : later.codecs.find? id = some shared := (grows.codecs_kept settled).trans found
    exact ⟨kept, codecFor_of_found kept⟩
  sets found := ⟨grows.sets_kept found, runOn_setOutput_of_found (grows.sets_kept found)⟩
  shapes found := ⟨grows.shapes_kept found, runOn_rangeShape_of_found (grows.shapes_kept found)⟩
  overrides found := grows.overrides_kept found

/-! ### What is answered is held -/

/-- What a registry answers with is held by the registry that the question leaves. -/
structure Registry.Remembers (setting : Setting) (registry : Registry) : Prop where
  entry : ∀ {id entry after}, runOn (Resolve.entry setting id) registry = (.ok entry, after) →
    after.types.find? id = some entry
  output : ∀ {id type after}, runOn (Resolve.output setting id) registry = (.ok type, after) →
    ∃ entry, after.types.find? id = some entry ∧ entry.output = type
  input : ∀ {id type after}, runOn (Resolve.input setting id) registry = (.ok type, after) →
    ∃ entry, after.types.find? id = some entry ∧ entry.input = type
  setOutput : ∀ {id type after}, runOn (Resolve.setOutput setting id) registry = (.ok type, after) →
    after.sets.find? id = some type

theorem find?_of_runOn_entry (sound : Sound setting registry) {id : TypeId} {entry : TypeEntry}
    {after : Registry} (ran : runOn (Resolve.entry setting id) registry = (.ok entry, after)) :
    after.types.find? id = some entry := by
  have settles := runOn_entry_settles sound id
  rw [ran] at settles
  exact settles.returned rfl

/-- A part of the entry that is answered with is a part of the one that is held. -/
theorem find?_of_part_of_entry {α : Type} {part : TypeEntry → α} (sound : Sound setting registry)
    {id : TypeId} {value : α} {after : Registry}
    (ran : ((runOn (Resolve.entry setting id) registry).1.map part,
      (runOn (Resolve.entry setting id) registry).2) = (.ok value, after)) :
    ∃ entry, after.types.find? id = some entry ∧ part entry = value := by
  rcases resolved : runOn (Resolve.entry setting id) registry with ⟨error | entry, left⟩
  · rw [resolved] at ran
    cases ran
  · rw [resolved] at ran
    cases ran
    exact ⟨entry, find?_of_runOn_entry sound resolved, rfl⟩

theorem Sound.remembers (sound : Sound setting registry) : registry.Remembers setting where
  entry ran := find?_of_runOn_entry sound ran
  output ran := find?_of_part_of_entry sound ((runOn_output ..).symm.trans ran)
  input ran := find?_of_part_of_entry sound ((runOn_input ..).symm.trans ran)
  setOutput {id type after} ran := by
    cases found : registry.sets.find? id with
    | some held =>
      rw [runOn_setOutput_of_found found] at ran
      cases ran
      exact found
    | none =>
      rcases resolved : runOn (Resolve.entry setting id) registry with ⟨error | entry, left⟩
      · rw [runOn_setOutput_of_error found resolved] at ran
        cases ran
      · obtain ⟨made, pool, -, filed⟩ := runOn_setOutput_of_ok found resolved
        rw [filed] at ran
        cases ran
        exact SortedMap.find?_insert_self _ _ _

/-! ### Every later moment -/

/-- **Identity is written once.** After any further requests to a reachable registry, failed ones
and overrides among them, the registry holds every entry, conversion, set type and range object that
it held before, and answers with these instances. Conversions are registered for settled ids only,
and whatever is answered from then on is held in turn. -/
theorem registry_written_once (setting : Setting) {registry later : Registry}
    (reachable : Reachable setting registry)
    (run : Run setting (fun _ => True) registry later) :
    registry.Retains setting later ∧
    (∀ id, later.codecs.contains id → later.types.contains id) ∧
    later.Remembers setting := by
  have sound := reachable.sound
  obtain ⟨soundLater, grows⟩ := run.sound_grows sound
  refine ⟨retains_of_grows sound grows, fun id registered => ?_, soundLater.remembers⟩
  obtain ⟨shared, found⟩ := Option.isSome_iff_exists.1 registered
  obtain ⟨entry, settled⟩ := soundLater.settled_of_codec found
  exact Option.isSome_iff_exists.2 ⟨entry, settled⟩

/-- Requests after those of the sample: two that fail below the type they are about, an override
that comes too late and one in time, the type it is for, and a set. -/
def laterRequests : List Request := [
  .entry 105,
  .output 104,
  .registerOverride 101 ⟨sampleSetting.scalars.string, none, none⟩ .fail,
  .registerOverride 105 ⟨sampleSetting.scalars.string, none, none⟩ .fail,
  .entry 105,
  .setOutput 101]

/-- The list over the domain, its conversion and the set of ranges are as before. -/
theorem registry_written_once_sample :
    let later := Request.afterAll sampleSetting sampleRegistry laterRequests
    (Reachable sampleSetting sampleRegistry ∧
      Run sampleSetting (fun _ => True) sampleRegistry later) ∧
    (∃ entry, sampleRegistry.types.find? 101 = some entry ∧
      runOn (Resolve.entry sampleSetting 101) later = (.ok entry, later)) ∧
    (∃ shared, sampleRegistry.codecs.find? 101 = some shared ∧
      later.codecFor sampleSetting 101 = .ok (.shared shared)) ∧
    (∃ type, sampleRegistry.sets.find? 102 = some type ∧
      runOn (Resolve.setOutput sampleSetting 102) later = (.ok type, later)) ∧
    later.types.contains 101 := by
  intro later
  have run : Run sampleSetting (fun _ => True) sampleRegistry later :=
    .append .start fun _ _ => trivial
  have listed : (sampleRegistry.types.find? 101).isSome := by decide +kernel
  have converted : (sampleRegistry.codecs.find? 101).isSome := by decide +kernel
  have collected : (sampleRegistry.sets.find? 102).isSome := by decide +kernel
  obtain ⟨entry, settled⟩ := Option.isSome_iff_exists.1 listed
  obtain ⟨shared, registered⟩ := Option.isSome_iff_exists.1 converted
  obtain ⟨type, filed⟩ := Option.isSome_iff_exists.1 collected
  obtain ⟨retains, within, -⟩ :=
    registry_written_once sampleSetting sampleRegistry_reachable run
  obtain ⟨kept, serves⟩ := retains.codecs registered
  exact ⟨⟨sampleRegistry_reachable, run⟩, ⟨entry, settled, (retains.types settled).2.1⟩,
    ⟨shared, registered, serves⟩, ⟨type, filed, (retains.sets filed).2⟩,
    within 101 (Option.isSome_iff_exists.2 ⟨shared, kept⟩)⟩

end CatalogSchema
