/-
**Resolution ends, and settles children with their parents.**

* `resolveCall`: one call of a resolution, with levels counted from the top and calls one level
  deeper left open. At the depth limit nothing is left open, so only one function calls itself in
  this way.
* `Sound.child_settled`: the child of a settled id is settled.
* `LeadsNowhere`: references lead from an id into a cycle or out of the catalog. Such an id is never
  settled.
* `resolution_closed`: all of this for reachable registries.
-/

import CatalogSchema.Proofs.Resolution.Requests
import Mathlib.Logic.Function.Iterate

namespace CatalogSchema

open Relation

variable {setting : Setting}

/-! ### Levels counted from the top -/

/-- One call of a resolution at a level, given what calls do. An id that is not settled is made if
its level is within the limit, and its child is resolved by a call one level deeper. -/
def resolveCall (setting : Setting) (call : Nat → TypeId → Option Descriptor → Resolve TypeEntry)
    (level : Nat) (id : TypeId) (referrer : Option Descriptor) : Resolve TypeEntry := do
  match (← get).types.find? id with
  | some entry => return entry
  | none =>
    let descriptor ← Resolve.ofExcept (setting.catalog.require id referrer)
    if setting.config.depthLimit ≤ level then
      throw (.recursionLimit descriptor.displayName descriptor.kind setting.config.depthLimit)
    else
      let (entry, codec) ← ExceptT.adapt (·.resolving descriptor)
        (Resolve.synthesize setting (setting.config.depthLimit - (level + 1))
          (fun child => call (level + 1) child (some descriptor)) id descriptor)
      modify fun registry => registry.file id entry codec
      return entry

/-- A call depends on the calls one level deeper. -/
theorem resolveCall_congr {call other : Nat → TypeId → Option Descriptor → Resolve TypeEntry}
    {level : Nat} (same : call (level + 1) = other (level + 1)) :
    resolveCall setting call level = resolveCall setting other level := by
  funext id referrer
  unfold resolveCall
  rw [same]

/-- A call at the limit makes no calls. -/
theorem resolveCall_of_limit {call other : Nat → TypeId → Option Descriptor → Resolve TypeEntry}
    {level : Nat} (limit : setting.config.depthLimit ≤ level) :
    resolveCall setting call level = resolveCall setting other level := by
  funext id referrer
  unfold resolveCall
  simp only [if_pos limit]

/-- Resolution within the levels that remain below a level is such a call. -/
theorem resolveAt_eq_resolveCall (level : Nat) :
    Resolve.resolveAt setting (setting.config.depthLimit - level) =
      resolveCall setting
        (fun level => Resolve.resolveAt setting (setting.config.depthLimit - level)) level := by
  funext id referrer
  unfold resolveCall
  by_cases limit : setting.config.depthLimit ≤ level
  · have none : setting.config.depthLimit - level = 0 := by omega
    rw [none, Resolve.resolveAt]
    refine bind_congr fun registry => ?_
    cases registry.types.find? id with
    | some entry => rfl
    | none => exact bind_congr fun descriptor => (if_pos limit).symm
  · have one : setting.config.depthLimit - level = setting.config.depthLimit - (level + 1) + 1 := by
      omega
    rw [one, Resolve.resolveAt]
    refine bind_congr fun registry => ?_
    cases registry.types.find? id with
    | some entry => rfl
    | none => exact bind_congr fun descriptor => (if_neg limit).symm

/-- Calls nested past the limit are not made: what they would do does not matter. -/
theorem iterate_resolveCall (bottom : Nat → TypeId → Option Descriptor → Resolve TypeEntry)
    (nested : Nat) {level : Nat} (within : level ≤ setting.config.depthLimit)
    (enough : setting.config.depthLimit < level + nested) :
    (resolveCall setting)^[nested] bottom level =
      Resolve.resolveAt setting (setting.config.depthLimit - level) := by
  induction nested generalizing level with
  | zero => omega
  | succ nested ih =>
    rw [Function.iterate_succ_apply', resolveAt_eq_resolveCall]
    by_cases limit : setting.config.depthLimit ≤ level
    · exact resolveCall_of_limit limit
    · exact resolveCall_congr (ih (by omega) (by omega))

/-- Only one function calls itself in this way. -/
theorem eq_resolveAt_of_resolveCall {call : Nat → TypeId → Option Descriptor → Resolve TypeEntry}
    (calls : call = resolveCall setting call) :
    call = fun level => Resolve.resolveAt setting (setting.config.depthLimit - level) := by
  funext level
  by_cases within : level ≤ setting.config.depthLimit
  · have nested := iterate_resolveCall call (setting.config.depthLimit + 1) within (by omega)
    rw [← nested, Function.iterate_fixed calls.symm]
  · rw [calls, resolveAt_eq_resolveCall]
    exact resolveCall_of_limit (by omega)

/-! ### Children -/

/-- The child of a settled id is settled. -/
theorem Sound.child_settled {registry : Registry} (sound : Sound setting registry)
    {id child : TypeId} {entry : TypeEntry} (settled : registry.types.find? id = some entry)
    (refers : Refers setting registry.overrides id child) :
    ∃ childEntry, registry.types.find? child = some childEntry := by
  obtain ⟨plain, descriptor, role, known, rests, found⟩ := refers
  obtain ⟨childEntry, _, settledChild, -⟩ := sound.settled_overChild settled known plain rests found
  exact ⟨childEntry, settledChild⟩

/-- Everything that a settled id leads to is settled. -/
theorem Sound.descendant_settled {registry : Registry} (sound : Sound setting registry)
    {id last : TypeId} {entry : TypeEntry} (settled : registry.types.find? id = some entry)
    (leads : ReflTransGen (Refers setting registry.overrides) id last) :
    ∃ lastEntry, registry.types.find? last = some lastEntry := by
  induction leads with
  | refl => exact ⟨entry, settled⟩
  | tail _ refers ih =>
    obtain ⟨_, settledBefore⟩ := ih
    exact sound.child_settled settledBefore refers

/-- References lead from an id, through ids without override, into a cycle or out of the catalog. -/
def LeadsNowhere (setting : Setting) (overrides : SortedMap TypeId Override) (id : TypeId) : Prop :=
  ∃ last, ReflTransGen (Refers setting overrides) id last ∧
    (TransGen (Refers setting overrides) last last ∨ setting.catalog.find? last = none)

/-- An id that leads nowhere is not settled. -/
theorem Sound.unsettled {registry : Registry} (sound : Sound setting registry) {id : TypeId}
    (nowhere : LeadsNowhere setting registry.overrides id) : registry.types.find? id = none := by
  cases settled : registry.types.find? id with
  | none => rfl
  | some entry =>
    obtain ⟨last, leads, ends⟩ := nowhere
    obtain ⟨lastEntry, settledLast⟩ := sound.descendant_settled settled leads
    rcases ends with cycle | unknown
    · exact absurd cycle (sound.grounded settledLast).not_cyclic
    · obtain ⟨descriptor, known, -⟩ := sound.built settledLast
      cases unknown.symm.trans known

/-- Asking for an id that leads nowhere is an error. -/
theorem Sound.entry_fails {registry : Registry} (sound : Sound setting registry) {id : TypeId}
    (nowhere : LeadsNowhere setting registry.overrides id) :
    ∃ error, (Resolve.runOn (Resolve.entry setting id) registry).1 = .error error := by
  have settles := runOn_entry_settles sound id
  cases outcome : (Resolve.runOn (Resolve.entry setting id) registry).1 with
  | error error => exact ⟨error, rfl⟩
  | ok made =>
    have settled := settles.returned outcome
    rw [← settles.overrides] at nowhere
    cases (settles.sound.unsettled nowhere).symm.trans settled

/-- **Resolution ends and is closed under children.** One function alone calls itself as
`resolveCall` does, and it is how an id is asked for. A call at the limit makes no call, so calls
nested deeper do not matter. Whatever was asked for before, the child of a settled id is settled,
and an id whose references lead nowhere is not settled and cannot be. -/
theorem resolution_closed (setting : Setting) :
    (∃ call, (∀ other, other = resolveCall setting other ↔ other = call) ∧
      (∀ id, Resolve.entry setting id = call 0 id none) ∧
      (∀ first second, resolveCall setting first setting.config.depthLimit =
        resolveCall setting second setting.config.depthLimit) ∧
      ∀ bottom, (resolveCall setting)^[setting.config.depthLimit + 1] bottom 0 = call 0) ∧
    ∀ registry, Reachable setting registry →
      (∀ id child entry, registry.types.find? id = some entry →
        Refers setting registry.overrides id child →
        ∃ childEntry, registry.types.find? child = some childEntry) ∧
      ∀ id, LeadsNowhere setting registry.overrides id → registry.types.find? id = none ∧
        ∃ error, (Resolve.runOn (Resolve.entry setting id) registry).1 = .error error := by
  refine ⟨⟨fun level => Resolve.resolveAt setting (setting.config.depthLimit - level),
    fun other => ⟨fun calls => ?_, fun same => ?_⟩, fun id => rfl, fun first second => ?_,
    fun bottom => ?_⟩, fun registry reachable => ⟨?_, ?_⟩⟩
  · exact eq_resolveAt_of_resolveCall calls
  · funext level
    rw [same]
    exact resolveAt_eq_resolveCall level
  · exact resolveCall_of_limit (Nat.le_refl _)
  · exact iterate_resolveCall bottom _ (Nat.zero_le _) (by omega)
  · intro id child entry settled refers
    exact reachable.sound.child_settled settled refers
  · intro id nowhere
    exact ⟨reachable.sound.unsettled nowhere, reachable.sound.entry_fails nowhere⟩

theorem resolution_closed_sample :
    (Reachable sampleSetting sampleRegistry ∧ sampleRegistry.types.find? 102 ≠ none ∧
      Refers sampleSetting sampleRegistry.overrides 102 100 ∧
      LeadsNowhere sampleSetting sampleRegistry.overrides 103) ∧
    (∃ childEntry, sampleRegistry.types.find? 100 = some childEntry) ∧
      sampleRegistry.types.find? 103 = none ∧
      ∃ error, (Resolve.runOn (Resolve.entry sampleSetting 103) sampleRegistry).1 =
        .error error := by
  have resolved : (sampleRegistry.types.find? 102).isSome := by decide +kernel
  obtain ⟨entry, found⟩ := Option.isSome_iff_exists.1 resolved
  have child : Refers sampleSetting sampleRegistry.overrides 102 100 :=
    ⟨by decide +kernel, _, .rangeSubtype, rfl, rfl, rfl⟩
  have list : Refers sampleSetting sampleRegistry.overrides 103 104 :=
    ⟨by decide +kernel, _, .arrayItem, rfl, rfl, rfl⟩
  have domain : Refers sampleSetting sampleRegistry.overrides 104 103 :=
    ⟨by decide +kernel, _, .domainBase, rfl, rfl, rfl⟩
  have nowhere : LeadsNowhere sampleSetting sampleRegistry.overrides 103 :=
    ⟨103, .refl, .inl (.head list (.single domain))⟩
  obtain ⟨-, closed⟩ := resolution_closed sampleSetting
  obtain ⟨children, unsettled⟩ := closed sampleRegistry sampleRegistry_reachable
  refine ⟨⟨sampleRegistry_reachable, ?_, child, nowhere⟩, children 102 100 entry found child,
    unsettled 103 nowhere⟩
  rw [found]
  exact Option.some_ne_none entry

end CatalogSchema
