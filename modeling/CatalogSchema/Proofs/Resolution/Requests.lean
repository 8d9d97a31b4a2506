/-
**Sequences of requests.**

A `Run` is any sequence of requests to a registry, each of which may fail. Between requests callers
make types of their own in the pool.

* `Request.after_settles`: one request keeps a registry sound, and what is settled stays.
* `Run.sound`, `Run.grows`: so does every sequence of requests.
* `Reachable.sound`: every registry that requests lead to from the empty one is sound.
-/

import CatalogSchema.Proofs.Resolution.Soundness

namespace CatalogSchema

open Resolve

/-! ### Requests -/

/-- What callers ask of a registry. -/
inductive Request where
  | registerOverride (id : TypeId) (mapping : Override) (rule : ConflictRule)
  | entry (id : TypeId)
  | output (id : TypeId)
  | input (id : TypeId)
  | setOutput (id : TypeId)

/-- The registry that a request leaves, whether or not it succeeds. -/
def Request.after (setting : Setting) (registry : Registry) : Request → Registry
  | .registerOverride id mapping rule =>
    (runOn (Resolve.registerOverride setting id mapping rule) registry).2
  | .entry id => (runOn (Resolve.entry setting id) registry).2
  | .output id => (runOn (Resolve.output setting id) registry).2
  | .input id => (runOn (Resolve.input setting id) registry).2
  | .setOutput id => (runOn (Resolve.setOutput setting id) registry).2

/-- The registry that a list of requests leaves. -/
def Request.afterAll (setting : Setting) (start : Registry) (requests : List Request) : Registry :=
  requests.foldl (fun registry request => request.after setting registry) start

/-- Requests for types, which register no overrides. -/
def Request.Resolving : Request → Prop
  | .registerOverride _ _ _ => False
  | _ => True

/-- A sequence of requests of an allowed sort, from one registry to another. -/
inductive Run (setting : Setting) (allowed : Request → Prop) (start : Registry) : Registry → Prop
  | start : Run setting allowed start start
  | request {registry : Registry} (run : Run setting allowed start registry) (request : Request)
      (permitted : allowed request) : Run setting allowed start (request.after setting registry)
  /-- Callers make types of their own. -/
  | make {registry : Registry} (run : Run setting allowed start registry) {pool : TypePool}
      (grows : registry.pool.Grows pool) : Run setting allowed start { registry with pool }

/-- A registry to which some sequence of requests leads from the empty one. -/
def Reachable (setting : Setting) : Registry → Prop := Run setting (fun _ => True) .initial

variable {setting : Setting}

/-! ### What each request answers and leaves -/

theorem runOn_entry_settles {registry : Registry} (sound : Sound setting registry) (id : TypeId) :
    Settles setting registry id (runOn (Resolve.entry setting id) registry).1
      (runOn (Resolve.entry setting id) registry).2 :=
  (resolveAt_resolves sound.described setting.config.depthLimit id none).settles sound

/-- The output type is that of the entry. -/
theorem runOn_output (setting : Setting) (id : TypeId) (registry : Registry) :
    runOn (Resolve.output setting id) registry =
      ((runOn (Resolve.entry setting id) registry).1.map (·.output),
        (runOn (Resolve.entry setting id) registry).2) := by
  unfold Resolve.output
  rw [runOn_bind]
  rcases runOn (Resolve.entry setting id) registry with ⟨(_ | _), after⟩ <;> rfl

/-- The input type is that of the entry. -/
theorem runOn_input (setting : Setting) (id : TypeId) (registry : Registry) :
    runOn (Resolve.input setting id) registry =
      ((runOn (Resolve.entry setting id) registry).1.map (·.input),
        (runOn (Resolve.entry setting id) registry).2) := by
  unfold Resolve.input
  rw [runOn_bind]
  rcases runOn (Resolve.entry setting id) registry with ⟨(_ | _), after⟩ <;> rfl

/-- A set type that is there is returned. -/
theorem runOn_setOutput_of_found {registry : Registry} {id : TypeId} {type : SchemaType}
    (found : registry.sets.find? id = some type) :
    runOn (Resolve.setOutput setting id) registry = (.ok type, registry) := by
  unfold Resolve.setOutput
  rw [runOn_bind, runOn_get]
  simp only [found]
  rfl

/-- A set type that is not there yet is a list over the output type, filed once that is resolved. -/
theorem runOn_setOutput_of_ok {registry resolved : Registry} {id : TypeId}
    (free : registry.sets.find? id = none) {entry : TypeEntry}
    (ran : runOn (Resolve.entry setting id) registry = (.ok entry, resolved)) :
    ∃ type pool, resolved.pool.Grows pool ∧ runOn (Resolve.setOutput setting id) registry =
      (.ok type, { resolved with pool, sets := resolved.sets.insert id type }) := by
  have item : runOn (Resolve.output setting id) registry = (.ok entry.output, resolved) := by
    rw [runOn_output, ran]
    rfl
  unfold Resolve.setOutput
  rw [runOn_bind, runOn_get]
  simp only [free]
  rw [runOn_bind_ok item]
  by_cases nonNull : setting.config.forbidNullInSets = true
  · rw [if_pos nonNull]
    let item := resolved.pool.nonNull entry.output
    exact ⟨_, _, (resolved.pool.grows_nonNull entry.output).trans (item.2.grows_list item.1), rfl⟩
  · rw [if_neg nonNull]
    exact ⟨_, _, resolved.pool.grows_list entry.output, rfl⟩

theorem runOn_setOutput_of_error {registry resolved : Registry} {id : TypeId}
    (free : registry.sets.find? id = none) {error : BuildError}
    (ran : runOn (Resolve.entry setting id) registry = (.error error, resolved)) :
    runOn (Resolve.setOutput setting id) registry = (.error error, resolved) := by
  unfold Resolve.setOutput
  rw [runOn_bind, runOn_get]
  simp only [free]
  rw [runOn_bind, runOn_output, ran]
  rfl

theorem runOn_registerOverride_of_settled {registry : Registry} {id : TypeId} {entry : TypeEntry}
    (settled : registry.types.find? id = some entry) (mapping : Override) (rule : ConflictRule) :
    runOn (Resolve.registerOverride setting id mapping rule) registry =
      (.error (.configuration (.lateOverride (displayName setting id))), registry) := by
  unfold Resolve.registerOverride
  rw [runOn_bind, runOn_get]
  dsimp only
  rw [if_pos (by simp [SortedMap.contains, settled])]
  rfl

theorem runOn_registerOverride_of_overridden {registry : Registry} {id : TypeId}
    (free : registry.types.find? id = none) {other : Override}
    (found : registry.overrides.find? id = some other) (mapping : Override) (rule : ConflictRule) :
    runOn (Resolve.registerOverride setting id mapping rule) registry =
      (match rule with
        | .fail => .error (.duplicateOverride (displayName setting id))
        | .yield => .ok false, registry) := by
  unfold Resolve.registerOverride
  rw [runOn_bind, runOn_get]
  dsimp only
  rw [if_neg (by simp [SortedMap.contains, free]), if_pos (by simp [SortedMap.contains, found])]
  cases rule <;> rfl

theorem runOn_registerOverride_of_free {registry : Registry} {id : TypeId}
    (free : registry.types.find? id = none) (plain : registry.overrides.find? id = none)
    (mapping : Override) (rule : ConflictRule) :
    runOn (Resolve.registerOverride setting id mapping rule) registry =
      (.ok true, { registry with overrides := registry.overrides.insert id mapping }) := by
  unfold Resolve.registerOverride
  rw [runOn_bind, runOn_get]
  dsimp only
  rw [if_neg (by simp [SortedMap.contains, free]), if_neg (by simp [SortedMap.contains, plain])]
  rfl

/-- An override that may not be dropped is taken, or it is an error. -/
theorem runOn_registerOverride_fail {registry after : Registry} {id : TypeId} {mapping : Override}
    {taken : Bool}
    (ran : runOn (Resolve.registerOverride setting id mapping .fail) registry =
      (.ok taken, after)) :
    after = { registry with overrides := registry.overrides.insert id mapping } := by
  cases settled : registry.types.find? id with
  | some entry =>
    rw [runOn_registerOverride_of_settled settled] at ran
    cases ran
  | none =>
    cases known : registry.overrides.find? id with
    | some other =>
      rw [runOn_registerOverride_of_overridden settled known] at ran
      cases ran
    | none =>
      rw [runOn_registerOverride_of_free settled known] at ran
      cases ran
      rfl

/-- An override is registered only for an id that has none and is not settled. -/
theorem after_registerOverride (setting : Setting) (registry : Registry) (id : TypeId)
    (mapping : Override) (rule : ConflictRule) :
    (Request.registerOverride id mapping rule).after setting registry = registry ∨
      registry.types.find? id = none ∧ registry.overrides.find? id = none ∧
        (Request.registerOverride id mapping rule).after setting registry =
          { registry with overrides := registry.overrides.insert id mapping } := by
  cases settled : registry.types.find? id with
  | some entry =>
    exact .inl (congrArg Prod.snd (runOn_registerOverride_of_settled settled mapping rule))
  | none =>
    cases known : registry.overrides.find? id with
    | some other =>
      exact .inl (congrArg Prod.snd
        (runOn_registerOverride_of_overridden settled known mapping rule))
    | none =>
      exact .inr ⟨rfl, rfl,
        congrArg Prod.snd (runOn_registerOverride_of_free settled known mapping rule)⟩

/-- A new override changes nothing about ids that are settled or have one. -/
theorem Registry.grows_registerOverride {registry : Registry} {id : TypeId}
    (free : registry.types.find? id = none) (plain : registry.overrides.find? id = none)
    (mapping : Override) :
    registry.Grows { registry with overrides := registry.overrides.insert id mapping } where
  pool := .refl _
  types_kept found := found
  codecs_kept _ := rfl
  overrides_kept found := SortedMap.find?_insert_of_some plain found
  plain_kept {other entry} found := by
    have different : other ≠ id := by
      rintro rfl
      cases free.symm.trans found
    exact SortedMap.find?_insert_of_ne _ different _
  shapes_kept found := found
  sets_kept found := found

/-- A new set type changes nothing else. -/
theorem Registry.grows_set {registry : Registry} {id : TypeId}
    (free : registry.sets.find? id = none) (type : SchemaType) {pool : TypePool}
    (grows : registry.pool.Grows pool) :
    registry.Grows { registry with pool, sets := registry.sets.insert id type } where
  pool := grows
  types_kept found := found
  codecs_kept _ := rfl
  overrides_kept found := found
  plain_kept _ := rfl
  shapes_kept found := found
  sets_kept found := SortedMap.find?_insert_of_some free found

/-- A request for types keeps a registry sound, what is settled stays, and the overrides are left
alone. -/
theorem Request.after_of_resolving {registry : Registry} (sound : Sound setting registry)
    {request : Request} (resolving : request.Resolving) :
    Sound setting (request.after setting registry) ∧
      registry.Grows (request.after setting registry) ∧
      (request.after setting registry).overrides = registry.overrides := by
  cases request with
  | registerOverride id mapping rule => exact resolving.elim
  | entry id =>
    have settles := runOn_entry_settles sound id
    exact ⟨settles.sound, settles.grows, settles.overrides⟩
  | output id =>
    dsimp only [Request.after]
    rw [runOn_output]
    have settles := runOn_entry_settles sound id
    exact ⟨settles.sound, settles.grows, settles.overrides⟩
  | input id =>
    dsimp only [Request.after]
    rw [runOn_input]
    have settles := runOn_entry_settles sound id
    exact ⟨settles.sound, settles.grows, settles.overrides⟩
  | setOutput id =>
    dsimp only [Request.after]
    cases found : registry.sets.find? id with
    | some type =>
      rw [runOn_setOutput_of_found found]
      exact ⟨sound, .refl registry, rfl⟩
    | none =>
      have settles := runOn_entry_settles sound id
      rcases ran : runOn (Resolve.entry setting id) registry with ⟨error | entry, resolved⟩
      · rw [ran] at settles
        rw [runOn_setOutput_of_error found ran]
        exact ⟨settles.sound, settles.grows, settles.overrides⟩
      · rw [ran] at settles
        obtain ⟨type, pool, grows, filed⟩ := runOn_setOutput_of_ok found ran
        have free : resolved.sets.find? id = none := by rw [settles.sets, found]
        have late := Registry.grows_set free type grows
        rw [filed]
        exact ⟨settles.sound.of_grows late rfl rfl rfl, settles.grows.trans late, settles.overrides⟩

/-- **One request** keeps a registry sound, and what is settled stays. -/
theorem Request.after_settles {registry : Registry} (sound : Sound setting registry)
    (request : Request) :
    Sound setting (request.after setting registry) ∧
      registry.Grows (request.after setting registry) := by
  have types (resolving : request.Resolving) : Sound setting (request.after setting registry) ∧
      registry.Grows (request.after setting registry) := by
    obtain ⟨soundAfter, grows, -⟩ := Request.after_of_resolving sound resolving
    exact ⟨soundAfter, grows⟩
  cases request with
  | registerOverride id mapping rule =>
    rcases after_registerOverride setting registry id mapping rule with
      same | ⟨free, plain, changed⟩
    · rw [same]
      exact ⟨sound, .refl registry⟩
    · rw [changed]
      have grows := Registry.grows_registerOverride free plain mapping
      exact ⟨sound.of_grows grows rfl rfl rfl, grows⟩
  | entry | output | input | setOutput => exact types trivial

/-! ### Sequences of requests -/

theorem Run.sound_grows {allowed : Request → Prop} {start registry : Registry}
    (run : Run setting allowed start registry) (sound : Sound setting start) :
    Sound setting registry ∧ start.Grows registry := by
  induction run with
  | start => exact ⟨sound, .refl start⟩
  | request _ request _ ih =>
    obtain ⟨soundAfter, late⟩ := request.after_settles ih.1
    exact ⟨soundAfter, ih.2.trans late⟩
  | make _ grows ih =>
    have late := (Registry.SameEntries.ofPool grows).grows
    exact ⟨ih.1.of_grows late rfl rfl rfl, ih.2.trans late⟩

theorem Run.sound {allowed : Request → Prop} {start registry : Registry}
    (run : Run setting allowed start registry) (sound : Sound setting start) :
    Sound setting registry :=
  (run.sound_grows sound).1

theorem Run.grows {allowed : Request → Prop} {start registry : Registry}
    (run : Run setting allowed start registry) (sound : Sound setting start) :
    start.Grows registry :=
  (run.sound_grows sound).2

theorem Run.overrides {start registry : Registry}
    (run : Run setting Request.Resolving start registry) (sound : Sound setting start) :
    registry.overrides = start.overrides := by
  induction run with
  | start => rfl
  | request run request resolving ih =>
    obtain ⟨-, -, same⟩ := Request.after_of_resolving (run.sound sound) resolving
    exact same.trans ih
  | make _ _ ih => exact ih

theorem Run.asked {allowed : Request → Prop} {start registry after : Registry}
    (run : Run setting allowed start registry) {request : Request} (permitted : allowed request)
    (left : request.after setting registry = after) : Run setting allowed start after :=
  left ▸ run.request request permitted

/-- Making types is no request. -/
theorem Run.makes {allowed : Request → Prop} {start registry after : Registry}
    (run : Run setting allowed start registry) (makes : registry.OnlyMakes after) :
    Run setting allowed start after := by
  obtain ⟨pool, grows, rfl⟩ := makes
  exact run.make grows

theorem Run.trans {allowed : Request → Prop} {start between registry : Registry}
    (early : Run setting allowed start between) (late : Run setting allowed between registry) :
    Run setting allowed start registry := by
  induction late with
  | start => exact early
  | request _ request permitted ih => exact ih.request request permitted
  | make _ grows ih => exact ih.make grows

theorem Run.mono {allowed wider : Request → Prop} {start registry : Registry}
    (permits : ∀ request, allowed request → wider request)
    (run : Run setting allowed start registry) :
    Run setting wider start registry := by
  induction run with
  | start => exact .start
  | request _ request permitted ih => exact ih.request request (permits request permitted)
  | make _ grows ih => exact ih.make grows

theorem Run.append {allowed : Request → Prop} {start registry : Registry}
    (run : Run setting allowed start registry) {requests : List Request}
    (permitted : ∀ request ∈ requests, allowed request) :
    Run setting allowed start (Request.afterAll setting registry requests) := by
  induction requests generalizing registry with
  | nil => exact run
  | cons request requests ih =>
    have first := run.request request (permitted request (List.mem_cons_self ..))
    exact ih first fun later found => permitted later (List.mem_cons_of_mem _ found)

/-- A list of requests to the empty registry. -/
theorem Reachable.afterAll (requests : List Request) :
    Reachable setting (Request.afterAll setting .initial requests) :=
  Run.append .start fun _ _ => trivial

/-- **Every reachable registry is sound.** -/
theorem Reachable.sound {registry : Registry} (reachable : Reachable setting registry) :
    Sound setting registry :=
  Run.sound reachable .initial

/-! ### A sample -/

/-- A number type, a domain over it, a list and a range over the domain; a list and a domain that
lead to each other, and a range over a type that is not there. -/
def sampleSetting : Setting where
  catalog := ⟨.ofList [
    (23, .plain 23 "pg_catalog" "int4" .base Category.numeric),
    (100, { Descriptor.plain 100 "app" "score" .domain Category.numeric with
      domainBase := some 23 }),
    (101, { Descriptor.plain 101 "app" "_score" .array Category.array with arrayItem := some 100 }),
    (102, { Descriptor.plain 102 "app" "scores" .range Category.range with
      rangeSubtype := some 100 }),
    (103, { Descriptor.plain 103 "app" "_loop" .array Category.array with arrayItem := some 104 }),
    (104, { Descriptor.plain 104 "app" "loop" .domain Category.array with domainBase := some 103 }),
    (105, { Descriptor.plain 105 "app" "gaps" .range Category.range with
      rangeSubtype := some 999 })]⟩
  naming := .standard Descriptor.name
  config := .default
  scalars := .make false

/-- Lists over the domain are asked for after an override of the number type and two failed
requests. -/
def sampleRequests : List Request := [
  .registerOverride 23 ⟨sampleSetting.scalars.int, some sampleSetting.scalars.int,
    some ⟨14, .integer (.inCatalog "int4")⟩⟩ .fail,
  .entry 999,
  .entry 103,
  .setOutput 102,
  .entry 101]

/-- The registry that they leave. -/
def sampleRegistry : Registry := Request.afterAll sampleSetting .initial sampleRequests

theorem sampleRegistry_reachable : Reachable sampleSetting sampleRegistry :=
  .afterAll sampleRequests

end CatalogSchema
