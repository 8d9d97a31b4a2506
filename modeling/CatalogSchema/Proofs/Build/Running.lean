/-
**Running a step of a build.**

`Build.runIn` is the outcome of a step and the workspace that it leaves, and `Build.Yields` says
that a step succeeds, `Build.Fails` that it fails. The lemmas below say it for every way in which
steps are put together.

* `yields_bind_iff`: two steps in a row succeed exactly if both do.
* `Asks`: a step that, when it succeeds, has only put requests to the registry.
* `yields_mapM`: what a loop has done for its items stays done.
-/

import CatalogSchema.Build.Schema
import CatalogSchema.Proofs.Resolution.Identity

namespace CatalogSchema

namespace Build

/-! ### Steps that succeed -/

section Steps

variable {ε ε' α β : Type}

/-- The outcome of a step, and the workspace after it. -/
def runIn (step : ExceptT ε (StateM Workspace) α) (workspace : Workspace) :
    Except ε α × Workspace :=
  Id.run (step.run.run workspace)

/-- A step succeeds in a workspace with a result and leaves another workspace. -/
def Yields (step : ExceptT ε (StateM Workspace) α) (before : Workspace) (result : α)
    (after : Workspace) : Prop :=
  runIn step before = (.ok result, after)

variable {before after : Workspace} {result : α}

theorem yields_pure_iff {value : α} :
    Yields (pure value : ExceptT ε (StateM Workspace) α) before result after ↔
      value = result ∧ before = after := by
  unfold Yields
  show (Except.ok value, before) = (Except.ok result, after) ↔ _
  rw [Prod.mk.injEq, Except.ok.injEq]

theorem not_yields_throw {error : ε} :
    ¬Yields (throw error : ExceptT ε (StateM Workspace) α) before result after := nofun

theorem yields_bind_iff {step : ExceptT ε (StateM Workspace) α}
    {next : α → ExceptT ε (StateM Workspace) β} {result : β} :
    Yields (step >>= next) before result after ↔
      ∃ value between, Yields step before value between ∧
        Yields (next value) between result after := by
  unfold Yields runIn
  rw [ExceptT.run_bind, StateT.run_bind]
  generalize step.run.run before = ran
  rcases ran with ⟨error | value, between⟩
  · refine ⟨nofun, ?_⟩
    rintro ⟨_, _, ran, -⟩
    cases ran
  · refine ⟨fun ran => ⟨value, between, rfl, ran⟩, ?_⟩
    rintro ⟨_, _, ran, later⟩
    cases ran
    exact later

/-- Wording an error differently changes no success. -/
theorem yields_adapt_iff {change : ε → ε'} {step : ExceptT ε (StateM Workspace) α} :
    Yields (ExceptT.adapt change step) before result after ↔ Yields step before result after := by
  unfold Yields runIn
  show Id.run ((Except.mapError change <$> step.run).run before) = _ ↔ _
  rw [StateT.run_map]
  generalize step.run.run before = ran
  rcases ran with ⟨error | value, between⟩
  · exact ⟨nofun, nofun⟩
  · show (Except.ok value, between) = (Except.ok result, after) ↔
      (Except.ok value, between) = (Except.ok result, after)
    simp only [Prod.mk.injEq, Except.ok.injEq]

theorem yields_mk_pure_iff {outcome : Except ε α} :
    Yields (ExceptT.mk (pure outcome)) before result after ↔
      outcome = .ok result ∧ before = after := by
  unfold Yields
  show (outcome, before) = (Except.ok result, after) ↔ _
  rw [Prod.mk.injEq]

theorem yields_get_iff {result : Workspace} :
    Yields (get : ExceptT ε (StateM Workspace) Workspace) before result after ↔
      before = result ∧ before = after := by
  unfold Yields
  show (Except.ok before, before) = (Except.ok result, after) ↔ _
  rw [Prod.mk.injEq, Except.ok.injEq]

theorem yields_modify_iff {change : Workspace → Workspace} {result : PUnit} :
    Yields (modify change : ExceptT ε (StateM Workspace) PUnit) before result after ↔
      change before = after := by
  unfold Yields
  show (Except.ok PUnit.unit, change before) = (Except.ok result, after) ↔ _
  simp

/-- A step fails in a workspace. -/
def Fails (step : ExceptT ε (StateM Workspace) α) (before : Workspace) : Prop :=
  ∃ error, (runIn step before).1 = .error error

theorem fails_or_yields (step : ExceptT ε (StateM Workspace) α) (before : Workspace) :
    Fails step before ∨ ∃ result after, Yields step before result after := by
  unfold Fails Yields
  generalize runIn step before = ran
  rcases ran with ⟨error | result, after⟩
  · exact .inl ⟨error, rfl⟩
  · exact .inr ⟨result, after, rfl⟩

/-- Two steps in a row fail if the first one does. -/
theorem Fails.bind {step : ExceptT ε (StateM Workspace) α} (fails : Fails step before)
    (next : α → ExceptT ε (StateM Workspace) β) : Fails (step >>= next) before := by
  obtain ⟨error, failed⟩ := fails
  refine ⟨error, ?_⟩
  unfold runIn at failed ⊢
  rw [ExceptT.run_bind, StateT.run_bind]
  generalize step.run.run before = ran at failed
  obtain ⟨_, after⟩ := ran
  cases failed
  rfl

/-- After a step that succeeds, the next one decides. -/
theorem Yields.runIn_bind {step : ExceptT ε (StateM Workspace) α}
    (ran : Yields step before result after) (next : α → ExceptT ε (StateM Workspace) β) :
    runIn (step >>= next) before = runIn (next result) after := by
  unfold Yields runIn at ran
  unfold runIn
  rw [ExceptT.run_bind, StateT.run_bind]
  generalize step.run.run before = ended at ran
  cases ran
  rfl

end Steps

/-! ### Steps of a build -/

section Parts

variable {α : Type} {before after : Workspace} {result : α}

theorem yields_ofExcept_iff {outcome : Except BuildError α} :
    Yields (ofExcept outcome) before result after ↔ outcome = .ok result ∧ before = after :=
  yields_mk_pure_iff

theorem yields_ofPipeline_iff {outcome : Except PipelineError α} :
    Yields (ofPipeline outcome) before result after ↔ outcome = .ok result ∧ before = after := by
  unfold ofPipeline
  rw [yields_adapt_iff, yields_mk_pure_iff]

theorem yields_ofPhase_iff {step : PhaseStep α} :
    Yields (ofPhase step) before result after ↔ Yields step before result after := yields_adapt_iff

theorem yields_inHook_iff {step : Build α} :
    Yields step.inHook before result after ↔ Yields step before result after := yields_adapt_iff

theorem yields_phaseInHook_iff {step : PhaseStep α} :
    Yields step.inHook before result after ↔ Yields step before result after := yields_adapt_iff

/-- A step of resolution changes the registry alone. -/
theorem yields_ofResolve_iff {step : Resolve α} :
    Yields (ofResolve step) before result after ↔
      ∃ registry, Resolve.runOn step before.registry = (.ok result, registry) ∧
        after = { before with registry } := by
  unfold Yields
  show ((Resolve.runOn step before.registry).1,
    { before with registry := (Resolve.runOn step before.registry).2 }) = _ ↔ _
  rcases Resolve.runOn step before.registry with ⟨outcome, registry⟩
  rw [Prod.mk.injEq]
  constructor
  · rintro ⟨rfl, rfl⟩
    exact ⟨registry, rfl, rfl⟩
  · rintro ⟨_, ran, rfl⟩
    cases ran
    exact ⟨rfl, rfl⟩

/-- What resolving an id leaves: the id is settled. -/
theorem yields_entry {setting : Setting} {id : TypeId} {entry : TypeEntry}
    (sound : Sound setting before.registry)
    (ran : Yields (ofResolve (Resolve.entry setting id)) before entry after) :
    after.registry.types.find? id = some entry ∧
      Run setting Request.Resolving before.registry after.registry := by
  obtain ⟨registry, answered, rfl⟩ := yields_ofResolve_iff.1 ran
  have resolving : Request.Resolving (.entry id) := trivial
  exact ⟨find?_of_runOn_entry sound answered,
    Run.start.asked resolving (congrArg Prod.snd answered)⟩

theorem yields_make_iff {build : TypePool → SchemaType × TypePool} {result : SchemaType} :
    Yields (make build) before result after ↔
      (build before.registry.pool).1 = result ∧
        after = { before with registry :=
          { before.registry with pool := (build before.registry.pool).2 } } := by
  unfold make
  rw [yields_ofResolve_iff, Resolve.runOn_make]
  constructor
  · rintro ⟨_, ran, rfl⟩
    cases ran
    exact ⟨rfl, rfl⟩
  · rintro ⟨rfl, rfl⟩
    exact ⟨_, rfl, rfl⟩

theorem yields_updatePool_iff {change : TypePool → Except BuildError TypePool} {result : Unit} :
    Yields (updatePool change) before result after ↔
      ∃ pool, change before.registry.pool = .ok pool ∧
        after = { before with registry := { before.registry with pool } } := by
  unfold updatePool
  simp only [yields_bind_iff, yields_get_iff, yields_ofExcept_iff, yields_modify_iff]
  constructor
  · rintro ⟨_, _, ⟨rfl, rfl⟩, pool, _, ⟨changed, rfl⟩, rfl⟩
    exact ⟨pool, changed, rfl⟩
  · rintro ⟨pool, changed, rfl⟩
    exact ⟨before, before, ⟨rfl, rfl⟩, pool, before, ⟨changed, rfl⟩, rfl⟩

theorem yields_makeTable_iff {aliases : NodeAliases} {table : AliasTable} :
    Yields (makeTable aliases) before table after ↔
      before.tables.length = table ∧
        after = { before with tables := before.tables ++ [aliases] } := by
  unfold Yields
  show (Except.ok before.tables.length,
    { before with tables := before.tables ++ [aliases] }) = _ ↔ _
  rw [Prod.mk.injEq, Except.ok.injEq]
  exact and_congr_right fun _ => eq_comm

end Parts

/-! ### Steps that only ask -/

section Asking

variable {setting : Setting} {allowed : Request → Prop} {ε ε' α β : Type}

/-- A step that, when it succeeds, has put only requests of an allowed sort to the registry. -/
def Asks (setting : Setting) (allowed : Request → Prop)
    (step : ExceptT ε (StateM Workspace) α) : Prop :=
  ∀ ⦃before result after⦄, Yields step before result after →
    Run setting allowed before.registry after.registry

theorem asks_pure (value : α) :
    Asks setting allowed (pure value : ExceptT ε (StateM Workspace) α) := by
  intro before result after ran
  obtain ⟨-, rfl⟩ := yields_pure_iff.1 ran
  exact .start

theorem Asks.bind {step : ExceptT ε (StateM Workspace) α}
    {next : α → ExceptT ε (StateM Workspace) β} (first : Asks setting allowed step)
    (second : ∀ ⦃before value after⦄,
      Yields step before value after → Asks setting allowed (next value)) :
    Asks setting allowed (step >>= next) := by
  intro before result after ran
  obtain ⟨value, between, ranFirst, ranNext⟩ := yields_bind_iff.1 ran
  exact (first ranFirst).trans (second ranFirst ranNext)

theorem asks_ofResolve {step : Resolve α}
    (asks : ∀ registry, Run setting allowed registry (Resolve.runOn step registry).2) :
    Asks setting allowed (ofResolve step) := by
  intro before result after ran
  obtain ⟨registry, answered, rfl⟩ := yields_ofResolve_iff.1 ran
  have left := asks before.registry
  rwa [answered] at left

theorem asks_make {build : TypePool → SchemaType × TypePool}
    (grows : ∀ pool : TypePool, pool.Grows (build pool).2) : Asks setting allowed (make build) :=
  asks_ofResolve fun registry => .make .start (grows registry.pool)

/-! ### Loops -/

/-- A loop without results succeeds as one that collects them. -/
theorem exists_yields_mapM_of_forM {step : α → ExceptT ε (StateM Workspace) PUnit} {items : List α}
    {before after : Workspace} {result : PUnit}
    (ran : Yields (items.forM step) before result after) :
    ∃ results, Yields (items.mapM step) before results after := by
  induction items generalizing before with
  | nil =>
    obtain ⟨-, rfl⟩ := yields_pure_iff.1 ran
    exact ⟨[], yields_pure_iff.2 ⟨rfl, rfl⟩⟩
  | cons item rest ih =>
    obtain ⟨first, between, ranItem, ranRest⟩ := yields_bind_iff.1 ran
    obtain ⟨results, collected⟩ := ih ranRest
    refine ⟨first :: results, ?_⟩
    simp only [List.mapM_cons, yields_bind_iff, yields_pure_iff]
    exact ⟨first, between, ranItem, results, after, collected, rfl, rfl⟩

theorem Asks.forM {step : α → ExceptT ε (StateM Workspace) PUnit} {items : List α}
    (each : ∀ item ∈ items, Asks setting allowed (step item)) :
    Asks setting allowed (items.forM step) := by
  induction items with
  | nil => exact asks_pure PUnit.unit
  | cons item rest ih =>
    refine Asks.bind (each item (List.mem_cons_self ..)) fun _ _ _ _ => ?_
    exact ih fun other listed => each other (List.mem_cons_of_mem _ listed)

/-- **A loop** over steps that only ask does only ask, and what a step has done for its item stays
done. -/
theorem yields_mapM {step : α → ExceptT ε (StateM Workspace) β} {items : List α}
    {Done : Registry → α → Prop}
    (stays : ∀ ⦃item earlier later⦄, earlier.Grows later → Done earlier item → Done later item)
    {before after : Workspace} (sound : Sound setting before.registry)
    (does : ∀ item ∈ items, ∀ ⦃between result later⦄, Sound setting between.registry →
      before.registry.Grows between.registry → Yields (step item) between result later →
      Run setting allowed between.registry later.registry ∧ Done later.registry item)
    {results : List β} (ran : Yields (items.mapM step) before results after) :
    Run setting allowed before.registry after.registry ∧
      ∀ item ∈ items, Done after.registry item := by
  induction items generalizing before results with
  | nil =>
    rw [List.mapM_nil, yields_pure_iff] at ran
    obtain ⟨-, rfl⟩ := ran
    exact ⟨.start, nofun⟩
  | cons item rest ih =>
    simp only [List.mapM_cons, yields_bind_iff, yields_pure_iff] at ran
    obtain ⟨_, between, ranItem, _, _, ranRest, -, rfl⟩ := ran
    obtain ⟨run, done⟩ := does item (List.mem_cons_self ..) sound (.refl _) ranItem
    have soundBetween := run.sound sound
    have early := run.grows sound
    obtain ⟨runRest, doneRest⟩ :=
      ih soundBetween (fun other listed _ _ _ soundLater grows ranOther =>
      does other (List.mem_cons_of_mem _ listed) soundLater (early.trans grows) ranOther) ranRest
    refine ⟨run.trans runRest, fun other listed => ?_⟩
    rcases List.mem_cons.1 listed with rfl | listed
    · exact stays (runRest.grows soundBetween) done
    · exact doneRest other listed

end Asking

end Build

end CatalogSchema
