/-
**The hooks of an engine.**

* `BuildEngine.hooks`: the hooks of a phase of a build.
* `Proper`: every phase is used with its own types. A proper engine runs exactly the hooks of a
  phase (`runPhase_eq`).
* `yields_runHooks`, `exists_yields_hook`: what every hook keeps, a run keeps; each runs after those
  before it.
* `Gains`: hooks were added at the ends of the phases. Adding one hook is an instance
  (`yields_addHook`), and so are several such steps (`gains_foldlM`).
-/

import CatalogSchema.Proofs.Build.Running

namespace CatalogSchema

open Build

theorem BuildPhase.name_injective : Function.Injective BuildPhase.name := by
  intro first second same
  cases first <;> cases second <;> first | rfl | exact absurd same (by decide)

/-- Hooks for each phase. -/
abbrev AddedHooks := (phase : BuildPhase) → List (Hook BuildPhase.family (StateM Workspace) phase)

/-- A hook alone, in its own phase. -/
def AddedHooks.only (phase : BuildPhase) (hook : Hook BuildPhase.family (StateM Workspace) phase) :
    AddedHooks :=
  fun other => if same : phase = other then [same ▸ hook] else []

@[simp] theorem AddedHooks.only_self {phase : BuildPhase}
    (hook : Hook BuildPhase.family (StateM Workspace) phase) : only phase hook phase = [hook] :=
  dif_pos rfl

theorem AddedHooks.only_of_ne {phase other : BuildPhase} (different : phase ≠ other)
    (hook : Hook BuildPhase.family (StateM Workspace) phase) : only phase hook other = [] :=
  dif_neg different

namespace BuildEngine

/-- The hooks of a phase, in the order they run. -/
def hooks (engine : BuildEngine) (phase : BuildPhase) :
    List (Hook BuildPhase.family (StateM Workspace) phase) :=
  match engine.phases.find? phase.name with
  | none => []
  | some known => if same : known.signature = phase then same ▸ known.hooks else []

/-- Every phase is used with its own types. -/
def Proper (engine : BuildEngine) : Prop :=
  ∀ phase : BuildPhase, ∀ known, engine.phases.find? phase.name = some known →
    known.signature = phase

variable {engine : BuildEngine} {phase : BuildPhase}

theorem proper_empty : Proper HookEngine.empty := nofun

theorem hooks_empty (phase : BuildPhase) : hooks HookEngine.empty phase = [] := rfl

theorem hooks_of_find? {hooks : List (Hook BuildPhase.family (StateM Workspace) phase)}
    (found : engine.phases.find? phase.name = some ⟨phase, hooks⟩) :
    engine.hooks phase = hooks := by
  unfold BuildEngine.hooks
  rw [found]
  exact dif_pos rfl

theorem Proper.find? (proper : engine.Proper) {known : Phase BuildPhase.family (StateM Workspace)}
    (found : engine.phases.find? phase.name = some known) :
    known = ⟨phase, engine.hooks phase⟩ := by
  obtain ⟨signature, hooks⟩ := known
  obtain rfl : signature = phase := proper phase _ found
  rw [hooks_of_find? found]

/-- **A proper engine runs the hooks of a phase.** -/
theorem runPhase_eq (proper : engine.Proper) (initial : phase.Artifact) (context : phase.Context) :
    engine.runPhase phase initial context =
      HookEngine.runHooks phase.name context (engine.hooks phase) initial := by
  unfold runPhase HookEngine.run
  cases found : engine.phases.find? phase.name with
  | none =>
    unfold hooks
    rw [found]
    rfl
  | some known =>
    obtain rfl := proper.find? found
    exact dif_pos rfl

/-- A phase without hooks leaves its value as it is. -/
theorem runPhase_of_no_hooks (proper : engine.Proper) (none : engine.hooks phase = [])
    (initial : phase.Artifact) (context : phase.Context) :
    engine.runPhase phase initial context = pure initial := by
  rw [runPhase_eq proper, none]
  rfl

section RunHooks

variable {name : String} {hooks : List (Hook BuildPhase.family (StateM Workspace) phase)}
  {context : phase.Context} {initial result : phase.Artifact} {before after : Workspace}

/-- **What every hook keeps, a run of the hooks keeps.** -/
theorem yields_runHooks (Holds : phase.Artifact → Workspace → Prop)
    (each : ∀ hook ∈ hooks, ∀ ⦃value between next later⦄, Holds value between →
      Yields (hook.handler value context) between next later → Holds next later)
    (start : Holds initial before)
    (ran : Yields (HookEngine.runHooks name context hooks initial) before result after) :
    Holds result after := by
  unfold HookEngine.runHooks at ran
  induction hooks generalizing initial before with
  | nil =>
    obtain ⟨rfl, rfl⟩ := yields_pure_iff.1 ran
    exact start
  | cons hook rest ih =>
    rw [List.foldlM_cons, yields_bind_iff] at ran
    obtain ⟨value, between, ranHook, ranRest⟩ := ran
    have kept := each hook (List.mem_cons_self ..) start (yields_adapt_iff.1 ranHook)
    exact ih (fun other listed => each other (List.mem_cons_of_mem _ listed)) kept ranRest

/-- Every hook runs after those before it and before those after it. -/
theorem exists_yields_hook {hook : Hook BuildPhase.family (StateM Workspace) phase}
    (listed : hook ∈ hooks)
    (ran : Yields (HookEngine.runHooks name context hooks initial) before result after) :
    ∃ early late value start next finish, hooks = early ++ hook :: late ∧
      Yields (HookEngine.runHooks name context early initial) before value start ∧
      Yields (hook.handler value context) start next finish ∧
      Yields (HookEngine.runHooks name context late next) finish result after := by
  obtain ⟨early, late, rfl⟩ := List.append_of_mem listed
  unfold HookEngine.runHooks at ran
  rw [List.foldlM_append, yields_bind_iff] at ran
  obtain ⟨value, start, ranEarly, ran⟩ := ran
  rw [List.foldlM_cons, yields_bind_iff] at ran
  obtain ⟨next, finish, ranHook, ranLate⟩ := ran
  exact ⟨early, late, value, start, next, finish, rfl, ranEarly, yields_adapt_iff.1 ranHook,
    ranLate⟩

end RunHooks

/-- A phase with one hook runs it. -/
theorem yields_runPhase_single_iff (proper : engine.Proper)
    {hook : Hook BuildPhase.family (StateM Workspace) phase} (single : engine.hooks phase = [hook])
    {initial result : phase.Artifact} {context : phase.Context} {before after : Workspace} :
    Yields (engine.runPhase phase initial context) before result after ↔
      Yields (hook.handler initial context) before result after := by
  rw [runPhase_eq proper, single]
  unfold HookEngine.runHooks
  rw [List.foldlM_cons, yields_bind_iff]
  simp only [List.foldlM_nil, yields_pure_iff, yields_adapt_iff]
  constructor
  · rintro ⟨_, _, ran, rfl, rfl⟩
    exact ran
  · intro ran
    exact ⟨result, after, ran, rfl, rfl⟩

/-- Storing hooks under a phase leaves the other phases alone. -/
theorem proper_insert (proper : engine.Proper)
    (stored : List (Hook BuildPhase.family (StateM Workspace) phase)) :
    let changed : BuildEngine := ⟨engine.phases.insert phase.name ⟨phase, stored⟩⟩
    changed.Proper ∧ changed.hooks phase = stored ∧
      ∀ other, other ≠ phase → changed.hooks other = engine.hooks other := by
  intro changed
  have at_phase : changed.phases.find? phase.name = some ⟨phase, stored⟩ :=
    SortedMap.find?_insert_self _ _ _
  have elsewhere {other : BuildPhase} (different : other ≠ phase) :
      changed.phases.find? other.name = engine.phases.find? other.name :=
    SortedMap.find?_insert_of_ne _ (fun same => different (BuildPhase.name_injective same)) _
  refine ⟨fun other known found => ?_, hooks_of_find? at_phase, fun other different => ?_⟩
  · by_cases same : other = phase
    · subst same
      rw [at_phase] at found
      cases found
      rfl
    · rw [elsewhere same] at found
      exact proper other known found
  · unfold hooks
    rw [elsewhere different]

/-! ### Adding hooks -/

/-- An engine becomes another by adding hooks at the ends of the phases. -/
structure Gains (engine : BuildEngine) (added : AddedHooks) (changed : BuildEngine) : Prop where
  proper : changed.Proper
  hooks : ∀ phase, changed.hooks phase = engine.hooks phase ++ added phase

theorem Gains.nothing (proper : engine.Proper) : engine.Gains (fun _ => []) engine :=
  ⟨proper, fun _ => (List.append_nil _).symm⟩

theorem Gains.trans {between last : BuildEngine} {early late : AddedHooks}
    (first : engine.Gains early between) (second : between.Gains late last) :
    engine.Gains (fun phase => early phase ++ late phase) last where
  proper := second.proper
  hooks phase := by rw [second.hooks, first.hooks, List.append_assoc]

/-- Storing the hooks of a phase with one more at the end. -/
theorem gains_insert (proper : engine.Proper)
    (hook : Hook BuildPhase.family (StateM Workspace) phase) :
    engine.Gains (.only phase hook)
      ⟨engine.phases.insert phase.name ⟨phase, engine.hooks phase ++ [hook]⟩⟩ := by
  obtain ⟨properAfter, at_phase, elsewhere⟩ := proper_insert proper (engine.hooks phase ++ [hook])
  refine ⟨properAfter, fun other => ?_⟩
  by_cases same : phase = other
  · subst same
    rw [at_phase, AddedHooks.only_self]
  · rw [elsewhere other (Ne.symm same), AddedHooks.only_of_ne same, List.append_nil]

/-- **A hook that is added** comes after the hooks of its phase. -/
theorem yields_addHook (proper : engine.Proper) {name : String}
    {handler : phase.Artifact → phase.Context → HookStep phase.Artifact} {before after : Workspace}
    {changed : BuildEngine}
    (ran : Yields (engine.addHook phase name handler) before changed after) :
    before = after ∧ engine.Gains (.only phase ⟨name, handler⟩) changed := by
  unfold addHook at ran
  obtain ⟨registered, rfl⟩ := yields_ofPipeline_iff.1 ran
  refine ⟨rfl, ?_⟩
  unfold HookEngine.register at registered
  cases found : engine.phases.find? phase.name with
  | none =>
    have none : engine.hooks phase = [] := by
      unfold hooks
      rw [found]
    rw [found] at registered
    cases registered
    have added := gains_insert proper
      (⟨name, handler⟩ : Hook BuildPhase.family (StateM Workspace) phase)
    rwa [none] at added
  | some known =>
    obtain rfl := proper.find? found
    rw [found] at registered
    dsimp only at registered
    split at registered
    · cases registered
    · rw [dif_pos rfl] at registered
      cases registered
      exact gains_insert proper ⟨name, handler⟩

/-- **Steps that add hooks** add them one after another, and keep what each of them keeps. -/
theorem gains_foldlM {α : Type} {kept : Workspace → Workspace → Prop}
    (start : ∀ workspace, kept workspace workspace)
    (trans : ∀ {first second third}, kept first second → kept second third → kept first third)
    {step : BuildEngine → α → Build BuildEngine} {added : α → AddedHooks} {items : List α}
    (each : ∀ item ∈ items, ∀ {engine changed before after}, engine.Proper →
      Yields (step engine item) before changed after → engine.Gains (added item) changed ∧
        kept before after)
    {changed : BuildEngine} {before after : Workspace} (proper : engine.Proper)
    (ran : Yields (items.foldlM step engine) before changed after) :
    engine.Gains (fun phase => items.flatMap fun item => added item phase) changed ∧
      kept before after := by
  induction items generalizing engine before with
  | nil =>
    obtain ⟨rfl, rfl⟩ := yields_pure_iff.1 ran
    exact ⟨.nothing proper, start _⟩
  | cons first rest ih =>
    rw [List.foldlM_cons, yields_bind_iff] at ran
    obtain ⟨next, between, performed, later⟩ := ran
    obtain ⟨gains, here⟩ := each first (List.mem_cons_self ..) proper performed
    obtain ⟨gainsRest, there⟩ :=
      ih (fun item listed => each item (List.mem_cons_of_mem _ listed)) gains.proper later
    exact ⟨gains.trans gainsRest, trans here there⟩

end BuildEngine

end CatalogSchema
