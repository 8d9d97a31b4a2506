/-
**Two runs side by side.**

`InStep` compares two steps that may fail and that change a state each: from states that are related
they both fail with one error, or both succeed, with results that are related, and leave states that
are related. The lemmas below say it for every way in which steps are put together.

* `Together`: the same for two outcomes without a state.
* `InStep.bind`: two steps in a row; the relation of the states may change from one to the other.
-/

namespace CatalogSchema

variable {ε ε' α α' β β' σ σ' : Type}

/-- Both outcomes are one error, or results that are related. -/
inductive Together (results : α → α' → Prop) : Except ε α → Except ε α' → Prop where
  | ok {value : α} {value' : α'} (related : results value value') :
      Together results (.ok value) (.ok value')
  | error (error : ε) : Together results (.error error) (.error error)

/-- Both runs end with one error, or with results and states that are related. -/
inductive EndTogether (results : α → α' → Prop) (after : σ → σ' → Prop) :
    Except ε α × σ → Except ε α' × σ' → Prop where
  | ok {value : α} {value' : α'} {state : σ} {state' : σ'} (related : results value value')
      (left : after state state') :
      EndTogether results after (.ok value, state) (.ok value', state')
  | error (error : ε) (state : σ) (state' : σ') :
      EndTogether results after (.error error, state) (.error error, state')

/-- From related states, two steps end together. -/
def InStep (before : σ → σ' → Prop) (results : α → α' → Prop) (after : σ → σ' → Prop)
    (step : ExceptT ε (StateM σ) α) (step' : ExceptT ε (StateM σ') α') : Prop :=
  ∀ ⦃state state'⦄, before state state' →
    EndTogether results after (Id.run (step.run.run state)) (Id.run (step'.run.run state'))

theorem Together.refl (outcome : Except ε α) : Together Eq outcome outcome := by
  cases outcome with
  | ok value => exact .ok rfl
  | error error => exact .error error

namespace InStep

variable {before between after : σ → σ' → Prop} {results : α → α' → Prop} {others : β → β' → Prop}
  {step : ExceptT ε (StateM σ) α} {step' : ExceptT ε (StateM σ') α'}

/-! ### Single steps -/

protected theorem pure {value : α} {value' : α'} (related : results value value') :
    InStep before results before (pure value : ExceptT ε (StateM σ) α)
      (pure value' : ExceptT ε (StateM σ') α') :=
  fun _ _ start => .ok related start

protected theorem throw (error : ε) :
    InStep before results after (throw error : ExceptT ε (StateM σ) α)
    (throw error : ExceptT ε (StateM σ') α') :=
  fun _ _ _ => .error error _ _

/-- An outcome that changes nothing. -/
theorem outcome {outcome : Except ε α} {outcome' : Except ε α'}
    (together : Together results outcome outcome') :
    InStep before results before (ExceptT.mk (pure outcome) : ExceptT ε (StateM σ) α)
      (ExceptT.mk (pure outcome') : ExceptT ε (StateM σ') α') := by
  intro state state' start
  cases together with
  | ok related => exact .ok related start
  | error error => exact .error error _ _

protected theorem get : InStep before before before (get : ExceptT ε (StateM σ) σ)
    (get : ExceptT ε (StateM σ') σ') :=
  fun _ _ start => .ok start start

protected theorem set {state : σ} {state' : σ'} (related : after state state') :
    InStep before (fun _ _ => True) after (set state : ExceptT ε (StateM σ) PUnit)
      (set state' : ExceptT ε (StateM σ') PUnit) :=
  fun _ _ _ => .ok trivial related

protected theorem modify {change : σ → σ} {change' : σ' → σ'}
    (keeps : ∀ {state state'}, before state state' → after (change state) (change' state')) :
    InStep before (fun _ _ => True) after (modify change : ExceptT ε (StateM σ) PUnit)
      (modify change' : ExceptT ε (StateM σ') PUnit) :=
  fun _ _ start => .ok trivial (keeps start)

/-- A step that reads a value off the state and changes the state. -/
protected theorem modifyGet {change : σ → α × σ} {change' : σ' → α' × σ'}
    (keeps : ∀ {state state'}, before state state' →
      results (change state).1 (change' state').1 ∧ after (change state).2 (change' state').2) :
    InStep before results after (modifyGet change : ExceptT ε (StateM σ) α)
      (modifyGet change' : ExceptT ε (StateM σ') α') :=
  fun _ _ start => .ok (keeps start).1 (keeps start).2

/-! ### Steps put together -/

/-- **Two steps in a row.** -/
protected theorem bind {next : α → ExceptT ε (StateM σ) β} {next' : α' → ExceptT ε (StateM σ') β'}
    (first : InStep before results between step step')
    (later : ∀ {value value'}, results value value' →
      InStep between others after (next value) (next' value')) :
    InStep before others after (step >>= next) (step' >>= next') := by
  intro state state' start
  rw [ExceptT.run_bind, ExceptT.run_bind, StateT.run_bind, StateT.run_bind]
  have ran := first start
  change EndTogether results between (step.run.run state) (step'.run.run state') at ran
  generalize step.run.run state = ended at ran ⊢
  generalize step'.run.run state' = ended' at ran ⊢
  cases ran with
  | ok related left => exact later related left
  | error error state state' => exact .error error state state'

/-- Weaker relations of the results and of the states left, a stronger one of the states before. -/
theorem mono {before' after' : σ → σ' → Prop} {results' : α → α' → Prop}
    (run : InStep before results after step step')
    (start : ∀ {state state'}, before' state state' → before state state')
    (related : ∀ {value value'}, results value value' → results' value value')
    (left : ∀ {state state'}, after state state' → after' state state') :
    InStep before' results' after' step step' := by
  intro state state' started
  have ran := run (start started)
  generalize Id.run (step.run.run state) = ended at ran ⊢
  generalize Id.run (step'.run.run state') = ended' at ran ⊢
  cases ran with
  | ok found reached => exact .ok (related found) (left reached)
  | error error state state' => exact .error error state state'

/-- Wording errors differently. -/
theorem adapt (change : ε → ε') (run : InStep before results after step step') :
    InStep before results after (ExceptT.adapt change step) (ExceptT.adapt change step') := by
  intro state state' start
  change EndTogether results after
    (Id.run ((Except.mapError change <$> step.run).run state))
    (Id.run ((Except.mapError change <$> step'.run).run state'))
  rw [StateT.run_map, StateT.run_map]
  have ran := run start
  change EndTogether results after (step.run.run state) (step'.run.run state') at ran
  generalize step.run.run state = ended at ran ⊢
  generalize step'.run.run state' = ended' at ran ⊢
  cases ran with
  | ok related left => exact .ok related left
  | error error state state' => exact .error _ state state'

end InStep

end CatalogSchema
