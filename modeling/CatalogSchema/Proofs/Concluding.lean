/-
**How a step can end.**

`Concludes` says that, from any state, every error of a step has one property and every result
another. The lemmas below say it for every way in which steps are put together.

* `Concludes.bind`: two steps in a row; the second is run with a result of the first.
* `Concludes.adapt`: an error inside another.
* `Concludes.foldlM`: a loop, whose value keeps a property.
-/

import Mathlib.Data.List.Basic

namespace CatalogSchema

variable {ε ε' α β σ : Type}

/-- Every error of a step has one property, every result another. -/
def Concludes (fault : ε → Prop) (holds : α → Prop) (step : ExceptT ε (StateM σ) α) : Prop :=
  ∀ state, (∀ error, (Id.run (step.run.run state)).1 = .error error → fault error) ∧
    ∀ value, (Id.run (step.run.run state)).1 = .ok value → holds value

/-- Every error of a step has a property. -/
abbrev Throws (fault : ε → Prop) (step : ExceptT ε (StateM σ) α) : Prop :=
  Concludes fault (fun _ => True) step

namespace Concludes

variable {fault : ε → Prop} {holds : α → Prop} {step : ExceptT ε (StateM σ) α}

/-! ### Single steps -/

protected theorem pure {value : α} (here : holds value) :
    Concludes fault holds (pure value : ExceptT ε (StateM σ) α) := by
  refine fun state => ⟨nofun, fun other ended => ?_⟩
  cases ended
  exact here

protected theorem throw {error : ε} (here : fault error) :
    Concludes fault holds (throw error : ExceptT ε (StateM σ) α) := by
  refine fun state => ⟨fun other ended => ?_, nofun⟩
  cases ended
  exact here

/-- An outcome that changes nothing. -/
theorem outcome {outcome : Except ε α} (failed : ∀ error, outcome = .error error → fault error)
    (succeeded : ∀ value, outcome = .ok value → holds value) :
    Concludes fault holds (ExceptT.mk (pure outcome) : ExceptT ε (StateM σ) α) :=
  fun _ => ⟨failed, succeeded⟩

protected theorem get : Throws fault (get : ExceptT ε (StateM σ) σ) :=
  fun _ => ⟨nofun, fun _ _ => trivial⟩

protected theorem set (state : σ) : Throws fault (set state : ExceptT ε (StateM σ) PUnit) :=
  fun _ => ⟨nofun, fun _ _ => trivial⟩

protected theorem modify (change : σ → σ) :
    Throws fault (modify change : ExceptT ε (StateM σ) PUnit) :=
  fun _ => ⟨nofun, fun _ _ => trivial⟩

protected theorem modifyGet (change : σ → α × σ) :
    Throws fault (modifyGet change : ExceptT ε (StateM σ) α) :=
  fun _ => ⟨nofun, fun _ _ => trivial⟩

/-! ### Steps put together -/

/-- **Two steps in a row.** -/
protected theorem bind {others : β → Prop} {next : α → ExceptT ε (StateM σ) β}
    (first : Concludes fault holds step)
    (later : ∀ value, holds value → Concludes fault others (next value)) :
    Concludes fault others (step >>= next) := by
  intro state
  rw [ExceptT.run_bind, StateT.run_bind]
  obtain ⟨failed, succeeded⟩ := first state
  change ∀ error, (step.run.run state).1 = .error error → fault error at failed
  change ∀ value, (step.run.run state).1 = .ok value → holds value at succeeded
  -- From here on the first step is its outcome and the state that it leaves.
  generalize step.run.run state = ran at failed succeeded ⊢
  rcases ran with ⟨error | value, after⟩
  · refine ⟨fun other ended => ?_, nofun⟩
    cases ended
    exact failed error rfl
  · exact later value (succeeded value rfl) after

/-- Weaker properties. -/
theorem mono {fault' : ε → Prop} {holds' : α → Prop} (concludes : Concludes fault holds step)
    (failed : ∀ error, fault error → fault' error)
    (succeeded : ∀ value, holds value → holds' value) :
    Concludes fault' holds' step :=
  fun state => ⟨fun error ended => failed error ((concludes state).1 error ended),
    fun value ended => succeeded value ((concludes state).2 value ended)⟩

/-- **An error inside another.** -/
theorem adapt {fault' : ε' → Prop} {change : ε → ε'} (concludes : Concludes fault holds step)
    (wraps : ∀ error, fault error → fault' (change error)) :
    Concludes fault' holds (ExceptT.adapt change step) := by
  intro state
  change (∀ error, (Id.run ((Except.mapError change <$> step.run).run state)).1 = .error error →
    fault' error) ∧
    ∀ value, (Id.run ((Except.mapError change <$> step.run).run state)).1 = .ok value → holds value
  rw [StateT.run_map]
  obtain ⟨failed, succeeded⟩ := concludes state
  change ∀ error, (step.run.run state).1 = .error error → fault error at failed
  change ∀ value, (step.run.run state).1 = .ok value → holds value at succeeded
  generalize step.run.run state = ran at failed succeeded ⊢
  rcases ran with ⟨error | value, after⟩
  · refine ⟨fun other ended => ?_, nofun⟩
    cases ended
    exact wraps error (failed error rfl)
  · refine ⟨nofun, fun other ended => ?_⟩
    cases ended
    exact succeeded value rfl

/-! ### Loops -/

/-- **A loop** whose value keeps a property. -/
theorem foldlM {holds : β → Prop} {next : β → α → ExceptT ε (StateM σ) β}
    {items : List α} {start : β} (here : holds start)
    (each : ∀ item ∈ items, ∀ value, holds value → Concludes fault holds (next value item)) :
    Concludes fault holds (items.foldlM next start) := by
  induction items generalizing start with
  | nil => exact .pure here
  | cons item rest ih =>
    rw [List.foldlM_cons]
    exact (each item List.mem_cons_self start here).bind fun value found =>
      ih found fun other listed => each other (.tail _ listed)

theorem mapM {next : α → ExceptT ε (StateM σ) β} {items : List α}
    (each : ∀ item ∈ items, Throws fault (next item)) : Throws fault (items.mapM next) := by
  induction items with
  | nil =>
    rw [List.mapM_nil]
    exact .pure trivial
  | cons item rest ih =>
    rw [List.mapM_cons]
    refine (each item List.mem_cons_self).bind fun _ _ => ?_
    exact (ih fun other listed => each other (.tail _ listed)).bind fun _ _ => .pure trivial

theorem forM {next : α → ExceptT ε (StateM σ) PUnit} {items : List α}
    (each : ∀ item ∈ items, Throws fault (next item)) : Throws fault (items.forM next) := by
  induction items with
  | nil => exact .pure trivial
  | cons item rest ih =>
    exact (each item List.mem_cons_self).bind fun _ _ =>
      ih fun other listed => each other (.tail _ listed)

/-- A step for a value that can be missing. -/
theorem optionMapM {next : α → ExceptT ε (StateM σ) β} {value : Option α}
    (each : ∀ item, Throws fault (next item)) : Throws fault (value.mapM next) := by
  cases value with
  | none => exact .pure trivial
  | some item =>
    rw [Option.mapM_some, map_eq_pure_bind]
    exact (each item).bind fun _ _ => .pure trivial

end Concludes

end CatalogSchema
