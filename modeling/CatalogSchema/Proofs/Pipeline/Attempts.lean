/-
**Histories of steps that may be refused.**

A step either leads to a next state or is refused, and then the state stays. `attemptAll` is the
state after a history of such steps, `taken` the steps of the history that were not refused.

* `attemptAll_append`, `taken_append`: a history is run in pieces.
* `holds_attemptAll`: what a taken step and a refused step keep of (state, history, taken steps), a
  whole history keeps.
-/

namespace CatalogSchema

section Attempts

variable {State : Type u} {Action : Type v} {Error : Type w}
  (step : State → Action → Except Error State)

/-- The state after a step; one that is refused leaves it. -/
def attempt (state : State) (action : Action) : State :=
  match step state action with
  | .ok next => next
  | .error _ => state

/-- The state after a history of steps, each from what the ones before it left. -/
def attemptAll (state : State) (history : List Action) : State := history.foldl (attempt step) state

/-- The steps of a history that are not refused, in their order. -/
def taken (state : State) : List Action → List Action
  | [] => []
  | action :: rest =>
    match step state action with
    | .ok next => action :: taken next rest
    | .error _ => taken state rest

variable {step} {state next : State} {action : Action} {error : Error}

theorem attempt_of_ok (accepted : step state action = .ok next) :
    attempt step state action = next := by
  unfold attempt
  rw [accepted]

theorem attempt_of_error (refused : step state action = .error error) :
    attempt step state action = state := by
  unfold attempt
  rw [refused]

theorem taken_of_ok (accepted : step state action = .ok next) (rest : List Action) :
    taken step state (action :: rest) = action :: taken step next rest := by
  rw [taken, accepted]

theorem taken_of_error (refused : step state action = .error error) (rest : List Action) :
    taken step state (action :: rest) = taken step state rest := by
  rw [taken, refused]

theorem attemptAll_append (state : State) (early late : List Action) :
    attemptAll step state (early ++ late) = attemptAll step (attemptAll step state early) late :=
  List.foldl_append

theorem taken_append (state : State) (early late : List Action) :
    taken step state (early ++ late) =
      taken step state early ++ taken step (attemptAll step state early) late := by
  induction early generalizing state with
  | nil => rfl
  | cons action early ih =>
    change taken step state (action :: (early ++ late)) = taken step state (action :: early) ++
      taken step (attemptAll step (attempt step state action) early) late
    cases outcome : step state action with
    | ok next =>
      rw [attempt_of_ok outcome, taken_of_ok outcome, taken_of_ok outcome, ih, List.cons_append]
    | error _ =>
      rw [attempt_of_error outcome, taken_of_error outcome, taken_of_error outcome, ih]

variable (step)

/-- A history that ends with a step that is taken. -/
theorem attemptAll_snoc_of_ok {start : State} {history : List Action}
    (accepted : step (attemptAll step start history) action = .ok next) :
    attemptAll step start (history ++ [action]) = next ∧
      taken step start (history ++ [action]) = taken step start history ++ [action] := by
  rw [attemptAll_append, taken_append, taken_of_ok accepted]
  exact ⟨attempt_of_ok accepted, rfl⟩

/-- A history that ends with a step that is refused. -/
theorem attemptAll_snoc_of_error {start : State} {history : List Action}
    (refused : step (attemptAll step start history) action = .error error) :
    attemptAll step start (history ++ [action]) = attemptAll step start history ∧
      taken step start (history ++ [action]) = taken step start history := by
  rw [attemptAll_append, taken_append, taken_of_error refused]
  exact ⟨attempt_of_error refused, List.append_nil _⟩

/-- **What both outcomes of a step keep, a history keeps.** -/
theorem holds_attemptAll (Holds : State → List Action → List Action → Prop)
    (onTaken : ∀ {state past done action next}, Holds state past done →
      step state action = .ok next →
      Holds next (past ++ [action]) (done ++ [action]))
    (onRefused : ∀ {state past done action error}, Holds state past done →
      step state action = .error error → Holds state (past ++ [action]) done)
    (past done : List Action) (start : Holds state past done) (history : List Action) :
    Holds (attemptAll step state history) (past ++ history) (done ++ taken step state history) := by
  induction history generalizing state past done with
  | nil =>
    rw [taken, List.append_nil, List.append_nil]
    exact start
  | cons action history ih =>
    change Holds (attemptAll step (attempt step state action) history) _ _
    cases outcome : step state action with
    | ok next =>
      rw [attempt_of_ok outcome, taken_of_ok outcome, List.append_cons past, List.append_cons done]
      exact ih _ _ (onTaken start outcome)
    | error _ =>
      rw [attempt_of_error outcome, taken_of_error outcome, List.append_cons past]
      exact ih _ _ (onRefused start outcome)

end Attempts

end CatalogSchema
