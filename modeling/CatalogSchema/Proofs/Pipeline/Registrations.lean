/-
**An engine of phases is a list of handlers.**

Registrations come for any phases and with any types, some refused. What the engine knows of a phase
after such a history is the list of the registrations accepted for it, all with the types of the
first.

* `Rows`: the rows of an engine against the accepted registrations. A registration keeps this,
  whether accepted (`Rows.accept`) or not, and so does a history (`rows_afterAll`).
* `runHooks_eq`: a run calls the handlers one after another, up to the first that fails
  (`callInOrder`). Over handlers with a state it ends in one of two ways (`callInOrder_ends`).
* `engine_refines_handlers`: names, outcomes of registrations and outcomes of runs after any
  history.
-/

import CatalogSchema.Pipeline.Hook
import CatalogSchema.Proofs.Pipeline.Attempts
import Mathlib.Data.List.Nodup

namespace CatalogSchema

variable {family : PhaseFamily} {m : Type → Type}

namespace HookEngine

/-- A hook with the phase that it is registered for. -/
structure Registration (family : PhaseFamily) (m : Type → Type) where
  phase : String
  signature : family.Signature
  hook : Hook family m signature

/-- The engine with one more hook. -/
def accept (engine : HookEngine family m) (registration : Registration family m) :
    Except PipelineError (HookEngine family m) :=
  engine.register registration.phase registration.hook

/-- The engine after registrations; those that are refused leave it. -/
def afterAll (history : List (Registration family m)) : HookEngine family m :=
  attemptAll accept empty history

/-- The registrations of a history that are not refused, in their order. -/
def accepted (history : List (Registration family m)) : List (Registration family m) :=
  taken accept empty history

/-- The registrations for a phase. -/
def ofPhase (phase : String) (registrations : List (Registration family m)) :
    List (Registration family m) :=
  registrations.filter (·.phase = phase)

/-! ### The rows of an engine -/

/-- **The row of each phase lists the accepted registrations for it**, all with the types of the
phase's first registration in the history, and no two with one name. -/
structure Rows (engine : HookEngine family m)
    (history done : List (Registration family m)) : Prop where
  unknown : ∀ phase, engine.phases.find? phase = none →
    ofPhase phase done = [] ∧ ofPhase phase history = []
  known : ∀ phase row, engine.phases.find? phase = some row →
    ofPhase phase done = row.hooks.map (⟨phase, row.signature, ·⟩) ∧
      (row.hooks.map (·.name)).Nodup ∧
      ∃ first, (ofPhase phase history).head? = some first ∧ first.signature = row.signature

theorem rows_empty : Rows (empty : HookEngine family m) [] [] where
  unknown _ _ := ⟨rfl, rfl⟩
  known := nofun

variable {engine grown : HookEngine family m} {history done : List (Registration family m)}
  {registration : Registration family m}

theorem ofPhase_append (phase : String) (early late : List (Registration family m)) :
    ofPhase phase (early ++ late) = ofPhase phase early ++ ofPhase phase late :=
  List.filter_append ..

theorem ofPhase_self (registration : Registration family m) :
    ofPhase registration.phase [registration] = [registration] :=
  List.filter_cons_of_pos (decide_eq_true rfl)

theorem ofPhase_of_ne {phase : String} (different : phase ≠ registration.phase) :
    ofPhase phase [registration] = [] :=
  List.filter_cons_of_neg (by simpa using different.symm)

/-- A row with one more hook; the other rows stay. -/
theorem Rows.insert (rows : engine.Rows history done) (registration : Registration family m)
    (row : Phase family m)
    (own : ofPhase registration.phase (done ++ [registration]) =
      row.hooks.map (⟨registration.phase, row.signature, ·⟩))
    (distinct : (row.hooks.map (·.name)).Nodup)
    (first : ∃ first, (ofPhase registration.phase (history ++ [registration])).head? = some first ∧
      first.signature = row.signature) :
    Rows ⟨engine.phases.insert registration.phase row⟩ (history ++ [registration])
      (done ++ [registration]) where
  unknown phase absent := by
    have different : phase ≠ registration.phase := by
      rintro rfl
      rw [SortedMap.find?_insert_self] at absent
      cases absent
    rw [SortedMap.find?_insert_of_ne _ different] at absent
    rw [ofPhase_append, ofPhase_append, ofPhase_of_ne different, List.append_nil, List.append_nil]
    exact rows.unknown phase absent
  known phase other found := by
    by_cases same : phase = registration.phase
    · subst same
      rw [SortedMap.find?_insert_self] at found
      cases found
      exact ⟨own, distinct, first⟩
    · rw [SortedMap.find?_insert_of_ne _ same] at found
      rw [ofPhase_append, ofPhase_append, ofPhase_of_ne same, List.append_nil, List.append_nil]
      exact rows.known phase other found

/-- What registering a hook does, by the row of its phase. -/
theorem Rows.accept (rows : engine.Rows history done)
    (accepted : engine.accept registration = .ok grown) :
    grown.Rows (history ++ [registration]) (done ++ [registration]) := by
  obtain ⟨phase, signature, hook⟩ := registration
  unfold HookEngine.accept register at accepted
  cases found : engine.phases.find? phase with
  | none =>
    rw [found] at accepted
    cases accepted
    obtain ⟨none, fresh⟩ := rows.unknown phase found
    refine rows.insert ⟨phase, signature, hook⟩ ⟨signature, [hook]⟩ ?_ (List.nodup_singleton _)
      ⟨⟨phase, signature, hook⟩, ?_, rfl⟩
    · rw [ofPhase_append, none, ofPhase_self]
      rfl
    · rw [ofPhase_append, fresh, ofPhase_self]
      rfl
  | some row =>
    obtain ⟨own, distinct, first, leads, agrees⟩ := rows.known phase row found
    rw [found] at accepted
    dsimp only at accepted
    split at accepted
    · cases accepted
    · rename_i free
      split at accepted
      · rename_i same
        cases accepted
        subst same
        have fresh : hook.name ∉ row.hooks.map (·.name) := by simpa using free
        refine rows.insert ⟨phase, row.signature, hook⟩ ⟨row.signature, row.hooks ++ [hook]⟩ ?_ ?_
          ⟨first, ?_, agrees⟩
        · rw [ofPhase_append, own, ofPhase_self, List.map_append]
          rfl
        · rw [List.map_append]
          exact distinct.append (List.nodup_singleton _) (List.disjoint_singleton.2 fresh)
        · rw [ofPhase_append, List.head?_append, leads]
          rfl
      · cases accepted

/-- A refused registration is not the first of its phase. -/
theorem Rows.refuse (rows : engine.Rows history done) {error : PipelineError}
    (refused : engine.accept registration = .error error) :
    engine.Rows (history ++ [registration]) done where
  unknown phase absent := by
    have different : phase ≠ registration.phase := by
      rintro rfl
      unfold HookEngine.accept register at refused
      rw [absent] at refused
      cases refused
    rw [ofPhase_append, ofPhase_of_ne different, List.append_nil]
    exact rows.unknown phase absent
  known phase row found := by
    obtain ⟨own, distinct, first, leads, agrees⟩ := rows.known phase row found
    refine ⟨own, distinct, first, ?_, agrees⟩
    rw [ofPhase_append, List.head?_append, leads]
    rfl

/-- **The rows after any history of registrations.** -/
theorem rows_afterAll (history : List (Registration family m)) :
    (afterAll history).Rows history (accepted history) :=
  holds_attemptAll HookEngine.accept Rows (fun rows done => rows.accept done)
    (fun rows no => rows.refuse no) [] [] rows_empty history

theorem Rows.hookNames (rows : engine.Rows history done) (phase : String) :
    engine.hookNames phase = (ofPhase phase done).map (·.hook.name) ∧
      (engine.hookNames phase).Nodup := by
  unfold HookEngine.hookNames
  cases found : engine.phases.find? phase with
  | none =>
    rw [(rows.unknown phase found).1]
    exact ⟨rfl, List.nodup_nil⟩
  | some row =>
    obtain ⟨own, distinct, -⟩ := rows.known phase row found
    rw [own, List.map_map]
    exact ⟨rfl, distinct⟩

/-- **A registration is refused** if its name is taken in its phase or else if its types are not
those of the phase's first registration; any other is accepted. -/
theorem Rows.register (rows : engine.Rows history done) (next : Registration family m) :
    (next.hook.name ∈ engine.hookNames next.phase →
      engine.accept next = .error (.duplicateHook next.phase next.hook.name)) ∧
    (next.hook.name ∉ engine.hookNames next.phase →
      ∀ first, (ofPhase next.phase history).head? = some first → first.signature ≠ next.signature →
        engine.accept next = .error (.phaseType next.phase)) ∧
    (next.hook.name ∉ engine.hookNames next.phase →
      (∀ first, (ofPhase next.phase history).head? = some first →
        first.signature = next.signature) →
        ∃ grown, engine.accept next = .ok grown) := by
  obtain ⟨phase, signature, hook⟩ := next
  unfold HookEngine.accept HookEngine.register HookEngine.hookNames
  cases found : engine.phases.find? phase with
  | none =>
    refine ⟨nofun, fun _ first leads => ?_, fun _ _ => ⟨_, rfl⟩⟩
    rw [(rows.unknown phase found).2] at leads
    cases leads
  | some row =>
    obtain ⟨-, -, first, leads, agrees⟩ := rows.known phase row found
    dsimp only
    have listed : (row.hooks.any (·.name = hook.name)) = true ↔
        hook.name ∈ row.hooks.map (·.name) := by
      simp
    refine ⟨fun taken => if_pos (listed.2 taken),
      fun free other led differs => ?_, fun free alike => ?_⟩
    · cases leads.symm.trans led
      rw [if_neg fun within => free (listed.1 within), dif_neg]
      exact fun same => differs (agrees.trans same.symm)
    · have same : signature = row.signature := (alike first leads).symm.trans agrees
      rw [if_neg fun within => free (listed.1 within), dif_pos same]
      exact ⟨_, rfl⟩

/-! ### Runs -/

section Runs

variable {signature : family.Signature}

/-- Calls handlers one after another, each on the value that the one before returned. The first that
fails ends the run, under the phase and the name of its hook. -/
def callInOrder [Monad m] (phase : String) (context : family.Context signature) :
    List (Hook family m signature) → family.Artifact signature →
      ExceptT PipelineError m (family.Artifact signature)
  | [], value => pure value
  | hook :: later, value => ExceptT.mk do
    match ← (hook.handler value context).run with
    | .ok next => (callInOrder phase context later next).run
    | .error error => return .error (.hookFailed phase hook.name error)

/-- **The fold over a row calls its handlers in order.** -/
theorem runHooks_eq [Monad m] [LawfulMonad m] (phase : String) (context : family.Context signature)
    (hooks : List (Hook family m signature)) (initial : family.Artifact signature) :
    runHooks phase context hooks initial = callInOrder phase context hooks initial := by
  unfold runHooks
  induction hooks generalizing initial with
  | nil => rfl
  | cons hook later ih =>
    rw [List.foldlM_cons, callInOrder]
    simp only [ih]
    refine ExceptT.ext ?_
    rw [ExceptT.run_bind]
    unfold ExceptT.adapt
    simp only [ExceptT.run_mk, bind_map_left]
    refine bind_congr fun outcome => ?_
    cases outcome with
    | ok next => rfl
    | error error => rfl

theorem Rows.run [Monad m] [LawfulMonad m] (rows : engine.Rows history done) (phase : String)
    (signature : family.Signature) (initial : family.Artifact signature)
    (context : family.Context signature) :
    (ofPhase phase history = [] → engine.run phase signature initial context = pure initial) ∧
    ∀ first, (ofPhase phase history).head? = some first →
      (first.signature ≠ signature →
        engine.run phase signature initial context = throw (.phaseType phase)) ∧
      (first.signature = signature →
        ∃ hooks : List (Hook family m signature),
        ofPhase phase done = hooks.map (⟨phase, signature, ·⟩) ∧
          engine.run phase signature initial context =
            callInOrder phase context hooks initial) := by
  unfold HookEngine.run
  cases found : engine.phases.find? phase with
  | none =>
    refine ⟨fun _ => rfl, fun first leads => ?_⟩
    rw [(rows.unknown phase found).2] at leads
    cases leads
  | some row =>
    obtain ⟨own, -, first, leads, agrees⟩ := rows.known phase row found
    refine ⟨fun absent => ?_, fun other led => ?_⟩
    · rw [absent] at leads
      cases leads
    cases leads.symm.trans led
    refine ⟨fun differs => dif_neg fun same => differs (agrees.trans same), fun alike => ?_⟩
    obtain ⟨_, hooks⟩ := row
    obtain rfl := agrees.symm.trans alike
    exact ⟨hooks, own, (dif_pos rfl).trans (runHooks_eq phase context hooks initial)⟩

variable {σ : Type} {phase : String} {context : family.Context signature}

/-- Handlers pass a value on: each succeeds on what the one before returned, in the state it
left. -/
inductive Passes (context : family.Context signature) :
    List (Hook family (StateM σ) signature) → family.Artifact signature → σ →
      family.Artifact signature → σ → Prop
  | nil (value : family.Artifact signature) (state : σ) : Passes context [] value state value state
  | cons {hook : Hook family (StateM σ) signature} {later : List (Hook family (StateM σ) signature)}
      {value next result : family.Artifact signature} {before between after : σ} :
      (hook.handler value context).run.run before = (.ok next, between) →
      Passes context later next between result after →
      Passes context (hook :: later) value before result after

/-- How a row of handlers ends: all pass the value on, or the ones before some handler do and that
one fails, in the state in which it failed. -/
inductive Ends (phase : String) (context : family.Context signature)
    (hooks : List (Hook family (StateM σ) signature)) (initial : family.Artifact signature)
    (before : σ) :
    Except PipelineError (family.Artifact signature) → σ → Prop
  | passed {result : family.Artifact signature} {after : σ} :
      Passes context hooks initial before result after →
      Ends phase context hooks initial before (.ok result) after
  | failed {early late : List (Hook family (StateM σ) signature)}
      {hook : Hook family (StateM σ) signature} {value : family.Artifact signature}
      {between after : σ} {error : HookError} :
      hooks = early ++ hook :: late → Passes context early initial before value between →
      (hook.handler value context).run.run between = (.error error, after) →
      Ends phase context hooks initial before (.error (.hookFailed phase hook.name error)) after

variable {hooks : List (Hook family (StateM σ) signature)} {initial : family.Artifact signature}
  {before after : σ} {outcome : Except PipelineError (family.Artifact signature)}

theorem run_callInOrder_cons (phase : String) (context : family.Context signature)
    (hook : Hook family (StateM σ) signature) (later : List (Hook family (StateM σ) signature))
    (initial : family.Artifact signature) (before : σ) :
    (callInOrder phase context (hook :: later) initial).run.run before =
      match (hook.handler initial context).run.run before with
      | (.ok next, between) => (callInOrder phase context later next).run.run between
      | (.error error, between) => (.error (.hookFailed phase hook.name error), between) := by
  rw [callInOrder, ExceptT.run_mk, StateT.run_bind]
  obtain ⟨outcome, between⟩ := (hook.handler initial context).run.run before
  cases outcome with
  | ok next => rfl
  | error error => rfl

theorem Ends.cons {hook : Hook family (StateM σ) signature} {next : family.Artifact signature}
    {between : σ} (passes : (hook.handler initial context).run.run before = (.ok next, between))
    (ends : Ends phase context hooks next between outcome after) :
    Ends phase context (hook :: hooks) initial before outcome after := by
  cases ends with
  | passed rest => exact .passed (.cons passes rest)
  | failed split early fails =>
    rw [split]
    exact .failed rfl (.cons passes early) fails

/-- **A run of handlers with a state ends as its handlers do.** -/
theorem callInOrder_ends (phase : String) (context : family.Context signature)
    (hooks : List (Hook family (StateM σ) signature)) (initial : family.Artifact signature)
    (before : σ) :
    Ends phase context hooks initial before
      ((callInOrder phase context hooks initial).run.run before).1
      ((callInOrder phase context hooks initial).run.run before).2 := by
  induction hooks generalizing initial before with
  | nil => exact .passed (.nil initial before)
  | cons hook later ih =>
    rw [run_callInOrder_cons]
    cases called : (hook.handler initial context).run.run before with
    | mk answer between =>
      cases answer with
      | ok next => exact .cons called (ih next between)
      | error error => exact .failed rfl (.nil initial before) called

end Runs

/-- **The engine is a list of handlers for each phase.** After any history of registrations, for any
phases and with any types:

* a phase lists the names of the accepted registrations for it, in their order, none twice;
* the next registration is refused if its name is taken in its phase, or else if its types are not
  those of the first registration of the phase; a refused one leaves the engine as it is;
* a run of a phase without registrations returns its value, one with other types than those of the
  first registration fails at once, and any other calls the accepted handlers in order;
* over handlers with a state, either all pass the value on, or the first that fails ends the run
  under its own name, in the state in which it failed. -/
theorem engine_refines_handlers (family : PhaseFamily) :
    (∀ (m : Type → Type) [Monad m] [LawfulMonad m] (history : List (Registration family m)),
      let engine := afterAll history
      (∀ phase, engine.hookNames phase = (ofPhase phase (accepted history)).map (·.hook.name) ∧
        (engine.hookNames phase).Nodup) ∧
      (∀ next : Registration family m,
        (next.hook.name ∈ engine.hookNames next.phase →
          engine.accept next = .error (.duplicateHook next.phase next.hook.name)) ∧
        (next.hook.name ∉ engine.hookNames next.phase →
          ∀ first, (ofPhase next.phase history).head? = some first →
            first.signature ≠ next.signature →
            engine.accept next = .error (.phaseType next.phase)) ∧
        (next.hook.name ∉ engine.hookNames next.phase →
          (∀ first, (ofPhase next.phase history).head? = some first →
            first.signature = next.signature) → ∃ grown, engine.accept next = .ok grown) ∧
        (∀ grown, engine.accept next = .ok grown → afterAll (history ++ [next]) = grown ∧
          accepted (history ++ [next]) = accepted history ++ [next]) ∧
        ∀ error, engine.accept next = .error error → afterAll (history ++ [next]) = engine ∧
          accepted (history ++ [next]) = accepted history) ∧
      ∀ phase signature initial context,
        (ofPhase phase history = [] → engine.run phase signature initial context = pure initial) ∧
        ∀ first, (ofPhase phase history).head? = some first →
          (first.signature ≠ signature →
            engine.run phase signature initial context = throw (.phaseType phase)) ∧
          (first.signature = signature → ∃ hooks : List (Hook family m signature),
            ofPhase phase (accepted history) = hooks.map (⟨phase, signature, ·⟩) ∧
              engine.run phase signature initial context =
                callInOrder phase context hooks initial)) ∧
    ∀ (σ : Type) (history : List (Registration family (StateM σ))) phase signature
      initial context before,
      ∀ first, (ofPhase phase history).head? = some first → first.signature = signature →
        ∃ hooks : List (Hook family (StateM σ) signature),
          ofPhase phase (accepted history) = hooks.map (⟨phase, signature, ·⟩) ∧
          let ended := ((afterAll history).run phase signature initial context).run.run before
          Ends phase context hooks initial before ended.1 ended.2 := by
  constructor
  · intro m _ _ history engine
    have rows : engine.Rows history (accepted history) := rows_afterAll history
    refine ⟨rows.hookNames, fun next => ?_, fun phase => rows.run phase⟩
    obtain ⟨duplicate, mismatch, fits⟩ := rows.register next
    exact ⟨duplicate, mismatch, fits, fun _ done => attemptAll_snoc_of_ok accept done,
      fun _ refused => attemptAll_snoc_of_error accept refused⟩
  · intro σ history phase signature initial context before first leads alike
    obtain ⟨-, byFirst⟩ := (rows_afterAll history).run phase signature initial context
    obtain ⟨hooks, own, ran⟩ := (byFirst first leads).2 alike
    refine ⟨hooks, own, ?_⟩
    rw [ran]
    exact callInOrder_ends phase context hooks initial before

/-- Phases of numbers and phases of texts. -/
def sampleFamily : PhaseFamily where
  Signature := Bool
  decideSignature := inferInstance
  Artifact
    | true => Nat
    | false => String
  Context _ := Unit

/-- A hook that notes its name and then adds one to a number, or fails. -/
def notingHook (name : String) (fails : Bool) : Hook sampleFamily (StateM (List String)) true :=
  ⟨name, fun value _ => ExceptT.mk fun calls =>
    (if fails then .error (.message "not today") else .ok (Nat.succ value), calls ++ [name])⟩

/-- Three hooks of one phase, the second of which fails, and a fourth under a name that is taken. -/
def sampleRegistrations : List (Registration sampleFamily (StateM (List String))) :=
  [⟨"count", true, notingHook "first" false⟩, ⟨"count", true, notingHook "second" true⟩,
    ⟨"count", true, notingHook "first" true⟩, ⟨"count", true, notingHook "third" false⟩]

theorem engine_refines_handlers_sample :
    (afterAll sampleRegistrations).hookNames "count" = ["first", "second", "third"] ∧
      (afterAll sampleRegistrations).accept ⟨"count", true, notingHook "third" false⟩ =
        .error (.duplicateHook "count" "third") ∧
      ((afterAll sampleRegistrations).run "count" true (0 : Nat) ()).run.run [] =
        (.error (.hookFailed "count" "second" (.message "not today")), ["first", "second"]) ∧
      ∃ hooks : List (Hook sampleFamily (StateM (List String)) true), hooks.length = 3 ∧
        Ends "count" () hooks (0 : Nat) ([] : List String)
          (.error (.hookFailed "count" "second" (.message "not today"))) ["first", "second"] := by
  obtain ⟨refines, runs⟩ := engine_refines_handlers sampleFamily
  obtain ⟨names, registers, -⟩ := refines (StateM (List String)) sampleRegistrations
  obtain ⟨listed, -⟩ := names "count"
  have named : (afterAll sampleRegistrations).hookNames "count" = ["first", "second", "third"] :=
    listed.trans rfl
  obtain ⟨duplicate, -⟩ := registers ⟨"count", true, notingHook "third" false⟩
  obtain ⟨hooks, own, ends⟩ := runs (List String) sampleRegistrations "count" true (0 : Nat) () []
    ⟨"count", true, notingHook "first" false⟩ rfl rfl
  refine ⟨named, duplicate (by rw [named]; decide), rfl, hooks, ?_, ends⟩
  have counted := congrArg List.length own
  rw [List.length_map] at counted
  exact counted.symm

end HookEngine

end CatalogSchema
