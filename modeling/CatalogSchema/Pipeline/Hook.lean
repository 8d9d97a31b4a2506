/-
**Phases of hooks.**

A phase is a row of named handlers. Running it folds a value through the handlers in the order of
their registration; the first that fails ends the run. The first registration fixes the types of a
phase, and every later use must agree.
-/

import CatalogSchema.Build.Error
import CatalogSchema.SortedMap

namespace CatalogSchema

/-- The signatures that phases may have, each with the types of its value and its context. -/
structure PhaseFamily where
  Signature : Type
  decideSignature : DecidableEq Signature
  /-- The value that a phase folds. -/
  Artifact : Signature → Type
  /-- What its handlers see besides. -/
  Context : Signature → Type

instance (family : PhaseFamily) : DecidableEq family.Signature := family.decideSignature

/-- A named handler of a phase. -/
structure Hook (family : PhaseFamily) (m : Type → Type) (signature : family.Signature) where
  name : String
  handler : family.Artifact signature → family.Context signature →
    ExceptT HookError m (family.Artifact signature)

/-- The handlers of a phase, in the order of their registration. Its names are those of the
handlers: a name is taken when a handler is added under it and never given back, so a list of names
of its own would hold the same. -/
structure Phase (family : PhaseFamily) (m : Type → Type) where
  signature : family.Signature
  hooks : List (Hook family m signature)

/-- Phases by name. -/
structure HookEngine (family : PhaseFamily) (m : Type → Type) where
  phases : SortedMap String (Phase family m)

namespace HookEngine

variable {family : PhaseFamily} {m : Type → Type}

/-- No phase. -/
def empty : HookEngine family m := ⟨.empty⟩

/-- The names of the hooks of a phase, in the order they run. -/
def hookNames (engine : HookEngine family m) (phase : String) : List String :=
  match engine.phases.find? phase with
  | none => []
  | some known => known.hooks.map (·.name)

/-- Adds a hook at the end of a phase. Its name must be free and its types those of the phase.

A phase is entered together with its first hook. To enter it empty and then look at the hook makes
no difference: an empty phase has no name that could be taken and the types of this very hook, so
the hook is added. No phase is left empty, and a refused hook leaves its phase as it was. -/
def register (engine : HookEngine family m) (phase : String) {signature : family.Signature}
    (hook : Hook family m signature) : Except PipelineError (HookEngine family m) :=
  match engine.phases.find? phase with
  | none => .ok ⟨engine.phases.insert phase ⟨signature, [hook]⟩⟩
  | some known =>
    if known.hooks.any (·.name = hook.name) then .error (.duplicateHook phase hook.name)
    else if same : signature = known.signature then
      .ok ⟨engine.phases.insert phase ⟨known.signature, known.hooks ++ [same ▸ hook]⟩⟩
    else .error (.phaseType phase)

/-- Folds a value through handlers; a failure names the phase and the handler. -/
def runHooks [Monad m] (phase : String) {signature : family.Signature}
    (context : family.Context signature) (hooks : List (Hook family m signature))
    (initial : family.Artifact signature) : ExceptT PipelineError m (family.Artifact signature) :=
  hooks.foldlM
    (fun value hook => ExceptT.adapt (.hookFailed phase hook.name) (hook.handler value context))
    initial

/-- Folds a value through the hooks of a phase. An unknown phase leaves the value as it is. -/
def run [Monad m] (engine : HookEngine family m) (phase : String) (signature : family.Signature)
    (initial : family.Artifact signature) (context : family.Context signature) :
    ExceptT PipelineError m (family.Artifact signature) :=
  match engine.phases.find? phase with
  | none => pure initial
  | some known =>
    if same : known.signature = signature then runHooks phase context (same ▸ known.hooks) initial
    else throw (.phaseType phase)

end HookEngine

end CatalogSchema
