/-
**Depth errors behind other errors.**

A hook, or the definition of a field, can fail with any error: a build error, the error of a phase
that it ran itself, or a text. `isRecursionLimit` follows the sources through descriptors, phases
and build errors, and stops at the error of a phase that a hook passes on as it is. So it tells
which errors end in the depth limit, as long as every hook on the way made a build error of what it
passes on.

* `BuildError.chain_ne_nil`: every error has a kind, so the innermost error is what a chain ends in.
* `BuildError.isRecursionLimit_iff`: what is recognised, exactly.
-/

import CatalogSchema.Build.Error

namespace CatalogSchema

mutual

/-- Every error of a hook behind a build error is a build error or a text. -/
def BuildError.Converted : BuildError → Prop
  | .typeResolution _ _ source => source.Converted
  | .pipeline error => error.Converted
  | _ => True

/-- Every error of a hook behind the error of a phase is a build error or a text. -/
def PipelineError.Converted : PipelineError → Prop
  | .hookFailed _ _ source => source.Converted
  | .fieldDefinition _ source => source.Converted
  | _ => True

/-- The error of a hook is a build error or a text, and so is every one behind it. -/
def HookError.Converted : HookError → Prop
  | .build error => error.Converted
  | .pipeline _ => False
  | .message _ => True

end

/-- The kinds of a chain end in the depth limit. -/
def EndsInLimit (kinds : List String) : Prop := kinds.getLast? = some "RecursionLimit"

instance (kinds : List String) : Decidable (EndsInLimit kinds) :=
  inferInstanceAs (Decidable (_ = _))

/-! ### The end of a chain -/

/-- Every error has a kind. -/
theorem BuildError.chain_ne_nil (error : BuildError) : error.chain ≠ [] := by
  cases error with
  | _ => exact List.cons_ne_nil _ _

theorem PipelineError.chain_ne_nil (error : PipelineError) : error.chain ≠ [] := by
  cases error with
  | _ => exact List.cons_ne_nil _ _

theorem HookError.chain_ne_nil (error : HookError) : error.chain ≠ [] := by
  cases error with
  | build error => exact error.chain_ne_nil
  | pipeline error => exact error.chain_ne_nil
  | message text => exact List.cons_ne_nil _ _

/-- A kind in front does not change what a chain ends in. -/
theorem endsInLimit_cons {kind : String} {kinds : List String} (present : kinds ≠ []) :
    EndsInLimit (kind :: kinds) ↔ EndsInLimit kinds := by
  unfold EndsInLimit
  rw [List.getLast?_cons_of_ne_nil present]

/-- An error that wraps none ends in its own kind. -/
theorem not_endsInLimit_singleton {kind : String} (other : kind ≠ "RecursionLimit") :
    ¬ EndsInLimit [kind] :=
  fun ended => other (Option.some.inj ended)

/-! ### What is recognised -/

/-- What is recognised behind a hook: a build error alone. -/
def HookError.isRecursionLimit : HookError → Bool
  | .build error => error.isRecursionLimit
  | .pipeline _ => false
  | .message _ => false

/-- What is recognised behind a phase: the error of a hook or of a field's definition. -/
def PipelineError.isRecursionLimit : PipelineError → Bool
  | .hookFailed _ _ source => source.isRecursionLimit
  | .fieldDefinition _ source => source.isRecursionLimit
  | _ => false

theorem BuildError.isRecursionLimit_pipeline (error : PipelineError) :
    (BuildError.pipeline error).isRecursionLimit = error.isRecursionLimit := by
  cases error with
  | hookFailed _ _ source => cases source <;> rfl
  | fieldDefinition _ source => cases source <;> rfl
  | _ => rfl

mutual

/-- **What is recognised, exactly**: an error that ends in the depth limit, with every error of a
hook on the way a build error. -/
theorem BuildError.isRecursionLimit_iff (error : BuildError) :
    error.isRecursionLimit = true ↔ EndsInLimit error.chain ∧ error.Converted := by
  cases error with
  | recursionLimit typeName kind limit => exact ⟨fun _ => ⟨rfl, trivial⟩, fun _ => rfl⟩
  | typeResolution typeName kind source =>
    rw [BuildError.chain, endsInLimit_cons source.chain_ne_nil]
    exact source.isRecursionLimit_iff
  | pipeline error =>
    rw [BuildError.isRecursionLimit_pipeline, BuildError.chain, endsInLimit_cons error.chain_ne_nil]
    exact error.isRecursionLimit_iff
  | _ => exact ⟨nofun, fun ended => absurd ended.1 (not_endsInLimit_singleton (by decide))⟩

theorem PipelineError.isRecursionLimit_iff (error : PipelineError) :
    error.isRecursionLimit = true ↔ EndsInLimit error.chain ∧ error.Converted := by
  cases error with
  | hookFailed phase hook source =>
    rw [PipelineError.chain, endsInLimit_cons source.chain_ne_nil]
    exact source.isRecursionLimit_iff
  | fieldDefinition field source =>
    rw [PipelineError.chain, endsInLimit_cons source.chain_ne_nil]
    exact source.isRecursionLimit_iff
  | _ => exact ⟨nofun, fun ended => absurd ended.1 (not_endsInLimit_singleton (by decide))⟩

theorem HookError.isRecursionLimit_iff (error : HookError) :
    error.isRecursionLimit = true ↔ EndsInLimit error.chain ∧ error.Converted := by
  cases error with
  | build error => exact error.isRecursionLimit_iff
  | pipeline error => exact ⟨nofun, fun ended => ended.2.elim⟩
  | message text =>
    exact ⟨nofun, fun ended => absurd ended.1 (not_endsInLimit_singleton (by decide))⟩

end

/-! ### Errors that are recognised -/

/-- If the error ends in the depth limit, it is recognised. -/
def BuildError.Recognised (error : BuildError) : Prop := EndsInLimit error.chain → error.Converted

/-- If the error of a phase ends in the depth limit, it is recognised. -/
def PipelineError.Recognised (error : PipelineError) : Prop :=
  EndsInLimit error.chain → error.Converted

/-- If the error of a hook ends in the depth limit, it is recognised. -/
def HookError.Recognised (error : HookError) : Prop := EndsInLimit error.chain → error.Converted

theorem BuildError.Recognised.iff {error : BuildError} (recognised : error.Recognised) :
    error.isRecursionLimit = true ↔ EndsInLimit error.chain :=
  error.isRecursionLimit_iff.trans (and_iff_left_of_imp recognised)

theorem BuildError.Recognised.typeResolution {source : BuildError} (recognised : source.Recognised)
    (typeName : String) (kind : TypeKind) :
    (BuildError.typeResolution typeName kind source).Recognised :=
  fun ended => recognised ((endsInLimit_cons source.chain_ne_nil).1 ended)

theorem PipelineError.Recognised.pipeline {error : PipelineError} (recognised : error.Recognised) :
    (BuildError.pipeline error).Recognised :=
  fun ended => recognised ((endsInLimit_cons error.chain_ne_nil).1 ended)

theorem HookError.Recognised.hookFailed {source : HookError} (recognised : source.Recognised)
    (phase hook : String) : (PipelineError.hookFailed phase hook source).Recognised :=
  fun ended => recognised ((endsInLimit_cons source.chain_ne_nil).1 ended)

/-! ### Errors that do not end in the depth limit -/

/-- The error of a phase ends in another error than the depth limit. -/
def PipelineError.Shallow (error : PipelineError) : Prop := ¬ EndsInLimit error.chain

/-- The error of a hook ends in another error than the depth limit. -/
def HookError.Shallow (error : HookError) : Prop := ¬ EndsInLimit error.chain

theorem HookError.Shallow.hookFailed {source : HookError} (shallow : source.Shallow)
    (phase hook : String) :
    (PipelineError.hookFailed phase hook source).Shallow :=
  fun ended => shallow ((endsInLimit_cons source.chain_ne_nil).1 ended)

theorem PipelineError.Shallow.recognised {error : PipelineError} (shallow : error.Shallow) :
    error.Recognised :=
  fun ended => absurd ended shallow

/-- A hook may pass such an error of a phase on as it is. -/
theorem PipelineError.Shallow.passed {error : PipelineError} (shallow : error.Shallow) :
    (HookError.pipeline error).Recognised :=
  fun ended => absurd ended shallow

theorem HookError.Shallow.recognised {error : HookError} (shallow : error.Shallow) :
    error.Recognised :=
  fun ended => absurd ended shallow

theorem HookError.shallow_message (text : String) : (HookError.message text).Shallow :=
  not_endsInLimit_singleton (by decide)

end CatalogSchema
