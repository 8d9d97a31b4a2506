/-
**The errors of resolution.**

An error of resolving an id is one of three. The id is not in the catalog, and the error names its
referrer. The levels are used up at a descriptor below the id, and the error names this descriptor.
Or a descriptor below the id cannot be made, and the error names it once, around the cause.

* `Catalog.Cause`: why a descriptor cannot be made.
* `ResolutionFault`: the three errors.
* `Resolve.searchFault_of_askChild`, `Resolve.error_of_complete`: the errors of looking for the
  child of a type and of making the type over it.
* `ResolveFailure`: what makes a resolution fail, step by step from the id to where it stops.
* `Resolve.failure_of_resolveAt`: nothing else does.
* `Resolve.fault_of_resolveAt`: every error of a resolution is one of the three, whatever is
  settled.
* `resolution_faults`: the same for an id that a caller asks for.
-/

import CatalogSchema.Proofs.Concluding
import CatalogSchema.Proofs.Naming.Members
import CatalogSchema.Proofs.Resolution.Depth

namespace CatalogSchema

open Resolve

/-! ### Errors -/

/-- Why a descriptor that is met a number of steps below an id cannot be made. -/
inductive Catalog.Cause (catalog : Catalog) (id : TypeId) (steps : Nat) : BuildError → Prop
  /-- A descriptor from there on refers to a child that the catalog does not have. -/
  | missing {further : Nat} {referrer : Descriptor} {childId : TypeId} (below : steps ≤ further)
      (met : catalog.descendant? further id = some referrer)
      (refers : referrer.childId? = some childId) (unknown : catalog.find? childId = none) :
      Cause catalog id steps (.missingDescriptor childId referrer.displayName)
  | configuration (fault : ConfigurationFault) : Cause catalog id steps (.configuration fault)
  | collision (typeName name first second : String) :
      Cause catalog id steps (.enumNameCollision typeName name first second)

/-- An error of resolving an id, for a referrer with a name. -/
inductive ResolutionFault (setting : Setting) (id : TypeId) (referrer : String) : BuildError → Prop
  | unknown (unknown : setting.catalog.find? id = none) :
      ResolutionFault setting id referrer (.missingDescriptor id referrer)
  | tooDeep {steps : Nat} {last : Descriptor}
      (met : setting.catalog.descendant? steps id = some last) :
      ResolutionFault setting id referrer
        (.recursionLimit last.displayName last.kind setting.config.depthLimit)
  | within {steps : Nat} {last : Descriptor} {cause : BuildError}
      (met : setting.catalog.descendant? steps id = some last)
      (because : setting.catalog.Cause id steps cause) :
      ResolutionFault setting id referrer (.typeResolution last.displayName last.kind cause)

/-! ### From a child to its parent -/

section Child

variable {setting : Setting} {id childId : TypeId} {descriptor : Descriptor} {error : BuildError}

theorem Catalog.Cause.of_child {catalog : Catalog} {steps : Nat}
    (known : catalog.find? id = some descriptor) (child : descriptor.childId? = some childId)
    (cause : catalog.Cause childId steps error) :
    catalog.Cause id (steps + 1) error := by
  cases cause with
  | missing below met refers unknown =>
    exact .missing (Nat.succ_le_succ below) ((descendant?_succ known child _).trans met)
      refers unknown
  | configuration fault => exact .configuration fault
  | collision typeName name first second => exact .collision typeName name first second

/-- What keeps a descriptor from being made keeps one above it from being made. -/
theorem Catalog.Cause.mono {catalog : Catalog} {steps fewer : Nat} (few : fewer ≤ steps)
    (cause : catalog.Cause id steps error) : catalog.Cause id fewer error := by
  cases cause with
  | missing below met refers unknown => exact .missing (few.trans below) met refers unknown
  | configuration fault => exact .configuration fault
  | collision typeName name first second => exact .collision typeName name first second

/-- A cause becomes an error that names the descriptor. -/
theorem Catalog.Cause.resolving (known : setting.catalog.find? id = some descriptor)
    (cause : setting.catalog.Cause id 0 error) (referrer : String) :
    ResolutionFault setting id referrer (error.resolving descriptor) := by
  have met : setting.catalog.descendant? 0 id = some descriptor := known
  have named : ResolutionFault setting id referrer
      (.typeResolution descriptor.displayName descriptor.kind error) :=
    .within met cause
  -- No cause is among the errors that are passed on without a name.
  cases cause with
  | missing | configuration | collision => exact named

/-- **An error of the child** names a descriptor already, unless the child is not in the catalog. -/
theorem ResolutionFault.of_child (known : setting.catalog.find? id = some descriptor)
    (child : descriptor.childId? = some childId)
    (fault : ResolutionFault setting childId descriptor.displayName error) (referrer : String) :
    ResolutionFault setting id referrer (error.resolving descriptor) := by
  -- Only the first is given a name here; the others have one and pass unchanged.
  cases fault with
  | unknown unknown =>
    exact Catalog.Cause.resolving known (.missing (Nat.le_refl 0) known child unknown) referrer
  | tooDeep met => exact .tooDeep ((Catalog.descendant?_succ known child _).trans met)
  | within met because =>
    exact .within ((Catalog.descendant?_succ known child _).trans met)
      (because.of_child known child)

end Child

namespace Resolve

variable {setting : Setting} {remaining : Nat} {id : TypeId} {descriptor : Descriptor}
  {error : BuildError}

/-! ### Looking for the child -/

/-- An error of looking for the child of a descriptor: a cause, or too many domains below a
range. -/
def SearchFault (setting : Setting) (id : TypeId) (error : BuildError) : Prop :=
  setting.catalog.Cause id 0 error ∨
    ∃ steps last, setting.catalog.descendant? steps id = some last ∧ error = tooDeep setting last

theorem SearchFault.of_child {childId : TypeId} (known : setting.catalog.find? id = some descriptor)
    (child : descriptor.childId? = some childId) (fault : SearchFault setting childId error) :
    SearchFault setting id error := by
  rcases fault with cause | ⟨steps, last, met, rfl⟩
  · exact .inl ((cause.of_child known child).mono (Nat.zero_le 1))
  · exact .inr ⟨steps + 1, last, (Catalog.descendant?_succ known child steps).trans met, rfl⟩

theorem SearchFault.resolving (known : setting.catalog.find? id = some descriptor)
    (fault : SearchFault setting id error) (referrer : String) :
    ResolutionFault setting id referrer (error.resolving descriptor) := by
  rcases fault with cause | ⟨steps, last, met, rfl⟩
  · exact cause.resolving known referrer
  · exact .tooDeep met

/-- A child that is not in the catalog is blamed on the descriptor. -/
theorem cause_of_require {childId : TypeId} (known : setting.catalog.find? id = some descriptor)
    (child : descriptor.childId? = some childId)
    (failed : setting.catalog.require childId (some descriptor) = .error error) :
    setting.catalog.Cause id 0 error := by
  cases unknown : setting.catalog.find? childId with
  | some childDescriptor =>
    rw [Catalog.require_eq_ok unknown] at failed
    cases failed
  | none =>
    rw [Catalog.require_eq_error unknown] at failed
    cases failed
    exact .missing (Nat.le_refl 0) known child unknown

/-- **The walk over domains** names the domain where it stops. -/
theorem searchFault_of_domainBottom (known : setting.catalog.find? id = some descriptor)
    (failed : domainBottom setting remaining descriptor = .error error) :
    SearchFault setting id error := by
  induction remaining generalizing id descriptor with
  | zero =>
    unfold domainBottom at failed
    split at failed
    · cases failed
      exact .inr ⟨0, descriptor, known, rfl⟩
    · cases failed
  | succ remaining ih =>
    unfold domainBottom at failed
    split at failed
    · rename_i domain
      dsimp only at failed
      cases refers : descriptor.domainBase with
      | none =>
        rw [refers] at failed
        cases failed
      | some baseId =>
        rw [refers] at failed
        dsimp only at failed
        have child : descriptor.childId? = some baseId :=
          (Descriptor.childId?_of_domain domain).trans refers
        rcases bind_eq_error_iff.1 failed with missing | ⟨base, required, later⟩
        · exact .inl (cause_of_require known child missing)
        · exact (ih (Catalog.find?_of_require required) later).of_child known child
    · cases failed

/-- **What keeps a child from being asked for.** -/
theorem searchFault_of_askChild {role : ChildRole}
    (known : setting.catalog.find? id = some descriptor) (rests : descriptor.builtOver = some role)
    (refused : askChild setting remaining descriptor role = .error error) :
    SearchFault setting id error := by
  unfold askChild at refused
  cases inRole : descriptor.child? role with
  | none =>
    rw [inRole] at refused
    cases refused
    exact .inl (.configuration _)
  | some childId =>
    rw [inRole] at refused
    dsimp only at refused
    have child : descriptor.childId? = some childId := by
      rw [Descriptor.childId?, rests, Option.bind_some, inRole]
    split at refused
    · unfold askSubtype at refused
      rcases bind_eq_error_iff.1 refused with missing | ⟨sub, required, walk⟩
      · exact .inl (cause_of_require known child missing)
      · rcases bind_eq_error_iff.1 walk with stopped | ⟨bottom, -, composite⟩
        · exact (searchFault_of_domainBottom (Catalog.find?_of_require required) stopped).of_child
            known child
        · split at composite <;> cases composite
          exact .inl (.configuration _)
    · cases refused

/-! ### Making the type -/

/-- A new name is always given. -/
theorem throws_rename {fault : BuildError → Prop} (name : String) (description : Option String)
    (type : SchemaType) : Throws fault (rename name description type) := by
  unfold rename
  split
  · exact .pure trivial
  · exact .pure trivial
  · exact .modifyGet _

/-- A type over a child that is not in the catalog is not made, even if the child is settled. -/
theorem throws_complete_of_unknown {fault : BuildError → Prop} {childId : TypeId}
    (unknown : setting.catalog.find? childId = none)
    (blamed : fault (.missingDescriptor childId descriptor.displayName)) (role : ChildRole)
    (entry : TypeEntry) :
    Throws fault (complete setting descriptor role childId entry) := by
  have missing : Concludes fault (fun _ => False)
      (ofExcept (setting.catalog.require childId (some descriptor)) : Resolve Descriptor) := by
    rw [Catalog.require_eq_error unknown]
    exact .throw blamed
  cases role with
  | arrayItem => exact missing.bind fun _ impossible => impossible.elim
  | rangeSubtype => exact missing.bind fun _ impossible => impossible.elim
  | domainBase =>
    refine .bind (throws_rename _ _ _) fun output _ =>
      .bind (.optionMapM fun type => ?_) fun _ _ => ?_
    · split
      · exact .pure trivial
      · exact throws_rename _ _ _
    · exact missing.bind fun _ impossible => impossible.elim

/-- **What keeps a type from being made over its child**: the child is not in the catalog, or has no
name. -/
theorem error_of_complete {childId : TypeId} {role : ChildRole} {entry : TypeEntry}
    {registry : Registry}
    (failed : (runOn (complete setting descriptor role childId entry) registry).1 = .error error) :
    setting.catalog.find? childId = none ∧
      error = .missingDescriptor childId descriptor.displayName ∨
      ∃ subtype schemaType, error = .configuration (.unnamedSubtype subtype schemaType) := by
  cases knownChild : setting.catalog.find? childId with
  | none =>
    have missing : Throws (· = .missingDescriptor childId descriptor.displayName)
        (complete setting descriptor role childId entry) := by
      refine throws_complete_of_unknown knownChild ?_ role entry
      rfl
    exact .inl ⟨rfl, (missing registry).1 error failed⟩
  | some childDescriptor =>
    rcases runOn_complete descriptor knownChild role entry registry with
      ⟨_, _, _, ran, -⟩ | ⟨-, -, ran⟩
    · rw [ran] at failed
      cases failed
    · rw [ran] at failed
      cases failed
      exact .inr ⟨_, _, rfl⟩

/-- A type without a child is not made if its labels collide. -/
theorem error_of_standalone {registry : Registry}
    (failed : (runOn (standalone setting descriptor) registry).1 = .error error) :
    ∃ typeName name first second, error = .enumNameCollision typeName name first second := by
  rcases runOn_standalone setting descriptor registry with ⟨_, _, _, ran, -⟩ |
    ⟨other, -, collide, ran⟩
  · rw [ran] at failed
    cases failed
  · rw [ran] at failed
    cases failed
    obtain ⟨first, second, -, rfl⟩ := enumMembers_eq_error_iff.1 collide
    exact ⟨_, _, _, _, rfl⟩

/-! ### What makes a resolution fail -/

/-- **What makes a resolution fail** within a number of levels: the id is not in the catalog, or no
level is left; the labels of the type collide; its child may not be asked for, or fails in its turn;
or the type cannot be made over what the child became. -/
inductive ResolveFailure (setting : Setting) : Nat → TypeId → Option Descriptor → BuildError → Prop
  | unknown {levels : Nat} {id : TypeId} {referrer : Option Descriptor}
      (unknown : setting.catalog.find? id = none) :
      ResolveFailure setting levels id referrer
        (.missingDescriptor id ((referrer.map Descriptor.displayName).getD "the caller"))
  | tooDeep {id : TypeId} {referrer : Option Descriptor} {descriptor : Descriptor}
      (known : setting.catalog.find? id = some descriptor) :
      ResolveFailure setting 0 id referrer
        (.recursionLimit descriptor.displayName descriptor.kind setting.config.depthLimit)
  | collision {levels : Nat} {id : TypeId} {referrer : Option Descriptor} {descriptor : Descriptor}
      (known : setting.catalog.find? id = some descriptor) (typeName name first second : String) :
      ResolveFailure setting (levels + 1) id referrer
        ((BuildError.enumNameCollision typeName name first second).resolving descriptor)
  | refused {levels : Nat} {id : TypeId} {referrer : Option Descriptor} {descriptor : Descriptor}
      {role : ChildRole} {error : BuildError} (known : setting.catalog.find? id = some descriptor)
      (rests : descriptor.builtOver = some role)
      (refused : askChild setting levels descriptor role = .error error) :
      ResolveFailure setting (levels + 1) id referrer (error.resolving descriptor)
  | childFailed {levels : Nat} {id childId : TypeId} {referrer : Option Descriptor}
      {descriptor : Descriptor}
      {error : BuildError} (known : setting.catalog.find? id = some descriptor)
      (child : descriptor.childId? = some childId)
      (below : ResolveFailure setting levels childId (some descriptor) error) :
      ResolveFailure setting (levels + 1) id referrer (error.resolving descriptor)
  | unknownChild {levels : Nat} {id childId : TypeId} {referrer : Option Descriptor}
      {descriptor : Descriptor}
      (known : setting.catalog.find? id = some descriptor)
      (child : descriptor.childId? = some childId)
      (unknown : setting.catalog.find? childId = none) :
      ResolveFailure setting (levels + 1) id referrer
        ((BuildError.missingDescriptor childId descriptor.displayName).resolving descriptor)
  | unnamed {levels : Nat} {id : TypeId} {referrer : Option Descriptor} {descriptor : Descriptor}
      (known : setting.catalog.find? id = some descriptor) (subtype schemaType : String) :
      ResolveFailure setting (levels + 1) id referrer
        ((BuildError.configuration (.unnamedSubtype subtype schemaType)).resolving descriptor)

section Failure

variable {registry : Registry} {referrer : Option Descriptor}

/-- What makes a type over its child fail, given what makes the child fail. -/
theorem failure_of_runOver {resolveChild : TypeId → Resolve TypeEntry} {role : ChildRole}
    (known : setting.catalog.find? id = some descriptor) (rests : descriptor.builtOver = some role)
    (below : ∀ childId other, (runOn (resolveChild childId) registry).1 = .error other →
      ResolveFailure setting remaining childId (some descriptor) other)
    (failed : (runOver setting remaining resolveChild descriptor role registry).1 = .error error) :
    ResolveFailure setting (remaining + 1) id referrer (error.resolving descriptor) := by
  unfold runOver at failed
  cases asked : askChild setting remaining descriptor role with
  | error other =>
    rw [asked] at failed
    cases failed
    exact .refused known rests asked
  | ok childId =>
    rw [asked] at failed
    dsimp only at failed
    have child : descriptor.childId? = some childId := by
      rw [Descriptor.childId?, rests, Option.bind_some, child?_of_askChild asked]
    rcases ran : runOn (resolveChild childId) registry with ⟨other | entry, after⟩
    · rw [ran] at failed
      cases failed
      exact .childFailed known child (below childId error (congrArg Prod.fst ran))
    · rw [ran] at failed
      rcases error_of_complete failed with ⟨unknown, rfl⟩ | ⟨_, _, rfl⟩
      · exact .unknownChild known child unknown
      · exact .unnamed known _ _

/-- What makes a synthesis fail. An override never does. -/
theorem failure_of_synthesize {resolveChild : TypeId → Resolve TypeEntry}
    (known : setting.catalog.find? id = some descriptor)
    (below : ∀ childId other, (runOn (resolveChild childId) registry).1 = .error other →
      ResolveFailure setting remaining childId (some descriptor) other)
    (failed : (runOn (synthesize setting remaining resolveChild id descriptor) registry).1 =
      .error error) :
    ResolveFailure setting (remaining + 1) id referrer (error.resolving descriptor) := by
  rw [runOn_synthesize] at failed
  cases overridden : registry.overrides.find? id with
  | some mapping =>
    rw [overridden] at failed
    cases failed
  | none =>
    rw [overridden] at failed
    cases rests : descriptor.builtOver with
    | none =>
      rw [rests] at failed
      obtain ⟨_, _, _, _, rfl⟩ := error_of_standalone failed
      exact .collision known _ _ _ _
    | some role =>
      rw [rests] at failed
      exact failure_of_runOver known rests below failed

/-- **Nothing else makes a resolution fail**, whatever is settled or overridden. -/
theorem failure_of_resolveAt
    (failed : (runOn (resolveAt setting remaining id referrer) registry).1 = .error error) :
    ResolveFailure setting remaining id referrer error := by
  -- By induction on the levels that remain. Nothing is asked of the registry: what is settled never
  -- fails.
  induction remaining generalizing id referrer error with
  | zero =>
    have free := free_of_resolveAt_error failed
    rw [runOn_resolveAt_zero, free] at failed
    cases known : setting.catalog.find? id with
    | none =>
      rw [Catalog.require_eq_error known] at failed
      cases failed
      exact .unknown known
    | some descriptor =>
      rw [Catalog.require_eq_ok known] at failed
      cases failed
      exact .tooDeep known
  | succ remaining ih =>
    have free := free_of_resolveAt_error failed
    rw [runOn_resolveAt_succ, free] at failed
    cases known : setting.catalog.find? id with
    | none =>
      rw [Catalog.require_eq_error known] at failed
      cases failed
      exact .unknown known
    | some descriptor =>
      rw [Catalog.require_eq_ok known] at failed
      dsimp only at failed
      rcases ran : runOn (synthesize setting remaining
        (fun child => resolveAt setting remaining child (some descriptor)) id
        descriptor) registry with
        ⟨other | ⟨entry, codec⟩, after⟩
      · rw [ran] at failed
        cases failed
        exact failure_of_synthesize known (fun childId other refused => ih refused)
          (congrArg Prod.fst ran)
      · rw [ran] at failed
        cases failed

/-- **Every failure is one of the three errors**: what fails at a child is at fault one step further
down. -/
theorem fault_of_failure (failure : ResolveFailure setting remaining id referrer error) :
    ResolutionFault setting id ((referrer.map Descriptor.displayName).getD "the caller") error := by
  induction failure with
  | unknown unknown => exact .unknown unknown
  | @tooDeep id _ descriptor known =>
    have met : setting.catalog.descendant? 0 id = some descriptor := known
    exact .tooDeep met
  | collision known => exact (Catalog.Cause.collision _ _ _ _).resolving known _
  | refused known rests refused =>
    exact (searchFault_of_askChild known rests refused).resolving known _
  | childFailed known child _ ih => exact ih.of_child known child _
  | @unknownChild _ id childId _ descriptor known child unknown =>
    have cause : setting.catalog.Cause id 0 (.missingDescriptor childId descriptor.displayName) :=
      .missing (Nat.le_refl 0) known child unknown
    exact cause.resolving known _
  | unnamed known => exact (Catalog.Cause.configuration _).resolving known _

/-- **Every error of a resolution is one of the three**, whatever is settled or overridden. -/
theorem fault_of_resolveAt
    (failed : (runOn (resolveAt setting remaining id referrer) registry).1 = .error error) :
    ResolutionFault setting id ((referrer.map Descriptor.displayName).getD "the caller") error :=
  fault_of_failure (failure_of_resolveAt failed)

end Failure

/-! ### What callers ask for -/

section Callers

variable {fault : BuildError → Prop}

theorem throws_entry (each : ∀ error, ResolutionFault setting id "the caller" error → fault error) :
    Throws fault (entry setting id) :=
  fun _ => ⟨fun error failed => each error (fault_of_resolveAt failed), fun _ _ => trivial⟩

theorem throws_output (throws : Throws fault (entry setting id)) :
    Throws fault (output setting id) :=
  throws.bind fun _ _ => .pure trivial

theorem throws_setOutput (throws : Throws fault (entry setting id)) :
    Throws fault (setOutput setting id) := by
  unfold setOutput
  refine .bind .get fun registry _ => ?_
  split
  · exact .pure trivial
  · refine .bind (throws_output throws) fun item _ => ?_
    have listed (item : SchemaType) : Throws fault (do
        let type ← make (·.list item)
        modify fun registry => { registry with sets := registry.sets.insert id type }
        return type) :=
      .bind (.modifyGet _) fun _ _ => .bind (.modify _) fun _ _ => .pure trivial
    split
    · exact .bind (.modifyGet _) fun _ _ => listed _
    · exact .bind (.pure trivial) fun _ (_ : True) => listed _

end Callers

end Resolve

/-- **The errors of resolution.** However deep the descriptor at fault is, an entry fails with one
of three errors: the id is not in the catalog, and then it is always this error; or the limit is
reached, at a descriptor below the id; or a descriptor below the id cannot be made, and is named
once, around the cause. -/
theorem resolution_faults {setting : Setting} {registry : Registry}
    (reachable : Reachable setting registry) (id : TypeId) :
    (∀ error, (runOn (Resolve.entry setting id) registry).1 = .error error →
      ResolutionFault setting id "the caller" error) ∧
    ((runOn (Resolve.entry setting id) registry).1 = .error (.missingDescriptor id "the caller") ↔
      setting.catalog.find? id = none) := by
  have faults (error : BuildError)
      (failed : (runOn (Resolve.entry setting id) registry).1 = .error error) :
      ResolutionFault setting id "the caller" error := fault_of_resolveAt failed
  refine ⟨faults, fun failed => ?_, fun unknown => ?_⟩
  · cases faults _ failed with
    | unknown unknown => exact unknown
  · have described := reachable.sound.described
    have free : registry.types.find? id = none := by
      cases settled : registry.types.find? id with
      | none => rfl
      | some entry =>
        obtain ⟨descriptor, known⟩ := described id entry settled
        cases unknown.symm.trans known
    exact (resolveAt_resolves described setting.config.depthLimit id none).of_unknown free unknown

/-- An id that is not in the catalog, and a range over it. -/
theorem resolution_faults_gaps :
    Reachable sampleSetting sampleRegistry ∧
      (runOn (Resolve.entry sampleSetting 999) sampleRegistry).1 =
        .error (.missingDescriptor 999 "the caller") ∧
      ∃ error, (runOn (Resolve.entry sampleSetting 105) sampleRegistry).1 = .error error ∧
        error.chain = ["TypeResolution", "MissingDescriptor"] ∧
        ResolutionFault sampleSetting 105 "the caller" error := by
  obtain ⟨-, unknown⟩ := resolution_faults sampleRegistry_reachable 999
  obtain ⟨faults, -⟩ := resolution_faults sampleRegistry_reachable 105
  obtain ⟨error, failed, kinds⟩ := exists_of_failsWith
    (fun error => decide (error.chain = ["TypeResolution", "MissingDescriptor"]))
    (runOn (Resolve.entry sampleSetting 105) sampleRegistry).1 (by decide +kernel)
  exact ⟨sampleRegistry_reachable, unknown.2 rfl, error, failed, of_decide_eq_true kinds,
    faults error failed⟩

end CatalogSchema
