/-
**What hooks record on the way.**

A hook of the field phase that leaves notices keeps a record of the fields it was called on.
`Records` says by how much a step of a build lets such a record grow: by certain sights in their
order, and between them only by sights that are extra; up to the failure, if the step fails.

* `Woven`: sights with extra ones between them. Without extra ones it is the list itself
  (`woven_iff_eq`).
* `records_of_keeps`: a step that leaves no notice lets no record grow.
* `Records.bind`, `Records.mapM`: two steps in a row and a loop let it grow by the sights of each in
  turn.
* `records_runHooks`: among hooks of which one records and the others do not, the one counts.
-/

import CatalogSchema.Proofs.Build.Hooks
import Mathlib.Data.List.Infix
import Mathlib.Data.List.Perm.Basic

namespace CatalogSchema

open Build

/-! ### Sights -/

/-- A call of a hook of the field phase: the name of the field and its scope. -/
structure Sight where
  fieldName : String
  scope : FieldScope

/-- What a hook of the field phase sees. -/
def FieldContext.sight (context : FieldContext) : Sight := ⟨context.fieldName, context.scope⟩

/-- What a definition carries. -/
def FieldDefinition.sight {S : Type} (field : FieldDefinition S) : Sight :=
  ⟨field.name, field.scope⟩

/-- Reads the calls of a hook off the notices of a build. -/
abbrev Record := List Notice → List Sight

/-- Sights in their order, with extra ones anywhere between them. -/
inductive Woven (extra : Sight → Prop) : List Sight → List Sight → Prop
  | nil : Woven extra [] []
  | own (sight : Sight) {sights seen : List Sight} :
      Woven extra sights seen → Woven extra (sight :: sights) (sight :: seen)
  | extra {sight : Sight} {sights seen : List Sight} :
      extra sight → Woven extra sights seen → Woven extra sights (sight :: seen)

section Woven

variable {extra : Sight → Prop} {sights early late seen seenLate : List Sight}

theorem woven_refl (extra : Sight → Prop) : ∀ sights : List Sight, Woven extra sights sights
  | [] => .nil
  | sight :: sights => .own sight (woven_refl extra sights)

theorem Woven.append (first : Woven extra early seen) (second : Woven extra late seenLate) :
    Woven extra (early ++ late) (seen ++ seenLate) := by
  induction first with
  | nil => exact second
  | own sight _ ih => exact .own sight ih
  | extra isExtra _ ih => exact .extra isExtra ih

/-- Sights that are all extra need not be named. -/
theorem Woven.drop (woven : Woven extra sights seen) (all : ∀ sight ∈ sights, extra sight) :
    Woven extra [] seen := by
  induction woven with
  | nil => exact .nil
  | own sight _ ih =>
    exact .extra (all sight List.mem_cons_self) (ih fun other listed => all other (.tail _ listed))
  | extra isExtra _ ih => exact .extra isExtra (ih all)

theorem woven_iff_eq (none : ∀ sight, ¬extra sight) : Woven extra sights seen ↔ seen = sights := by
  refine ⟨fun woven => ?_, ?_⟩
  · induction woven with
    | nil => rfl
    | own sight _ ih => rw [ih]
    | extra isExtra _ _ => exact absurd isExtra (none _)
  · rintro rfl
    exact woven_refl extra seen

end Woven

/-! ### Steps that record -/

namespace Build

/-- A step lets a record grow by these sights, and by extra ones; up to the point where it fails. -/
def Records {ε α : Type} (extra : Sight → Prop) (record : Record)
    (step : ExceptT ε (StateM Workspace) α) (sights : List Sight) : Prop :=
  ∀ before, ∃ seen, record (runIn step before).2.notices = record before.notices ++ seen ∧
    (∃ part, part <+: sights ∧ Woven extra part seen) ∧
    ∀ result after, Yields step before result after → Woven extra sights seen

section Rules

variable {extra : Sight → Prop} {record : Record} {ε ε' α β : Type} {sights early late : List Sight}
  {step : ExceptT ε (StateM Workspace) α}

theorem runIn_bind (step : ExceptT ε (StateM Workspace) α)
    (next : α → ExceptT ε (StateM Workspace) β) (before : Workspace) :
    runIn (step >>= next) before =
      match runIn step before with
      | (.ok value, between) => runIn (next value) between
      | (.error error, between) => (.error error, between) := by
  unfold runIn
  rw [ExceptT.run_bind, StateT.run_bind]
  generalize step.run.run before = ran
  rcases ran with ⟨error | value, between⟩
  · rfl
  · rfl

theorem runIn_adapt (change : ε → ε') (step : ExceptT ε (StateM Workspace) α) (before : Workspace) :
    (runIn (ExceptT.adapt change step) before).2 = (runIn step before).2 := by
  unfold runIn
  show (Id.run ((Except.mapError change <$> step.run).run before)).2 = _
  rw [StateT.run_map]
  rfl

/-- A step that leaves no notice. -/
theorem records_of_keeps (keeps : ∀ before, (runIn step before).2.notices = before.notices) :
    Records extra record step [] := by
  intro before
  refine ⟨[], ?_, ⟨[], List.prefix_refl _, .nil⟩, fun _ _ _ => .nil⟩
  rw [keeps, List.append_nil]

/-- A step that fails at once. -/
theorem records_throw (error : ε) (sights : List Sight) :
    Records extra record (throw error : ExceptT ε (StateM Workspace) α) sights := by
  intro before
  exact ⟨[], (List.append_nil _).symm, ⟨[], List.nil_prefix, .nil⟩,
    fun _ _ failed => absurd failed not_yields_throw⟩

theorem records_pure (value : α) :
    Records extra record (pure value : ExceptT ε (StateM Workspace) α) [] :=
  records_of_keeps fun _ => rfl

/-- **Two steps in a row** record what the first does, and then what the second does. -/
theorem Records.bind {next : α → ExceptT ε (StateM Workspace) β}
    (first : Records extra record step early)
    (second : ∀ before value after, Yields step before value after →
      Records extra record (next value) late) :
    Records extra record (step >>= next) (early ++ late) := by
  intro before
  obtain ⟨seen, grown, ⟨part, starts, woven⟩, whole⟩ := first before
  unfold Yields
  rw [runIn_bind]
  cases ran : runIn step before with
  | mk outcome between =>
    rw [ran] at grown
    cases outcome with
    | error error =>
      exact ⟨seen, grown, ⟨part, starts.trans (List.prefix_append _ _), woven⟩, nofun⟩
    | ok value =>
      obtain ⟨seenLate, grownLate, ⟨partLate, startsLate, wovenLate⟩, wholeLate⟩ :=
        second before value between ran between
      have wovenEarly := whole value between ran
      refine ⟨seen ++ seenLate, ?_, ⟨early ++ partLate,
        List.prefix_append_right_inj early |>.2 startsLate,
        wovenEarly.append wovenLate⟩, fun result after ranLate =>
          wovenEarly.append (wholeLate result after ranLate)⟩
      rw [grownLate, grown, List.append_assoc]

/-- A step after which the same is recorded as without it. -/
theorem Records.then_records {next : α → ExceptT ε (StateM Workspace) β}
    (quiet : Records extra record step [])
    (later : ∀ value, Records extra record (next value) sights) :
    Records extra record (step >>= next) sights :=
  quiet.bind fun _ value _ _ => later value

/-- A step after which nothing is recorded. -/
theorem Records.then_quiet {next : α → ExceptT ε (StateM Workspace) β}
    (records : Records extra record step sights)
    (quiet : ∀ value, Records extra record (next value) []) :
    Records extra record (step >>= next) sights := by
  rw [← List.append_nil sights]
  exact records.bind fun _ value _ _ => quiet value

theorem Records.adapt (records : Records extra record step sights) (change : ε → ε') :
    Records extra record (ExceptT.adapt change step) sights := by
  intro before
  obtain ⟨seen, grown, part, whole⟩ := records before
  rw [runIn_adapt]
  exact ⟨seen, grown, part, fun result after ran => whole result after (yields_adapt_iff.1 ran)⟩

/-- Sights that are all extra need not be named. -/
theorem Records.drop (records : Records extra record step sights)
    (all : ∀ sight ∈ sights, extra sight) :
    Records extra record step [] := by
  intro before
  obtain ⟨seen, grown, ⟨part, starts, woven⟩, whole⟩ := records before
  exact ⟨seen, grown,
    ⟨[], List.prefix_refl _, woven.drop fun sight listed => all sight (starts.subset listed)⟩,
    fun result after ran => (whole result after ran).drop all⟩

/-- Without extra sights, a step that records nothing leaves the record as it is. -/
theorem Records.keeps (records : Records extra record step []) (none : ∀ sight, ¬extra sight)
    (before : Workspace) : record (runIn step before).2.notices = record before.notices := by
  obtain ⟨seen, grown, ⟨part, starts, woven⟩, -⟩ := records before
  obtain rfl := List.prefix_nil.1 starts
  obtain rfl := (woven_iff_eq none).1 woven
  rw [grown, List.append_nil]

/-- **A loop** records what each of its steps does. -/
theorem Records.mapM {step : α → ExceptT ε (StateM Workspace) β} {sights : α → List Sight}
    {items : List α} (each : ∀ item ∈ items, Records extra record (step item) (sights item)) :
    Records extra record (items.mapM step) (items.flatMap sights) := by
  induction items with
  | nil =>
    rw [List.mapM_nil]
    exact records_pure []
  | cons item rest ih =>
    rw [List.mapM_cons, List.flatMap_cons]
    have later := ih fun other listed => each other (.tail _ listed)
    exact (each item List.mem_cons_self).bind fun _ _ _ _ =>
      later.then_quiet fun _ => records_pure _

theorem Records.forM {step : α → ExceptT ε (StateM Workspace) PUnit} {items : List α}
    (each : ∀ item ∈ items, Records extra record (step item) []) :
    Records extra record (items.forM step) [] := by
  induction items with
  | nil => exact records_pure PUnit.unit
  | cons item rest ih =>
    exact (each item List.mem_cons_self).then_records fun _ =>
      ih fun other listed => each other (.tail _ listed)

theorem Records.foldlM {step : β → α → ExceptT ε (StateM Workspace) β} {items : List α}
    (each : ∀ value, ∀ item ∈ items, Records extra record (step value item) []) (initial : β) :
    Records extra record (items.foldlM step initial) [] := by
  induction items generalizing initial with
  | nil => exact records_pure initial
  | cons item rest ih =>
    rw [List.foldlM_cons]
    exact (each initial item List.mem_cons_self).then_records fun next =>
      ih (fun value other listed => each value other (.tail _ listed)) next

end Rules

/-! ### Steps that leave no notice -/

section Parts

variable {extra : Sight → Prop} {record : Record} {α : Type}

theorem records_ofExcept (outcome : Except BuildError α) :
    Records extra record (ofExcept outcome) [] :=
  records_of_keeps fun _ => rfl

theorem records_ofPipeline (outcome : Except PipelineError α) :
    Records extra record (ofPipeline outcome) [] := by
  have quiet : Records extra record (ExceptT.mk (pure outcome) : PhaseStep α) [] :=
    records_of_keeps fun _ => rfl
  exact quiet.adapt _

theorem records_ofResolve (step : Resolve α) : Records extra record (ofResolve step) [] :=
  records_of_keeps fun _ => rfl

theorem records_make (build : TypePool → SchemaType × TypePool) :
    Records extra record (make build) [] :=
  records_ofResolve _

theorem records_get : Records extra record (get : Build Workspace) [] :=
  records_of_keeps fun _ => rfl

theorem records_makeTable (aliases : NodeAliases) : Records extra record (makeTable aliases) [] :=
  records_of_keeps fun _ => rfl

theorem records_updatePool (change : TypePool → Except BuildError TypePool) :
    Records extra record (updatePool change) [] :=
  records_get.then_records fun workspace =>
    (records_ofExcept (change workspace.registry.pool)).then_records fun _ =>
      records_of_keeps fun _ => rfl

end Parts

end Build

/-! ### Rows of hooks -/

section RunHooks

variable {extra : Sight → Prop} {record : Record} {phase : BuildPhase} {context : phase.Context}
  {hooks others : List (Hook BuildPhase.family (StateM Workspace) phase)}
  {hook : Hook BuildPhase.family (StateM Workspace) phase}

/-- Hooks that record nothing. -/
theorem records_runHooks_quiet (name : String)
    (hooks : List (Hook BuildPhase.family (StateM Workspace) phase))
    (quiet : ∀ other ∈ hooks, ∀ value, Records extra record (other.handler value context) [])
    (initial : phase.Artifact) :
    Records extra record (HookEngine.runHooks name context hooks initial) [] :=
  Records.foldlM (fun value other listed => (quiet other listed value).adapt _) initial

/-- **Among hooks of which one records and the others do not**, the one counts. -/
theorem records_runHooks (name : String) {sights : List Sight} (perm : hooks.Perm (hook :: others))
    (one : ∀ value, Records extra record (hook.handler value context) sights)
    (quiet : ∀ other ∈ others, ∀ value, Records extra record (other.handler value context) [])
    (initial : phase.Artifact) :
    Records extra record (HookEngine.runHooks name context hooks initial) sights := by
  obtain ⟨early, late, rfl⟩ := List.append_of_mem (perm.mem_iff.2 List.mem_cons_self)
  have among : (early ++ late).Perm others := (List.perm_middle.symm.trans perm).cons_inv
  have quietEarly := records_runHooks_quiet name early fun other listed =>
    quiet other (among.subset (List.mem_append_left _ listed))
  have quietLate := records_runHooks_quiet name late fun other listed =>
    quiet other (among.subset (List.mem_append_right _ listed))
  unfold HookEngine.runHooks at quietEarly quietLate ⊢
  rw [List.foldlM_append]
  refine (quietEarly initial).then_records fun value => ?_
  rw [List.foldlM_cons]
  exact ((one value).adapt _).then_quiet quietLate

end RunHooks

end CatalogSchema
