/-
**Running a step of resolution.**

`Resolve.runOn` is the outcome of a step and the registry that it leaves. The lemmas below say it
for every way in which steps are put together, and then once for `synthesize`: a type is either made
on its own, or `askChild` names the one child that it is built over, the child is resolved, and
`complete` builds the type on what the child became.

* `runOn_synthesize`: the whole of one synthesis in these terms.
* `runOn_resolveAt_zero`, `runOn_resolveAt_succ`: the whole of one resolution.
-/

import CatalogSchema.Resolution.Resolve

namespace CatalogSchema

namespace Resolve

/-! ### Outcomes put together -/

section Outcomes

variable {ε α β : Type}

@[simp] theorem ok_bind (value : α) (next : α → Except ε β) :
    (Except.ok value >>= next) = next value := rfl

@[simp] theorem error_bind (error : ε) (next : α → Except ε β) :
    (Except.error error >>= next) = .error error := rfl

/-- Two steps fail if the first does, or the second from where the first leads. -/
theorem bind_eq_error_iff {outcome : Except ε α} {next : α → Except ε β} {error : ε} :
    (outcome >>= next) = .error error ↔
      outcome = .error error ∨ ∃ value, outcome = .ok value ∧ next value = .error error := by
  cases outcome <;> simp

end Outcomes

/-! ### Steps put together -/

section Combinators

variable {α β : Type}

/-- The outcome of a step, and the registry after it. -/
def runOn (action : Resolve α) (registry : Registry) : Except BuildError α × Registry :=
  Id.run (action.run.run registry)

@[simp] theorem runOn_pure (value : α) (registry : Registry) :
    runOn (pure value) registry = (.ok value, registry) := rfl

@[simp] theorem runOn_get (registry : Registry) :
    runOn get registry = (.ok registry, registry) := rfl

@[simp] theorem runOn_ofExcept (outcome : Except BuildError α) (registry : Registry) :
    runOn (ofExcept outcome) registry = (outcome, registry) := rfl

@[simp] theorem runOn_make (build : TypePool → SchemaType × TypePool) (registry : Registry) :
    runOn (make build) registry =
      (.ok (build registry.pool).1, { registry with pool := (build registry.pool).2 }) := rfl

@[simp] theorem runOn_share (codec : Codec) (registry : Registry) :
    runOn (share codec) registry =
      (.ok ⟨registry.pool.next, codec⟩,
        { registry with pool := { registry.pool with next := registry.pool.next + 1 } }) := rfl

theorem runOn_bind (action : Resolve α) (next : α → Resolve β) (registry : Registry) :
    runOn (action >>= next) registry =
      match runOn action registry with
      | (.ok value, after) => runOn (next value) after
      | (.error error, after) => (.error error, after) := by
  show Id.run ((ExceptT.run (action >>= next)).run registry) = _
  rw [ExceptT.run_bind, StateT.run_bind]
  unfold runOn
  generalize action.run.run registry = ran
  rcases ran with ⟨(_ | _), after⟩ <;> rfl

/-- Two steps in a row: the first succeeds. -/
theorem runOn_bind_ok {action : Resolve α} {next : α → Resolve β} {registry after : Registry}
    {value : α} (ran : runOn action registry = (.ok value, after)) :
    runOn (action >>= next) registry = runOn (next value) after := by
  rw [runOn_bind, ran]

theorem runOn_map (change : α → β) (action : Resolve α) (registry : Registry) :
    runOn (change <$> action) registry =
      ((runOn action registry).1.map change, (runOn action registry).2) := by
  rw [map_eq_pure_bind, runOn_bind]
  rcases runOn action registry with ⟨(_ | _), after⟩ <;> rfl

theorem runOn_adapt (change : BuildError → BuildError) (action : Resolve α) (registry : Registry) :
    runOn (ExceptT.adapt change action) registry =
      ((runOn action registry).1.mapError change, (runOn action registry).2) := by
  show Id.run ((Except.mapError change <$> action.run).run registry) = _
  rw [StateT.run_map]
  rfl

end Combinators

/-! ### One synthesis, taken apart -/

/-- The subtype of a range, unless it rests on a row type or on too long a chain of domains. -/
def askSubtype (setting : Setting) (remaining : Nat) (descriptor : Descriptor) (subId : TypeId) :
    Except BuildError TypeId := do
  let sub ← setting.catalog.require subId (some descriptor)
  let bottom ← domainBottom setting remaining sub
  if bottom.kind = .composite then .error (.configuration (compositeFault sub bottom))
  else .ok subId

/-- The child that a type is built over in a role, unless it is missing or may not be asked for. -/
def askChild (setting : Setting) (remaining : Nat) (descriptor : Descriptor) (role : ChildRole) :
    Except BuildError TypeId :=
  match descriptor.child? role with
  | none => .error (.configuration (.missingChild descriptor.displayName descriptor.kind role))
  | some child =>
    if role = .rangeSubtype then askSubtype setting remaining descriptor child else .ok child

/-- A list over what the item became. -/
def completeArray (setting : Setting) (descriptor : Descriptor) (itemId : TypeId)
    (item : TypeEntry) :
    Resolve (TypeEntry × Option SharedCodec) := do
  let itemDescriptor ← ofExcept (setting.catalog.require itemId (some descriptor))
  let itemCodec := (← get).partCodec itemId itemDescriptor
  let shared ← share (.array descriptor.displayName itemCodec itemDescriptor.qualifiedName)
  let output ← make (·.list item.output)
  let input ← item.input.mapM fun type => make (·.list type)
  return (⟨output, input⟩, some shared)

/-- An alias of what the base became. -/
def completeDomain (setting : Setting) (descriptor : Descriptor) (baseId : TypeId)
    (base : TypeEntry) :
    Resolve (TypeEntry × Option SharedCodec) := do
  let name := setting.naming.typeName descriptor
  let output ← rename name descriptor.description base.output
  let input ← base.input.mapM fun type =>
    if type = base.output then pure output
    else rename (setting.naming.inputType name) descriptor.description type
  let baseDescriptor ← ofExcept (setting.catalog.require baseId (some descriptor))
  match (← get).codecs.find? baseId with
  | some shared => return (⟨output, input⟩, some shared)
  | none =>
    let shared ← share (.identity baseDescriptor.qualifiedName)
    return (⟨output, input⟩, some shared)

/-- A range over what the subtype became. -/
def completeRange (setting : Setting) (descriptor : Descriptor) (subId : TypeId) (sub : TypeEntry) :
    Resolve (TypeEntry × Option SharedCodec) := do
  let subDescriptor ← ofExcept (setting.catalog.require subId (some descriptor))
  match sub.output.name? with
  | none =>
    throw (.configuration (.unnamedSubtype subDescriptor.displayName sub.output.text))
  | some subName =>
    let shape ← rangeShape setting subName sub
    let subCodec := (← get).partCodec subId subDescriptor
    let shared ← share (.range descriptor.qualifiedName subCodec)
    return (shape, some shared)

/-- A type over what its child became. -/
def complete (setting : Setting) (descriptor : Descriptor) (role : ChildRole) (childId : TypeId)
    (child : TypeEntry) : Resolve (TypeEntry × Option SharedCodec) :=
  match role with
  | .arrayItem => completeArray setting descriptor childId child
  | .domainBase => completeDomain setting descriptor childId child
  | .rangeSubtype => completeRange setting descriptor childId child

/-- A type without a child. -/
def standalone (setting : Setting) (descriptor : Descriptor) :
    Resolve (TypeEntry × Option SharedCodec) :=
  if descriptor.kind = .enumeration then return (← enumType setting descriptor, none)
  else scalarType setting descriptor

/-- A type over its child, which is resolved first. -/
def runOver (setting : Setting) (remaining : Nat) (resolveChild : TypeId → Resolve TypeEntry)
    (descriptor : Descriptor) (role : ChildRole) (registry : Registry) :
    Except BuildError (TypeEntry × Option SharedCodec) × Registry :=
  match askChild setting remaining descriptor role with
  | .error error => (.error error, registry)
  | .ok childId =>
    match runOn (resolveChild childId) registry with
    | (.ok child, after) => runOn (complete setting descriptor role childId child) after
    | (.error error, after) => (.error error, after)

variable {setting : Setting} {remaining : Nat} {resolveChild : TypeId → Resolve TypeEntry}

theorem runOn_arrayType (descriptor : Descriptor) (registry : Registry) :
    runOn (arrayType setting resolveChild descriptor) registry =
      runOver setting remaining resolveChild descriptor .arrayItem registry := by
  unfold arrayType runOver askChild requireChild
  cases descriptor.child? .arrayItem with
  | none => rfl
  | some itemId =>
    rw [runOn_bind_ok (runOn_pure itemId registry), runOn_bind]
    simp only [reduceCtorEq, if_false]
    rcases runOn (resolveChild itemId) registry with ⟨(_ | _), after⟩ <;> rfl

theorem runOn_domainType (descriptor : Descriptor) (registry : Registry) :
    runOn (domainType setting resolveChild descriptor) registry =
      runOver setting remaining resolveChild descriptor .domainBase registry := by
  unfold domainType runOver askChild requireChild
  cases descriptor.child? .domainBase with
  | none => rfl
  | some baseId =>
    rw [runOn_bind_ok (runOn_pure baseId registry), runOn_bind]
    simp only [reduceCtorEq, if_false]
    rcases runOn (resolveChild baseId) registry with ⟨(_ | _), after⟩ <;> rfl

theorem runOn_rangeType (descriptor : Descriptor) (registry : Registry) :
    runOn (rangeType setting remaining resolveChild descriptor) registry =
      runOver setting remaining resolveChild descriptor .rangeSubtype registry := by
  unfold rangeType runOver askChild requireChild
  cases descriptor.child? .rangeSubtype with
  | none => rfl
  | some subId =>
    rw [runOn_bind_ok (runOn_pure subId registry), runOn_bind, runOn_ofExcept]
    simp only [if_true, askSubtype]
    cases known : setting.catalog.require subId (some descriptor) with
    | error error => rfl
    | ok sub =>
      simp only [ok_bind]
      rw [runOn_bind, runOn_ofExcept]
      cases walked : domainBottom setting remaining sub with
      | error error => rfl
      | ok bottom =>
        simp only [ok_bind]
        by_cases composite : bottom.kind = .composite
        · rw [if_pos composite, if_pos composite, runOn_bind]
          rfl
        · rw [if_neg composite, if_neg composite, runOn_bind]
          simp only [complete, completeRange, known]
          rcases runOn (resolveChild subId) registry with ⟨(_ | _), after⟩ <;> rfl

/-- **One synthesis.** An override decides alone. A type without a child stands alone, and any other
is built over its child. -/
theorem runOn_synthesize (id : TypeId) (descriptor : Descriptor) (registry : Registry) :
    runOn (synthesize setting remaining resolveChild id descriptor) registry =
      match registry.overrides.find? id, descriptor.builtOver with
      | some mapping, _ => (.ok (⟨mapping.output, mapping.input⟩, mapping.codec), registry)
      | none, none => runOn (standalone setting descriptor) registry
      | none, some role => runOver setting remaining resolveChild descriptor role registry := by
  unfold synthesize
  rw [runOn_bind, runOn_get]
  dsimp only
  cases registry.overrides.find? id with
  | some mapping => rfl
  | none =>
    unfold Descriptor.builtOver standalone
    cases kind : descriptor.kind with
    | enumeration => rfl
    | range => exact runOn_rangeType descriptor registry
    | domain => exact runOn_domainType descriptor registry
    | array => exact runOn_arrayType descriptor registry
    | base | composite =>
      dsimp only
      by_cases listed : descriptor.category = Category.array ∧ descriptor.arrayItem.isSome
      · rw [if_pos listed]
        exact runOn_arrayType descriptor registry
      · rw [if_neg listed]
        rfl

/-- **One resolution.** What is settled is returned. Anything else needs a descriptor and a level,
and is filed once it is made; an error names the descriptor. -/
theorem runOn_resolveAt_zero (id : TypeId) (referrer : Option Descriptor) (registry : Registry) :
    runOn (resolveAt setting 0 id referrer) registry =
      match registry.types.find? id, setting.catalog.require id referrer with
      | some entry, _ => (.ok entry, registry)
      | none, .error error => (.error error, registry)
      | none, .ok descriptor => (.error (.recursionLimit descriptor.displayName descriptor.kind
          setting.config.depthLimit), registry) := by
  unfold resolveAt
  rw [runOn_bind, runOn_get]
  dsimp only
  cases registry.types.find? id with
  | some entry => rfl
  | none =>
    dsimp only
    rw [runOn_bind, runOn_ofExcept]
    cases setting.catalog.require id referrer <;> rfl

theorem runOn_resolveAt_succ (id : TypeId) (referrer : Option Descriptor) (registry : Registry) :
    runOn (resolveAt setting (remaining + 1) id referrer) registry =
      match registry.types.find? id, setting.catalog.require id referrer with
      | some entry, _ => (.ok entry, registry)
      | none, .error error => (.error error, registry)
      | none, .ok descriptor =>
        match runOn (synthesize setting remaining
            (fun child => resolveAt setting remaining child (some descriptor)) id descriptor)
          registry with
        | (.ok (entry, codec), after) => (.ok entry, after.file id entry codec)
        | (.error error, after) => (.error (error.resolving descriptor), after) := by
  rw [resolveAt, runOn_bind, runOn_get]
  dsimp only
  cases registry.types.find? id with
  | some entry => rfl
  | none =>
    dsimp only
    rw [runOn_bind, runOn_ofExcept]
    cases setting.catalog.require id referrer with
    | error error => rfl
    | ok descriptor =>
      dsimp only
      rw [runOn_bind, runOn_adapt]
      rcases runOn (synthesize setting remaining
        (fun child => resolveAt setting remaining child (some descriptor)) id descriptor)
        registry with ⟨(error | ⟨entry, codec⟩), after⟩ <;> rfl

/-- What is settled is returned, at any level. -/
theorem runOn_resolveAt_of_settled {id : TypeId} {referrer : Option Descriptor}
    {registry : Registry} {entry : TypeEntry} (settled : registry.types.find? id = some entry) :
    runOn (resolveAt setting remaining id referrer) registry = (.ok entry, registry) := by
  cases remaining with
  | zero => rw [runOn_resolveAt_zero, settled]
  | succ remaining => rw [runOn_resolveAt_succ, settled]

/-- What fails is not settled. -/
theorem free_of_resolveAt_error {id : TypeId} {referrer : Option Descriptor} {registry : Registry}
    {error : BuildError}
    (failed : (runOn (resolveAt setting remaining id referrer) registry).1 = .error error) :
    registry.types.find? id = none := by
  cases settled : registry.types.find? id with
  | none => rfl
  | some entry =>
    rw [runOn_resolveAt_of_settled settled] at failed
    cases failed

end Resolve

end CatalogSchema
