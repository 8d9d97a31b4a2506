/-
**Resolution never misses a child that a complete catalog owes it.**

Resolution has two places for a descriptor without the child that it is built over: an error where
the child is required, and the end of the walk over the domains below a range. Here anything may
stand in these places. Over a catalog without incomplete descriptors, what stands there makes no
difference, so neither is reached.

* `Detours`: what stands in the two places. `resolveVia` is resolution with it.
* `resolveVia_standard`: with what resolution has there, it is resolution, whatever the catalog.
* `askVia_of_complete`, `resolveVia_of_complete`: over a complete catalog it is resolution, whatever
  stands there.
* `childrenFound_of_resolveAt`: so no error of a resolution is that of a missing child.
* `no_child_missed`: the same for every catalog that calls lead to.
-/

import CatalogSchema.Proofs.Catalog.Entering
import CatalogSchema.Proofs.Resolution.Faults

namespace CatalogSchema

open Resolve

/-! ### Complete descriptors -/

/-- **A complete descriptor has the child that it is built over.** The kind requires it, or else the
descriptor is built over the items that it has. -/
theorem Descriptor.exists_child {descriptor : Descriptor}
    (complete : descriptor.missingChild? = none) {role : ChildRole}
    (rests : descriptor.builtOver = some role) :
    ∃ child, descriptor.child? role = some child := by
  have required (owed : descriptor.kind.requiredChild = some role) :
      (descriptor.child? role).isSome = true := by
    unfold missingChild? at complete
    rw [owed, Option.filter_eq_none_iff] at complete
    simpa [Option.isSome_iff_ne_none] using complete role rfl
  unfold builtOver at rests
  cases kind : descriptor.kind with
  | base | composite =>
    rw [kind] at rests
    dsimp only at rests
    split at rests
    · rename_i listed
      cases rests
      exact Option.isSome_iff_exists.1 listed.2
    · cases rests
  | array | domain | range | enumeration =>
    rw [kind] at rests required
    exact Option.isSome_iff_exists.1 (required rests)

namespace Resolve

/-! ### Resolution with detours -/

/-- What is done where a descriptor lacks the child that it is built over. -/
structure Detours where
  /-- Where the child is required. -/
  childless : Descriptor → ChildRole → Except BuildError TypeId
  /-- Where the walk over the domains below a range comes to a domain without a base. -/
  baseless : Descriptor → Except BuildError Descriptor

/-- What resolution does there: it fails, and the walk ends at the domain. -/
def Detours.standard : Detours where
  childless descriptor role :=
    .error (.configuration (.missingChild descriptor.displayName descriptor.kind role))
  baseless descriptor := .ok descriptor

/-- The type at the bottom of a chain of domains. -/
def bottomVia (detours : Detours) (setting : Setting) :
    Nat → Descriptor → Except BuildError Descriptor
  | remaining, descriptor =>
    if descriptor.kind = .domain then
      match remaining with
      | 0 => .error (tooDeep setting descriptor)
      | remaining + 1 =>
        match descriptor.domainBase with
        | none => detours.baseless descriptor
        | some baseId => do
          let base ← setting.catalog.require baseId (some descriptor)
          bottomVia detours setting remaining base
    else
      .ok descriptor

/-- The child that a type is built over in a role. -/
def askVia (detours : Detours) (setting : Setting) (remaining : Nat) (descriptor : Descriptor)
    (role : ChildRole) : Except BuildError TypeId :=
  match descriptor.child? role with
  | none => detours.childless descriptor role
  | some child =>
    if role = .rangeSubtype then do
      let sub ← setting.catalog.require child (some descriptor)
      let bottom ← bottomVia detours setting remaining sub
      if bottom.kind = .composite then .error (.configuration (compositeFault sub bottom))
      else .ok child
    else .ok child

/-- The schema types and the conversion of a descriptor, and the registry after it. -/
def synthesizeVia (detours : Detours) (setting : Setting) (remaining : Nat)
    (resolveChild : TypeId → Registry → Except BuildError TypeEntry × Registry) (id : TypeId)
    (descriptor : Descriptor) (registry : Registry) :
    Except BuildError (TypeEntry × Option SharedCodec) × Registry :=
  match registry.overrides.find? id with
  | some mapping => (.ok (⟨mapping.output, mapping.input⟩, mapping.codec), registry)
  | none =>
    match descriptor.builtOver with
    | none => runOn (standalone setting descriptor) registry
    | some role =>
      match askVia detours setting remaining descriptor role with
      | .error error => (.error error, registry)
      | .ok childId =>
        match resolveChild childId registry with
        | (.ok child, after) => runOn (complete setting descriptor role childId child) after
        | (.error error, after) => (.error error, after)

/-- The schema types of a type id, and the registry after it. -/
def resolveVia (detours : Detours) (setting : Setting) (remaining : Nat) (id : TypeId)
    (referrer : Option Descriptor) (registry : Registry) : Except BuildError TypeEntry × Registry :=
  match registry.types.find? id with
  | some entry => (.ok entry, registry)
  | none =>
    match setting.catalog.require id referrer with
    | .error error => (.error error, registry)
    | .ok descriptor =>
      match remaining with
      | 0 => (.error (tooDeep setting descriptor), registry)
      | remaining + 1 =>
        match synthesizeVia detours setting remaining
            (fun child => resolveVia detours setting remaining child (some descriptor)) id
            descriptor registry with
        | (.ok (entry, codec), after) => (.ok entry, after.file id entry codec)
        | (.error error, after) => (.error (error.resolving descriptor), after)

variable {setting : Setting} {remaining : Nat} {detours : Detours}

/-! ### The detours of resolution -/

theorem bottomVia_standard (descriptor : Descriptor) :
    bottomVia .standard setting remaining descriptor =
      domainBottom setting remaining descriptor := by
  induction remaining generalizing descriptor with
  | zero => rfl
  | succ remaining ih =>
    unfold bottomVia domainBottom
    simp only [ih]
    rfl

theorem askVia_standard (descriptor : Descriptor) (role : ChildRole) :
    askVia .standard setting remaining descriptor role =
      askChild setting remaining descriptor role := by
  unfold askVia askChild askSubtype
  simp only [bottomVia_standard]
  rfl

theorem synthesizeVia_standard (resolveChild : TypeId → Resolve TypeEntry) (id : TypeId)
    (descriptor : Descriptor) (registry : Registry) :
    synthesizeVia .standard setting remaining (fun child => runOn (resolveChild child))
      id descriptor registry =
      runOn (synthesize setting remaining resolveChild id descriptor) registry := by
  rw [runOn_synthesize]
  unfold synthesizeVia runOver
  rw [funext (askVia_standard descriptor)]
  cases registry.overrides.find? id with
  | some mapping => rfl
  | none => cases descriptor.builtOver <;> rfl

/-- **With what resolution has in the two places, it is resolution**, whatever the catalog. -/
theorem resolveVia_standard (id : TypeId) (referrer : Option Descriptor) :
    resolveVia .standard setting remaining id referrer =
      runOn (resolveAt setting remaining id referrer) := by
  induction remaining generalizing id referrer with
  | zero =>
    funext registry
    rw [runOn_resolveAt_zero]
    unfold resolveVia
    cases registry.types.find? id with
    | some entry => rfl
    | none => cases setting.catalog.require id referrer <;> rfl
  | succ remaining ih =>
    funext registry
    rw [runOn_resolveAt_succ]
    unfold resolveVia
    cases registry.types.find? id with
    | some entry => rfl
    | none =>
      cases setting.catalog.require id referrer with
      | error error => rfl
      | ok descriptor =>
        have children := funext fun child => ih child (some descriptor)
        dsimp only
        rewrite [children, synthesizeVia_standard]
        rfl

/-! ### Complete catalogs -/

section Complete

variable (complete : setting.catalog.Complete) {id : TypeId} {descriptor : Descriptor}
  (known : setting.catalog.find? id = some descriptor)

include complete known

/-- The walk finds every base. -/
theorem bottomVia_of_complete :
    bottomVia detours setting remaining descriptor =
      bottomVia .standard setting remaining descriptor := by
  induction remaining generalizing id descriptor with
  | zero => rfl
  | succ remaining ih =>
    unfold bottomVia
    by_cases domain : descriptor.kind = .domain
    · have rests : descriptor.builtOver = some .domainBase := by
        unfold Descriptor.builtOver
        rw [domain]
        rfl
      obtain ⟨baseId, base⟩ := Descriptor.exists_child (complete id descriptor known) rests
      change descriptor.domainBase = some baseId at base
      rw [if_pos domain, if_pos domain, base]
      dsimp only
      cases required : setting.catalog.require baseId (some descriptor) with
      | error error => rfl
      | ok next => exact ih (Catalog.find?_of_require required)
    · rw [if_neg domain, if_neg domain]

/-- **A descriptor is asked for a child that it has.** -/
theorem askVia_of_complete {role : ChildRole} (rests : descriptor.builtOver = some role) :
    askVia detours setting remaining descriptor role =
      askVia .standard setting remaining descriptor role := by
  obtain ⟨child, inRole⟩ := Descriptor.exists_child (complete id descriptor known) rests
  unfold askVia
  rw [inRole]
  dsimp only
  cases required : setting.catalog.require child (some descriptor) with
  | error error => rfl
  | ok sub => rw [ok_bind, ok_bind,
    bottomVia_of_complete complete (Catalog.find?_of_require required)]

theorem synthesizeVia_of_complete (resolveChild : TypeId → Registry →
    Except BuildError TypeEntry × Registry)
    (registry : Registry) :
    synthesizeVia detours setting remaining resolveChild id descriptor registry =
      synthesizeVia .standard setting remaining resolveChild id descriptor registry := by
  unfold synthesizeVia
  cases rests : descriptor.builtOver with
  | none => rfl
  | some role =>
    dsimp only
    rw [askVia_of_complete complete known rests]

end Complete

/-- **Over a complete catalog it is resolution, whatever stands in the two places.** -/
theorem resolveVia_of_complete (complete : setting.catalog.Complete) (id : TypeId)
    (referrer : Option Descriptor) :
    resolveVia detours setting remaining id referrer =
      runOn (resolveAt setting remaining id referrer) := by
  -- By induction on the levels that remain; the two sides differ only in how the child is asked
  -- for.
  rw [← resolveVia_standard]
  induction remaining generalizing id referrer with
  | zero =>
    funext registry
    unfold resolveVia
    rfl
  | succ remaining ih =>
    funext registry
    unfold resolveVia
    cases required : setting.catalog.require id referrer with
    | error error => rfl
    | ok descriptor =>
      have children := funext fun child => ih child (some descriptor)
      dsimp only
      rw [children, synthesizeVia_of_complete complete (Catalog.find?_of_require required)]

/-- A domain without a base, which no catalog accepts. -/
def gap : Descriptor := .plain 1 "app" "gap" .domain Category.user

/-- A range over that domain. -/
def rangeOverGap : Descriptor :=
  { Descriptor.plain 2 "app" "gaps" .range Category.range with rangeSubtype := some 1 }

/-- An error of its own in each of the two places. -/
def Detours.telling : Detours where
  childless _ _ := .error (.duplicateTypeName "childless")
  baseless _ := .error (.duplicateTypeName "baseless")

/-- A setting that is not complete. -/
def gapSetting : Setting :=
  ⟨⟨.ofList [(1, gap), (2, rangeOverGap)]⟩, .standard Descriptor.name, .default, .make false⟩

-- Over a catalog that is not complete both places are reached: the domain itself has no child to be
-- built over,
example : (resolveVia .telling gapSetting 2 1 none .initial).1 =
    .error (.typeResolution "app.gap" .domain (.duplicateTypeName "childless")) := rfl

-- and the walk below the range ends at it, before the range asks for its subtype.
example : (resolveVia .telling gapSetting 2 2 none .initial).1 =
    .error (.typeResolution "app.gaps" .range (.duplicateTypeName "baseless")) := rfl

end Resolve

/-! ### Errors -/

/-- An error of a resolution that is not the one of a missing child, behind any number of
descriptors that were being resolved. -/
inductive BuildError.ChildrenFound : BuildError → Prop
  | missing (id : TypeId) (referrer : String) : ChildrenFound (.missingDescriptor id referrer)
  | tooDeep (typeName : String) (kind : TypeKind) (limit : Nat) :
      ChildrenFound (.recursionLimit typeName kind limit)
  | collision (typeName name first second : String) :
      ChildrenFound (.enumNameCollision typeName name first second)
  | configuration {fault : ConfigurationFault}
      (other : ∀ typeName kind role, fault ≠ .missingChild typeName kind role) :
      ChildrenFound (.configuration fault)
  | within (typeName : String) (kind : TypeKind) {source : BuildError}
      (found : source.ChildrenFound) :
      ChildrenFound (.typeResolution typeName kind source)

theorem BuildError.ChildrenFound.resolving {error : BuildError} (found : error.ChildrenFound)
    (descriptor : Descriptor) : (error.resolving descriptor).ChildrenFound := by
  have named : BuildError.ChildrenFound
      (.typeResolution descriptor.displayName descriptor.kind error) :=
    .within _ _ found
  -- The two errors that name a descriptor already are passed on unchanged.
  cases found with
  | tooDeep typeName kind limit => exact .tooDeep typeName kind limit
  | within typeName kind found => exact .within typeName kind found
  | missing | collision | configuration => exact named

namespace Resolve

variable {setting : Setting} {remaining : Nat} {error : BuildError}

theorem childrenFound_of_require {id : TypeId} {referrer : Option Descriptor}
    (failed : setting.catalog.require id referrer = .error error) : error.ChildrenFound := by
  unfold Catalog.require at failed
  split at failed <;> cases failed
  exact .missing _ _

theorem childrenFound_of_domainBottom {descriptor : Descriptor}
    (failed : domainBottom setting remaining descriptor = .error error) : error.ChildrenFound := by
  induction remaining generalizing descriptor with
  | zero =>
    unfold domainBottom at failed
    split at failed <;> cases failed
    exact .tooDeep _ _ _
  | succ remaining ih =>
    unfold domainBottom at failed
    split at failed
    · dsimp only at failed
      split at failed
      · cases failed
      · rcases bind_eq_error_iff.1 failed with missing | ⟨base, -, later⟩
        · exact childrenFound_of_require missing
        · exact ih later
    · cases failed

/-- **A complete descriptor is not blamed for a missing child.** -/
theorem childrenFound_of_askChild {descriptor : Descriptor}
    (complete : descriptor.missingChild? = none) {role : ChildRole}
    (rests : descriptor.builtOver = some role)
    (refused : askChild setting remaining descriptor role = .error error) :
    error.ChildrenFound := by
  obtain ⟨childId, inRole⟩ := Descriptor.exists_child complete rests
  unfold askChild at refused
  rw [inRole] at refused
  dsimp only at refused
  split at refused
  · unfold askSubtype at refused
    rcases bind_eq_error_iff.1 refused with missing | ⟨sub, -, walk⟩
    · exact childrenFound_of_require missing
    · rcases bind_eq_error_iff.1 walk with stopped | ⟨bottom, -, composite⟩
      · exact childrenFound_of_domainBottom stopped
      · split at composite <;> cases composite
        refine .configuration fun typeName kind role => ?_
        unfold compositeFault
        split <;> nofun
  · cases refused

/-- **Over a complete catalog, no failure is that of a missing child.** -/
theorem childrenFound_of_failure (complete : setting.catalog.Complete) {id : TypeId}
    {referrer : Option Descriptor} (failure : ResolveFailure setting remaining id referrer error) :
    error.ChildrenFound := by
  induction failure with
  | unknown => exact .missing _ _
  | tooDeep => exact .tooDeep _ _ _
  | @collision _ _ _ descriptor _ typeName name first second =>
    exact (BuildError.ChildrenFound.collision typeName name first second).resolving descriptor
  | @refused _ id _ descriptor _ _ known rests refused =>
    exact (childrenFound_of_askChild (complete id descriptor known) rests refused).resolving
      descriptor
  | @childFailed _ _ _ _ descriptor _ _ _ _ ih => exact ih.resolving descriptor
  | @unknownChild _ _ childId _ descriptor =>
    exact (BuildError.ChildrenFound.missing childId descriptor.displayName).resolving descriptor
  | @unnamed _ _ _ descriptor _ subtype schemaType =>
    have other : ∀ typeName kind role, ConfigurationFault.unnamedSubtype subtype schemaType ≠
        .missingChild typeName kind role := nofun
    exact (BuildError.ChildrenFound.configuration other).resolving descriptor

theorem childrenFound_of_resolveAt (complete : setting.catalog.Complete) {id : TypeId}
    {referrer : Option Descriptor} {registry : Registry}
    (failed : (runOn (resolveAt setting remaining id referrer) registry).1 = .error error) :
    error.ChildrenFound :=
  childrenFound_of_failure complete (failure_of_resolveAt failed)

end Resolve

/-! ### Catalogs after calls -/

/-- **No child is missed over a catalog that calls lead to.** Every descriptor in it is filed under
its own id and has the child that its kind requires, and it counts the descriptors that were
accepted. A descriptor enters exactly if it has this child and its id is free, and a call that is
refused leaves the catalog. Whatever a registry has settled over it, reachable or not, the answer to
a request for any id, and what is settled then, do not depend on what resolution does where a child
is missing, and no error is that of a missing child. -/
theorem no_child_missed (history : List Catalog.Call) :
    let catalog := Catalog.afterAll history
    (∀ id descriptor, catalog.find? id = some descriptor ↔
      descriptor ∈ Catalog.accepted history ∧ descriptor.id = id) ∧
    (∀ descriptor ∈ Catalog.accepted history, descriptor.missingChild? = none) ∧
    catalog.size = (Catalog.accepted history).length ∧
    (∀ descriptor, (∃ next, catalog.insert descriptor = .ok next) ↔
      descriptor.missingChild? = none ∧ catalog.find? descriptor.id = none) ∧
    (∀ call error, catalog.step call = .error error →
      Catalog.afterAll (history ++ [call]) = catalog ∧
        Catalog.accepted (history ++ [call]) = Catalog.accepted history) ∧
    ∀ naming config scalars registry id,
      let setting : Setting := ⟨catalog, naming, config, scalars⟩
      (∀ detours, resolveVia detours setting config.depthLimit id none registry =
        runOn (entry setting id) registry) ∧
      ∀ error, (runOn (entry setting id) registry).1 = .error error → error.ChildrenFound := by
  have entered := Catalog.entered_afterAll history
  have complete := Catalog.complete_afterAll history
  refine ⟨entered.holds, entered.complete, entered.size, fun _ => Catalog.exists_insert_iff,
    fun _ _ => Catalog.afterAll_snoc_of_error,
    fun naming config scalars registry id => ⟨fun detours => ?_, fun error failed => ?_⟩⟩
  · exact congrFun (resolveVia_of_complete complete id none) registry
  · exact childrenFound_of_resolveAt complete failed

/-- A number type, then the domain without a base, then the number type with a list over it, then
that list again. -/
def sampleCalls : List Catalog.Call :=
  let number : Descriptor := .plain 23 "pg_catalog" "int4" .base Category.numeric
  let list := { Descriptor.plain 1007 "pg_catalog" "_int4" .array Category.array with
    arrayItem := some 23 }
  [.insert number, .withType gap, .fromDescriptors [number, list], .insert list]

/-- The second call and the last are refused, and the domain is refused again. -/
theorem no_child_missed_refusals :
    (Catalog.afterAll sampleCalls).size = 2 ∧
      (Catalog.afterAll sampleCalls).step (.insert gap) =
        .error (.configuration (.missingChild "app.gap" .domain .domainBase)) ∧
      Catalog.afterAll (sampleCalls ++ [.insert gap]) = Catalog.afterAll sampleCalls := by
  obtain ⟨-, -, counted, -, leaves, -⟩ := no_child_missed sampleCalls
  have refused : (Catalog.afterAll sampleCalls).step (.insert gap) =
      .error (.configuration (.missingChild "app.gap" .domain .domainBase)) := rfl
  exact ⟨counted.trans rfl, refused, (leaves _ _ refused).1⟩

end CatalogSchema
