/-
**The depth limit is exact.**

The descriptors below an id form one chain, since a type is built over one child at most. With
nothing settled and no overrides, each of them takes one level, and the walk over the domains below
a range takes the same levels as the resolution that comes after it.

* `domainBottom_of_descendant?`: a walk that meets the descriptor beyond the levels stops there.
* `runOn_resolveAt_of_descendant?`: so does a resolution, and it leaves the registry as it was.
* `Resolves.within_limit`: a chain that ends within the levels is never too deep, whatever is
  settled.
* `entry_depth_exact`: both, for an id that a caller asks for.
-/

import CatalogSchema.Proofs.Resolution.History
import Mathlib.Tactic.IntervalCases

namespace CatalogSchema

open Resolve

/-! ### The chain below an id -/

/-- The child that a descriptor is built over. -/
def Descriptor.childId? (descriptor : Descriptor) : Option TypeId :=
  descriptor.builtOver.bind descriptor.child?

namespace Catalog

/-- The descriptor that is met after a number of steps from parent to child; that of the id itself
is met after none. A chain that leads back to itself has one after any number of steps. -/
def descendant? (catalog : Catalog) : Nat → TypeId → Option Descriptor
  | 0, id => catalog.find? id
  | steps + 1, id => ((catalog.find? id).bind Descriptor.childId?).bind (catalog.descendant? steps)

/-- The id of a row type, or of a domain over one, through any number of domains. -/
inductive RestsOnRow (catalog : Catalog) : TypeId → Prop
  | row {id : TypeId} {descriptor : Descriptor} (known : catalog.find? id = some descriptor)
      (kind : descriptor.kind = .composite) : RestsOnRow catalog id
  | domain {id baseId : TypeId} {descriptor : Descriptor}
      (known : catalog.find? id = some descriptor)
      (kind : descriptor.kind = .domain) (refers : descriptor.domainBase = some baseId)
      (base : RestsOnRow catalog baseId) : RestsOnRow catalog id

/-- Some range met before a number of steps has a subtype that rests on a row type. -/
def RangeOverRow (catalog : Catalog) (steps : Nat) (id : TypeId) : Prop :=
  ∃ step < steps, ∃ descriptor subId, catalog.descendant? step id = some descriptor ∧
    descriptor.kind = .range ∧ descriptor.rangeSubtype = some subId ∧ catalog.RestsOnRow subId

variable {catalog : Catalog}

/-- A chain starts with the descriptor of the id. -/
theorem find?_of_descendant? {steps : Nat} {id : TypeId} {last : Descriptor}
    (met : catalog.descendant? steps id = some last) :
    ∃ descriptor, catalog.find? id = some descriptor := by
  cases steps with
  | zero => exact ⟨last, met⟩
  | succ steps =>
    obtain ⟨child, found, -⟩ := Option.bind_eq_some_iff.1 met
    obtain ⟨descriptor, known, -⟩ := Option.bind_eq_some_iff.1 found
    exact ⟨descriptor, known⟩

/-- After one step more than from the child. -/
theorem descendant?_succ {id childId : TypeId} {descriptor : Descriptor}
    (known : catalog.find? id = some descriptor) (child : descriptor.childId? = some childId)
    (steps : Nat) : catalog.descendant? (steps + 1) id = catalog.descendant? steps childId := by
  rw [descendant?, known, Option.bind_some, child, Option.bind_some]

theorem childId?_of_descendant?_succ {steps : Nat} {id : TypeId} {descriptor last : Descriptor}
    (known : catalog.find? id = some descriptor)
    (met : catalog.descendant? (steps + 1) id = some last) :
    ∃ childId, descriptor.childId? = some childId ∧
      catalog.descendant? steps childId = some last := by
  rw [descendant?, known, Option.bind_some] at met
  exact Option.bind_eq_some_iff.1 met

/-- What holds of the ranges below an id holds of those below its child. -/
theorem RangeOverRow.of_child {id childId : TypeId} {descriptor : Descriptor} {steps : Nat}
    (known : catalog.find? id = some descriptor) (child : descriptor.childId? = some childId)
    (rows : catalog.RangeOverRow steps childId) : catalog.RangeOverRow (steps + 1) id := by
  obtain ⟨step, before, range, subId, met, rest⟩ := rows
  exact ⟨step + 1, Nat.succ_lt_succ before, range, subId,
    (descendant?_succ known child step).trans met, rest⟩

end Catalog

namespace Descriptor

/-- The child of a domain is its base. -/
theorem childId?_of_domain {descriptor : Descriptor} (kind : descriptor.kind = .domain) :
    descriptor.childId? = descriptor.domainBase := by
  unfold childId? builtOver
  rw [kind]
  rfl

/-- A descriptor with a child is built over it in a role. -/
theorem exists_role_of_childId? {descriptor : Descriptor} {childId : TypeId}
    (child : descriptor.childId? = some childId) :
    ∃ role, descriptor.builtOver = some role ∧ descriptor.child? role = some childId :=
  Option.bind_eq_some_iff.1 child

end Descriptor

namespace Resolve

variable {setting : Setting}

/-! ### Too deep -/

/-- The error of a descriptor beyond the limit. -/
def tooDeep (setting : Setting) (descriptor : Descriptor) : BuildError :=
  .recursionLimit descriptor.displayName descriptor.kind setting.config.depthLimit

/-- **The walk over domains** stops at the descriptor beyond the levels that remain, unless it comes
to an end before that, and then not on a row type. -/
theorem domainBottom_of_descendant? {remaining : Nat} {id : TypeId} {descriptor last : Descriptor}
    (known : setting.catalog.find? id = some descriptor)
    (met : setting.catalog.descendant? remaining id = some last)
    (noRow : ¬ setting.catalog.RestsOnRow id) :
    domainBottom setting remaining descriptor = .error (tooDeep setting last) ∨
      ∃ bottom, domainBottom setting remaining descriptor = .ok bottom ∧
        bottom.kind ≠ .composite := by
  induction remaining generalizing id descriptor with
  | zero =>
    obtain rfl : descriptor = last := Option.some.inj (known.symm.trans met)
    unfold domainBottom
    by_cases domain : descriptor.kind = .domain
    · rw [if_pos domain]
      exact .inl rfl
    · rw [if_neg domain]
      exact .inr ⟨descriptor, rfl, fun composite => noRow (.row known composite)⟩
  | succ remaining ih =>
    unfold domainBottom
    by_cases domain : descriptor.kind = .domain
    · rw [if_pos domain]
      obtain ⟨baseId, child, metBelow⟩ := Catalog.childId?_of_descendant?_succ known met
      rw [Descriptor.childId?_of_domain domain] at child
      obtain ⟨base, knownBase⟩ := Catalog.find?_of_descendant? metBelow
      have noRowBelow : ¬ setting.catalog.RestsOnRow baseId := fun row =>
        noRow (.domain known domain child row)
      simp only [child, Catalog.require_eq_ok knownBase, ok_bind]
      exact ih knownBase metBelow noRowBelow
    · rw [if_neg domain]
      exact .inr ⟨descriptor, rfl, fun composite => noRow (.row known composite)⟩

/-- A child is asked for, unless the walk below a range already met the descriptor beyond the
levels. -/
theorem askChild_of_descendant? {remaining : Nat} {descriptor last : Descriptor} {role : ChildRole}
    {childId : TypeId} (child : descriptor.child? role = some childId)
    (met : setting.catalog.descendant? remaining childId = some last)
    (noRow : role = .rangeSubtype → ¬ setting.catalog.RestsOnRow childId) :
    askChild setting remaining descriptor role = .error (tooDeep setting last) ∨
      askChild setting remaining descriptor role = .ok childId := by
  unfold askChild
  simp only [child]
  by_cases range : role = .rangeSubtype
  · obtain ⟨sub, knownSub⟩ := Catalog.find?_of_descendant? met
    rw [if_pos range, askSubtype, Catalog.require_eq_ok knownSub, ok_bind]
    rcases domainBottom_of_descendant? knownSub met (noRow range) with
      stopped | ⟨bottom, walked, notRow⟩
    · rw [stopped]
      exact .inl rfl
    · rw [walked, ok_bind, if_neg notRow]
      exact .inr rfl
  · rw [if_neg range]
    exact .inr rfl

/-- **A resolution stops at the descriptor beyond the levels that remain**, and settles nothing. -/
theorem runOn_resolveAt_of_descendant? {registry : Registry} (plain : registry.overrides = .empty)
    (unsettled : registry.types = .empty) {remaining : Nat} {id : TypeId} {last : Descriptor}
    (met : setting.catalog.descendant? remaining id = some last)
    (noRows : ¬ setting.catalog.RangeOverRow remaining id) (referrer : Option Descriptor) :
    runOn (resolveAt setting remaining id referrer) registry =
      (.error (tooDeep setting last), registry) := by
  induction remaining generalizing id referrer with
  | zero =>
    rw [runOn_resolveAt_zero, unsettled, SortedMap.find?_empty, Catalog.require_eq_ok met]
    rfl
  | succ remaining ih =>
    obtain ⟨descriptor, known⟩ := Catalog.find?_of_descendant? met
    obtain ⟨childId, child, metBelow⟩ := Catalog.childId?_of_descendant?_succ known met
    obtain ⟨role, rests, inRole⟩ := descriptor.exists_role_of_childId? child
    have noRow : role = .rangeSubtype → ¬ setting.catalog.RestsOnRow childId := by
      rintro rfl row
      exact noRows ⟨0, Nat.succ_pos _, descriptor, childId, known,
        Descriptor.kind_of_builtOver_rangeSubtype rests, inRole, row⟩
    have noRowsBelow : ¬ setting.catalog.RangeOverRow remaining childId := fun rows =>
      noRows (.of_child known child rows)
    have below := ih metBelow noRowsBelow (some descriptor)
    have synthesized : runOn (synthesize setting remaining
        (fun child => resolveAt setting remaining child (some descriptor)) id descriptor) registry =
          (.error (tooDeep setting last), registry) := by
      rw [runOn_synthesize, plain, SortedMap.find?_empty, rests]
      dsimp only
      unfold runOver
      rcases askChild_of_descendant? inRole metBelow noRow with stopped | asked
      · rw [stopped]
      · rw [asked]
        dsimp only
        rw [below]
    rw [runOn_resolveAt_succ, unsettled, SortedMap.find?_empty, Catalog.require_eq_ok known]
    dsimp only
    rw [synthesized]
    rfl

/-! ### Within the limit -/

/-- A walk over domains that end within the levels is not too deep. -/
theorem domainBottom_within {remaining : Nat} {id : TypeId} {descriptor : Descriptor}
    (known : setting.catalog.find? id = some descriptor)
    (ends : setting.catalog.descendant? remaining id = none) {error : BuildError}
    (failed : domainBottom setting remaining descriptor = .error error) :
    error.isRecursionLimit = false := by
  induction remaining generalizing id descriptor with
  | zero => cases known.symm.trans ends
  | succ remaining ih =>
    unfold domainBottom at failed
    by_cases domain : descriptor.kind = .domain
    · rw [if_pos domain] at failed
      dsimp only at failed
      cases refers : descriptor.domainBase with
      | none =>
        rw [refers] at failed
        cases failed
      | some baseId =>
        rw [refers] at failed
        dsimp only at failed
        have child : descriptor.childId? = some baseId :=
          (Descriptor.childId?_of_domain domain).trans refers
        rw [Catalog.descendant?_succ known child] at ends
        cases knownBase : setting.catalog.find? baseId with
        | none =>
          rw [Catalog.require_eq_error knownBase] at failed
          cases failed
          rfl
        | some base =>
          rw [Catalog.require_eq_ok knownBase, ok_bind] at failed
          exact ih knownBase ends failed
    · rw [if_neg domain] at failed
      cases failed

/-- A child whose chain ends within the levels is not refused for depth. -/
theorem askChild_within {remaining : Nat} {id : TypeId} {descriptor : Descriptor} {role : ChildRole}
    (known : setting.catalog.find? id = some descriptor) (rests : descriptor.builtOver = some role)
    (ends : setting.catalog.descendant? (remaining + 1) id = none) {error : BuildError}
    (refused : askChild setting remaining descriptor role = .error error) :
    error.isRecursionLimit = false := by
  unfold askChild at refused
  cases inRole : descriptor.child? role with
  | none =>
    rw [inRole] at refused
    cases refused
    rfl
  | some childId =>
    rw [inRole] at refused
    dsimp only at refused
    by_cases range : role = .rangeSubtype
    · rw [if_pos range, askSubtype] at refused
      cases knownSub : setting.catalog.find? childId with
      | none =>
        rw [Catalog.require_eq_error knownSub] at refused
        cases refused
        rfl
      | some sub =>
        rw [Catalog.require_eq_ok knownSub, ok_bind] at refused
        have child : descriptor.childId? = some childId := by
          rw [Descriptor.childId?, rests, Option.bind_some, inRole]
        rw [Catalog.descendant?_succ known child] at ends
        cases walked : domainBottom setting remaining sub with
        | error stopped =>
          rw [walked] at refused
          cases refused
          exact domainBottom_within knownSub ends walked
        | ok bottom =>
          rw [walked, ok_bind] at refused
          by_cases row : bottom.kind = .composite
          · rw [if_pos row] at refused
            cases refused
            rfl
          · rw [if_neg row] at refused
            cases refused
    · rw [if_neg range] at refused
      cases refused

end Resolve

/-- Labels without distinct names are no error of depth. -/
theorem not_isRecursionLimit_of_membersAfter {naming : Naming} {typeName : String}
    {taken : SortedMap String String} {labels : List String} {error : BuildError}
    (collide : membersAfter naming typeName taken labels = .error error) :
    error.isRecursionLimit = false := by
  induction labels generalizing taken with
  | nil => cases collide
  | cons label rest ih =>
    unfold membersAfter at collide
    dsimp only at collide
    cases first : taken.find? (memberNameOf naming label) with
    | some other =>
      rw [first] at collide
      cases collide
      rfl
    | none =>
      rw [first] at collide
      dsimp only at collide
      cases later : membersAfter naming typeName (taken.insert (memberNameOf naming label) label)
        rest with
      | error other =>
        rw [later] at collide
        cases collide
        exact ih later
      | ok members =>
        rw [later] at collide
        cases collide

variable {setting : Setting}

/-- **A chain that ends within the levels is never too deep**, whatever is settled or overridden. -/
theorem Resolves.within_limit {remaining : Nat} {id : TypeId} {referrer : Option Descriptor}
    {before after : Registry} {outcome : Except BuildError TypeEntry}
    (resolves : Resolves setting remaining id referrer before outcome after)
    (ends : setting.catalog.descendant? remaining id = none) {error : BuildError}
    (failed : outcome = .error error) : error.isRecursionLimit = false := by
  induction resolves generalizing error with
  | settled | overridden | alone | overChild => cases failed
  | unknown =>
    cases failed
    rfl
  | tooDeep _ known => cases known.symm.trans ends
  | unlabelled _ _ collide =>
    cases failed
    rw [BuildError.isRecursionLimit_resolving]
    exact not_isRecursionLimit_of_membersAfter collide
  | refused opened rests refused =>
    cases failed
    rw [BuildError.isRecursionLimit_resolving]
    exact askChild_within opened.known rests ends refused
  | childFailed opened _ ih =>
    cases failed
    rw [BuildError.isRecursionLimit_resolving]
    have inRole := child?_of_askChild opened.admitted
    rw [Catalog.descendant?_succ opened.known (by
      rw [Descriptor.childId?, opened.rests, Option.bind_some, inRole])] at ends
    exact ih ends rfl
  | unnamed =>
    cases failed
    rfl

/-! ### Exact -/

/-- **The depth limit is exact.** Nothing is settled and there are no overrides. A chain with a
descriptor beyond the limit is an error that names this descriptor, and nothing is settled by it,
unless a range within the limit may not be resolved because its subtype rests on a row type. A chain
that ends within the limit is never an error of depth. -/
theorem entry_depth_exact (setting : Setting) {registry : Registry}
    (plain : registry.overrides = .empty) (unsettled : registry.types = .empty) (id : TypeId) :
    (∀ last, setting.catalog.descendant? setting.config.depthLimit id = some last →
      ¬ setting.catalog.RangeOverRow setting.config.depthLimit id →
      runOn (Resolve.entry setting id) registry =
        (.error (.recursionLimit last.displayName last.kind
        setting.config.depthLimit), registry)) ∧
    (setting.catalog.descendant? setting.config.depthLimit id = none →
      ∀ error, (runOn (Resolve.entry setting id) registry).1 = .error error →
        error.isRecursionLimit = false) := by
  refine ⟨fun last met noRows => ?_, fun ends error failed => ?_⟩
  · exact runOn_resolveAt_of_descendant? plain unsettled met noRows none
  · have described : Described setting registry := by
      intro other entry found
      rw [unsettled, SortedMap.find?_empty] at found
      cases found
    exact (resolveAt_resolves described setting.config.depthLimit id none).within_limit ends failed

/-- A range over a domain over a domain over a number type, within a number of levels. -/
def nestedSetting (levels : Nat) : Setting where
  catalog := ⟨.ofList [
    (23, .plain 23 "pg_catalog" "int4" .base Category.numeric),
    (200, { Descriptor.plain 200 "app" "score" .domain Category.numeric with
      domainBase := some 23 }),
    (201, { Descriptor.plain 201 "app" "grade" .domain Category.numeric with
      domainBase := some 200 }),
    (202, { Descriptor.plain 202 "app" "grades" .range Category.range with
      rangeSubtype := some 201 })]⟩
  naming := .standard Descriptor.name
  config := { Config.default with depthLimit := levels }
  scalars := .make false

/-- No domain of the chain rests on a row type. -/
theorem nestedSetting_rows (levels steps : Nat) (few : steps ≤ 4) :
    ¬ (nestedSetting levels).catalog.RangeOverRow steps 202 := by
  have number : ¬ (nestedSetting levels).catalog.RestsOnRow 23 := by
    rintro (⟨known, kind⟩ | ⟨known, kind, -, -⟩) <;> cases known <;> cases kind
  have score : ¬ (nestedSetting levels).catalog.RestsOnRow 200 := by
    rintro (⟨known, kind⟩ | ⟨known, kind, refers, base⟩) <;> cases known
    · cases kind
    · cases refers
      exact number base
  have grade : ¬ (nestedSetting levels).catalog.RestsOnRow 201 := by
    rintro (⟨known, kind⟩ | ⟨known, kind, refers, base⟩) <;> cases known
    · cases kind
    · cases refers
      exact score base
  rintro ⟨step, before, range, subId, met, kind, refers, row⟩
  have within : step < 4 := by omega
  -- Only the first of the chain is a range.
  interval_cases step <;> cases met <;> cases kind
  cases refers
  exact grade row

/-- With two levels the walk over the domains meets the limit, with three the resolution of the
number type does, and with four the range is resolved. -/
theorem entry_depth_exact_nested :
    (Registry.initial.overrides = .empty ∧ Registry.initial.types = .empty) ∧
      runOn (Resolve.entry (nestedSetting 2) 202) .initial =
        (.error (.recursionLimit "app.score" .domain 2), .initial) ∧
      runOn (Resolve.entry (nestedSetting 3) 202) .initial =
        (.error (.recursionLimit "pg_catalog.int4" .base 3), .initial) ∧
      ∀ error, (runOn (Resolve.entry (nestedSetting 4) 202) .initial).1 = .error error →
        error.isRecursionLimit = false := by
  obtain ⟨two, -⟩ := @entry_depth_exact (nestedSetting 2) .initial rfl rfl 202
  obtain ⟨three, -⟩ := @entry_depth_exact (nestedSetting 3) .initial rfl rfl 202
  obtain ⟨-, four⟩ := @entry_depth_exact (nestedSetting 4) .initial rfl rfl 202
  exact ⟨⟨rfl, rfl⟩, two _ rfl (nestedSetting_rows 2 2 (by omega)),
    three _ rfl (nestedSetting_rows 3 3 (by omega)), four rfl⟩

end CatalogSchema
