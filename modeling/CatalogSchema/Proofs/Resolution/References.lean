/-
**References between types.**

* `Refers`: an id without override refers to the child that its type is built over.
* `Grounded`: the references of an id end. An id that leads back to itself is not grounded.
* `child?_of_askChild`: a type only asks for the child that it refers to.
-/

import CatalogSchema.Proofs.Resolution.Resolves
import Mathlib.Logic.Relation

namespace CatalogSchema

open Relation

/-! ### References -/

/-- An id without override refers to the child that its type is built over. -/
structure Refers (setting : Setting) (overrides : SortedMap TypeId Override) (id child : TypeId) :
    Prop where
  plain : overrides.find? id = none
  child : ∃ descriptor role, setting.catalog.find? id = some descriptor ∧
    descriptor.builtOver = some role ∧ descriptor.child? role = some child

/-- The references of an id end, whichever way one follows them. -/
abbrev Grounded (setting : Setting) (overrides : SortedMap TypeId Override) (id : TypeId) : Prop :=
  Acc (fun child parent => Refers setting overrides parent child) id

variable {setting : Setting} {overrides : SortedMap TypeId Override}

/-- References that end do not lead back. -/
theorem Grounded.not_cyclic {id : TypeId} (grounded : Grounded setting overrides id) :
    ¬ TransGen (Refers setting overrides) id id := by
  induction grounded with
  | intro id _ ih =>
    intro cycle
    obtain ⟨child, refers, back⟩ := TransGen.head'_iff.1 cycle
    exact ih child refers (TransGen.tail' back refers)

/-- Fewer references end sooner. -/
theorem Grounded.mono {fewer : SortedMap TypeId Override}
    (sub : ∀ {id child}, Refers setting fewer id child → Refers setting overrides id child)
    {id : TypeId} (grounded : Grounded setting overrides id) : Grounded setting fewer id := by
  induction grounded with
  | intro id _ ih => exact .intro id fun child refers => ih child (sub refers)

/-! ### Admitted children -/

namespace Resolve

/-- The subtype of a range is admitted when the chain of domains below it ends, within the levels
that remain, in something else than a row type. -/
theorem askSubtype_eq_ok {remaining : Nat} {descriptor : Descriptor} {subId childId : TypeId}
    (admitted : askSubtype setting remaining descriptor subId = .ok childId) :
    childId = subId ∧ ∃ sub bottom, setting.catalog.find? subId = some sub ∧
      domainBottom setting remaining sub = .ok bottom ∧ bottom.kind ≠ .composite := by
  unfold askSubtype at admitted
  cases required : setting.catalog.require subId (some descriptor) with
  | error error =>
    rw [required] at admitted
    cases admitted
  | ok sub =>
    rw [required, ok_bind] at admitted
    cases walked : domainBottom setting remaining sub with
    | error error =>
      rw [walked] at admitted
      cases admitted
    | ok bottom =>
      rw [walked, ok_bind] at admitted
      by_cases composite : bottom.kind = .composite
      · rw [if_pos composite] at admitted
        cases admitted
      · rw [if_neg composite] at admitted
        cases admitted
        exact ⟨rfl, sub, bottom, Catalog.find?_of_require required, walked, composite⟩

/-- The child that is admitted is the one that the descriptor names. -/
theorem child?_of_askChild {remaining : Nat} {descriptor : Descriptor} {role : ChildRole}
    {childId : TypeId} (admitted : askChild setting remaining descriptor role = .ok childId) :
    descriptor.child? role = some childId := by
  unfold askChild at admitted
  cases found : descriptor.child? role with
  | none =>
    rw [found] at admitted
    cases admitted
  | some child =>
    rw [found] at admitted
    dsimp only at admitted
    by_cases range : role = .rangeSubtype
    · rw [if_pos range] at admitted
      rw [(askSubtype_eq_ok admitted).1]
    · rw [if_neg range] at admitted
      cases admitted
      rfl

end Resolve

/-- An id that is made over a child refers to it. -/
theorem OpenedOver.refers {registry : Registry} {remaining : Nat} {id childId : TypeId}
    {descriptor : Descriptor} {role : ChildRole}
    (opened : OpenedOver setting registry remaining id descriptor role childId) :
    Refers setting registry.overrides id childId :=
  ⟨opened.plain, descriptor, role, opened.known, opened.rests,
    Resolve.child?_of_askChild opened.admitted⟩

end CatalogSchema
