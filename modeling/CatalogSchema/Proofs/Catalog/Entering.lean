/-
**Catalogs after any calls.**

Callers add descriptors to a catalog, in place or to a copy, and make new catalogs of lists.
Whatever they do, and whatever is refused, a catalog holds the descriptors that were accepted since
it was made: each under its own id, no two with one id, and each with the child that its kind
requires.

* `Entered`: what a catalog has to do with the descriptors that were accepted. One call keeps it
  (`Entered.step`), and so does a history (`entered_afterAll`).
* `Entered.size`: the accepted descriptors are counted.
* `Complete`: no descriptor lacks the child that its kind requires.
-/

import CatalogSchema.Proofs.Catalog.Listing
import CatalogSchema.Proofs.Pipeline.Extending

namespace CatalogSchema

/-- A descriptor is refused for a missing child, and for nothing else. -/
theorem Descriptor.validate_eq_ok_iff {descriptor : Descriptor} :
    descriptor.validate = .ok () ↔ descriptor.missingChild? = none := by
  unfold validate
  cases descriptor.missingChild? with
  | none => exact ⟨fun _ => rfl, fun _ => rfl⟩
  | some role => exact ⟨nofun, nofun⟩

namespace Catalog

/-- No descriptor lacks the child that its kind requires. -/
def Complete (catalog : Catalog) : Prop :=
  ∀ id descriptor, catalog.find? id = some descriptor → descriptor.missingChild? = none

/-! ### Calls -/

/-- What callers do with a catalog. -/
inductive Call where
  /-- Adds a descriptor. -/
  | insert (descriptor : Descriptor)
  /-- Adds a descriptor to a copy, which takes the place of the catalog. -/
  | withType (descriptor : Descriptor)
  /-- Makes a catalog of a list, which takes the place of the catalog. -/
  | fromDescriptors (descriptors : List Descriptor)

/-- The catalog that a call makes of a catalog, unless it is refused. -/
def step (catalog : Catalog) : Call → Except BuildError Catalog
  | .insert descriptor | .withType descriptor => catalog.insert descriptor
  | .fromDescriptors descriptors => ofList descriptors

/-- The descriptors that are in a catalog after an accepted call, given those before it. -/
def Call.enters (call : Call) (before : List Descriptor) : List Descriptor :=
  match call with
  | .insert descriptor | .withType descriptor => before ++ [descriptor]
  | .fromDescriptors descriptors => descriptors

/-- The catalog after calls, the first of them on the empty catalog; those that are refused leave
it. -/
def afterAll (history : List Call) : Catalog := attemptAll step empty history

/-- The descriptors that were accepted since the catalog was made. -/
def accepted (history : List Call) : List Descriptor :=
  (taken step empty history).foldl (fun before call => call.enters before) []

/-! ### What calls keep -/

/-- **A catalog holds the descriptors that were accepted**, all complete and no two with one id. -/
structure Entered (catalog : Catalog) (descriptors : List Descriptor) : Prop where
  holds : catalog.Holds descriptors
  complete : ∀ descriptor ∈ descriptors, descriptor.missingChild? = none
  distinct : (descriptors.map Descriptor.id).Nodup

namespace Entered

variable {catalog next : Catalog} {descriptors : List Descriptor}

protected theorem empty : Entered empty [] := ⟨holds_empty, List.forall_mem_nil _, List.nodup_nil⟩

theorem ofList (made : ofList descriptors = .ok catalog) : catalog.Entered descriptors := by
  obtain ⟨complete, distinct, holds⟩ := ofList_eq_ok_iff.1 made
  exact ⟨holds, fun descriptor listed => Descriptor.validate_eq_ok_iff.1
    (complete descriptor listed), distinct⟩

theorem insert (entered : catalog.Entered descriptors) {descriptor : Descriptor}
    (accepted : catalog.insert descriptor = .ok next) :
    next.Entered (descriptors ++ [descriptor]) := by
  obtain ⟨complete, free, rfl⟩ := insert_eq_ok_iff.1 accepted
  have alone : ∀ other ∈ [descriptor], other.missingChild? = none :=
    List.forall_mem_singleton.2 (Descriptor.validate_eq_ok_iff.1 complete)
  exact ⟨entered.holds.insert free, List.forall_mem_append.2 ⟨entered.complete, alone⟩,
    entered.holds.nodup_insert entered.distinct free⟩

/-- **One accepted call.** -/
theorem step (entered : catalog.Entered descriptors) {call : Call}
    (accepted : catalog.step call = .ok next) :
    next.Entered (call.enters descriptors) := by
  cases call with
  | insert descriptor | withType descriptor => exact entered.insert accepted
  | fromDescriptors listed => exact .ofList accepted

/-- What a catalog finds is filed under its own id and complete. -/
theorem found (entered : catalog.Entered descriptors) {id : TypeId} {descriptor : Descriptor}
    (known : catalog.find? id = some descriptor) :
    descriptor.id = id ∧ descriptor.missingChild? = none := by
  obtain ⟨listed, own⟩ := (entered.holds id descriptor).1 known
  exact ⟨own, entered.complete descriptor listed⟩

/-- **The accepted descriptors are counted.** -/
theorem size (entered : catalog.Entered descriptors) : catalog.size = descriptors.length := by
  have keys : catalog.types.keys.Perm (descriptors.map Descriptor.id) := by
    refine (List.perm_ext_iff_of_nodup catalog.types.nodup_keys entered.distinct).2 fun id => ?_
    rw [SortedMap.mem_keys_iff, ← not_iff_not, ← entered.holds.find?_eq_none_iff]
    unfold SortedMap.contains Catalog.find?
    simp
  have counted := keys.length_eq
  unfold SortedMap.keys at counted
  rwa [List.length_map, List.length_map] at counted

end Entered

/-- **Any calls**, from the empty catalog on. -/
theorem entered_afterAll (history : List Call) : (afterAll history).Entered (accepted history) := by
  refine holds_attemptAll step
    (fun catalog _ done => catalog.Entered (done.foldl (fun before call => call.enters before) []))
    ?_ ?_ [] [] .empty history
  · intro catalog _ done call next entered accepted
    rw [List.foldl_append]
    exact entered.step accepted
  · intro catalog _ done call error entered _
    exact entered

theorem complete_afterAll (history : List Call) : (afterAll history).Complete :=
  fun _ _ known => ((entered_afterAll history).found known).2

/-- **A descriptor is accepted** exactly if it has the child that its kind requires and its id is
free. -/
theorem exists_insert_iff {catalog : Catalog} {descriptor : Descriptor} :
    (∃ next, catalog.insert descriptor = .ok next) ↔
      descriptor.missingChild? = none ∧ catalog.find? descriptor.id = none := by
  simp only [insert_eq_ok_iff, Descriptor.validate_eq_ok_iff, exists_and_left, exists_eq, and_true]

/-- **A refused call leaves the catalog**, and what was accepted. -/
theorem afterAll_snoc_of_error {history : List Call} {call : Call} {error : BuildError}
    (refused : (afterAll history).step call = .error error) :
    afterAll (history ++ [call]) = afterAll history ∧
      accepted (history ++ [call]) = accepted history := by
  obtain ⟨stays, dropped⟩ := attemptAll_snoc_of_error step refused
  unfold accepted
  rw [dropped]
  exact ⟨stays, rfl⟩

end Catalog

end CatalogSchema
