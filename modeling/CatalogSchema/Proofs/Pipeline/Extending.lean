/-
**Extending shared capabilities.**

Contributors extend one state, each with a batch of keyed values under its label. Whoever brings a
key first keeps it: a batch is taken as a whole or, where one of its keys is taken already, not at
all.

* `addAll_eq_ok`, `addAll_eq_error`: what one batch does, by whether it fits.
* `Capabilities.Holds`: a state holds exactly what a list of batches brought. A batch that is taken
  keeps this (`Holds.extend`), and so does a whole history (`holds_afterAll`).
* `first_writer_keeps`: what is known of the state after any history, and of the next batch.
-/

import CatalogSchema.Pipeline.Capabilities
import CatalogSchema.Proofs.Pipeline.Attempts
import Mathlib.Algebra.GroupWithZero.Nat
import Mathlib.Data.List.Induction
import Mathlib.Data.List.Nodup
import Mathlib.Data.List.Perm.Basic

namespace CatalogSchema

/-! ### Maps filled from lists -/

namespace SortedMap

variable {κ : Type u} {α : Type v} [LT κ]

theorem mem_keys_iff [DecidableEq κ] (map : SortedMap κ α) {key : κ} :
    key ∈ map.keys ↔ map.contains key = true := by
  unfold keys contains find?
  rw [List.lookup_isSome_iff, List.mem_map]
  constructor
  · rintro ⟨entry, listed, rfl⟩
    exact ⟨entry, listed, beq_self_eq_true _⟩
  · rintro ⟨entry, listed, same⟩
    exact ⟨entry, listed, (eq_of_beq same).symm⟩

variable [LE κ] [Std.LawfulOrderLT κ]

theorem nodup_keys [Std.IsPreorder κ] (map : SortedMap κ α) : map.keys.Nodup :=
  List.pairwise_map.2 (map.sorted.imp fun below same => by
    rw [same] at below
    exact Std.lt_irrefl below)

variable [Std.IsLinearOrder κ] [DecidableLT κ] [DecidableEq κ]

theorem find?_insertMany_of_notMem (map : SortedMap κ α) {entries : List (κ × α)} {key : κ}
    (absent : key ∉ entries.map (·.1)) : (map.insertMany entries).find? key = map.find? key := by
  induction entries generalizing map with
  | nil => rfl
  | cons entry entries ih =>
    rw [List.map_cons, List.mem_cons, not_or] at absent
    change ((map.insert entry.1 entry.2).insertMany entries).find? key = _
    rw [ih _ absent.2, find?_insert_of_ne _ absent.1]

theorem find?_insertMany_of_mem (map : SortedMap κ α) {entries : List (κ × α)}
    (distinct : (entries.map (·.1)).Nodup) {key : κ} {value : α} (listed : (key, value) ∈ entries) :
    (map.insertMany entries).find? key = some value := by
  induction entries generalizing map with
  | nil => cases listed
  | cons entry entries ih =>
    obtain ⟨fresh, distinctRest⟩ := List.nodup_cons.1 distinct
    change ((map.insert entry.1 entry.2).insertMany entries).find? key = _
    rcases List.mem_cons.1 listed with rfl | later
    · rw [find?_insertMany_of_notMem _ fresh, find?_insert_self]
    · exact ih _ distinctRest later

end SortedMap

/-! ### One batch -/

/-- Keyed values that a contributor adds under its label. -/
structure Batch (α : Type u) where
  label : String
  additions : List (String × α)

variable {α : Type u}

/-- The keys of a batch, in the order they are added. -/
def Batch.keys (batch : Batch α) : List String := batch.additions.map (·.1)

/-- What a state holds of a batch that it took. -/
def Batch.entries (batch : Batch α) : List (String × Capability α) :=
  batch.additions.map fun addition => (addition.1, ⟨batch.label, addition.2⟩)

theorem Batch.keys_entries (batch : Batch α) : batch.entries.map (·.1) = batch.keys := by
  unfold entries keys
  rw [List.map_map]
  rfl

namespace Capabilities

section AddAll

variable {label : String} {entries : SortedMap String (Capability α)}

theorem addAll_append (label : String) (entries : SortedMap String (Capability α))
    (early late : List (String × α)) :
    addAll label entries (early ++ late) =
      (addAll label entries early).bind fun grown => addAll label grown late := by
  induction early generalizing entries with
  | nil => rfl
  | cons addition early ih =>
    simp only [List.cons_append, addAll]
    cases entries.find? addition.1 with
    | some held => rfl
    | none => exact ih _

/-- Distinct keys that are free are all added. -/
theorem addAll_eq_ok {additions : List (String × α)} (distinct : (additions.map (·.1)).Nodup)
    (free : ∀ key ∈ additions.map (·.1), entries.find? key = none) :
    addAll label entries additions =
      .ok (entries.insertMany (Batch.mk label additions).entries) := by
  induction additions generalizing entries with
  | nil => rfl
  | cons addition additions ih =>
    obtain ⟨fresh, distinctRest⟩ := List.nodup_cons.1 distinct
    unfold addAll
    rw [free _ List.mem_cons_self]
    refine ih distinctRest fun key listed => ?_
    have other : key ≠ addition.1 := by
      rintro rfl
      exact fresh listed
    rw [SortedMap.find?_insert_of_ne _ other]
    exact free key (List.mem_cons_of_mem _ listed)

/-- The first key that is taken, before the batch or earlier in it, ends the attempt. -/
theorem addAll_eq_error {early late : List (String × α)} {key existing : String} {value : α}
    (distinct : (early.map (·.1)).Nodup) (free : ∀ key ∈ early.map (·.1), entries.find? key = none)
    (taken : (entries.find? key).map (·.label) = some existing ∨
      key ∈ early.map (·.1) ∧ existing = label) :
    addAll label entries (early ++ (key, value) :: late) =
      .error (.duplicateCapability key existing label) := by
  rw [addAll_append, addAll_eq_ok distinct free]
  let batch : Batch α := ⟨label, early⟩
  have held : ∃ capability, (entries.insertMany batch.entries).find? key = some capability ∧
      capability.label = existing := by
    rcases taken with before | ⟨within, rfl⟩
    · obtain ⟨capability, found, labelled⟩ := Option.map_eq_some_iff.1 before
      have absent : key ∉ batch.entries.map (·.1) := fun listed => by
        rw [Batch.keys_entries] at listed
        rw [free key listed] at found
        cases found
      exact ⟨capability, (SortedMap.find?_insertMany_of_notMem _ absent).trans found, labelled⟩
    · obtain ⟨⟨_, added⟩, listed, rfl⟩ := List.mem_map.1 within
      have entered := SortedMap.find?_insertMany_of_mem entries
        (batch.keys_entries ▸ distinct : (batch.entries.map (·.1)).Nodup)
        (List.mem_map_of_mem listed)
      exact ⟨_, entered, rfl⟩
  obtain ⟨capability, found, rfl⟩ := held
  change addAll label _ ((key, value) :: late) = _
  unfold addAll
  rw [found]

/-- Keys are distinct and free up to the end, or up to a first one that is taken. -/
theorem free_or_taken (label : String) (entries : SortedMap String (Capability α))
    (additions : List (String × α)) :
    ((additions.map (·.1)).Nodup ∧ ∀ key ∈ additions.map (·.1), entries.find? key = none) ∨
      ∃ early key value late existing, additions = early ++ (key, value) :: late ∧
        (early.map (·.1)).Nodup ∧ (∀ key ∈ early.map (·.1), entries.find? key = none) ∧
        ((entries.find? key).map (·.label) = some existing ∨
          key ∈ early.map (·.1) ∧ existing = label) := by
  induction additions using List.reverseRecOn with
  | nil => exact .inl ⟨List.nodup_nil, nofun⟩
  | append_singleton early addition ih =>
    rcases ih with ⟨distinct, free⟩ | ⟨first, key, value, late, existing, rfl, clash⟩
    · by_cases within : addition.1 ∈ early.map (·.1)
      · exact .inr ⟨early, addition.1, addition.2, [], label, rfl, distinct,
          free, .inr ⟨within, rfl⟩⟩
      cases found : entries.find? addition.1 with
      | some held =>
        exact .inr ⟨early, addition.1, addition.2, [], held.label, rfl, distinct, free,
          .inl (by rw [found]; rfl)⟩
      | none =>
        refine .inl ⟨?_, fun key listed => ?_⟩
        · rw [List.map_append]
          exact distinct.append (List.nodup_singleton _) (List.disjoint_singleton.2 within)
        · rw [List.map_append, List.mem_append] at listed
          rcases listed with before | last
          · exact free key before
          · rw [List.mem_singleton.1 last]
            exact found
    · exact .inr ⟨first, key, value, late ++ [addition], existing, by simp, clash⟩

end AddAll

/-- No key of the batch is taken, neither in the state nor earlier in the batch. -/
structure Fits (state : Capabilities α) (batch : Batch α) : Prop where
  distinct : batch.keys.Nodup
  free : ∀ key ∈ batch.keys, state.contains key = false

/-- The error of a batch names its first key that is taken: the keys before it are distinct and
free, and it was added by the label it names, or earlier in the batch itself. -/
inductive Refuses (state : Capabilities α) (batch : Batch α) : PipelineError → Prop where
  | clash {early late : List (String × α)} {key existing : String} {value : α}
    (split : batch.additions = early ++ (key, value) :: late)
    (distinct : (early.map (·.1)).Nodup)
    (free : ∀ key ∈ early.map (·.1), state.contains key = false)
    (taken : state.labelOf? key = some existing ∨ key ∈ early.map (·.1) ∧ existing = batch.label) :
    Refuses state batch (.duplicateCapability key existing batch.label)

variable {state grown : Capabilities α} {batch : Batch α}

theorem contains_eq_false_iff {key : String} :
    state.contains key = false ↔ state.entries.find? key = none := by
  unfold Capabilities.contains SortedMap.contains
  rw [Option.isSome_eq_false_iff, Option.isNone_iff_eq_none]

/-- A batch that fits is added as a whole. -/
theorem Fits.extend (fits : state.Fits batch) :
    state.extend batch.additions batch.label =
      .ok ⟨state.entries.insertMany batch.entries, state.version + 1⟩ := by
  unfold Capabilities.extend
  rw [addAll_eq_ok fits.distinct fun key listed => contains_eq_false_iff.1 (fits.free key listed)]
  rfl

/-- Every batch fits or is refused. -/
theorem fits_or_refused (state : Capabilities α) (batch : Batch α) :
    state.Fits batch ∨ ∃ error, state.Refuses batch error ∧
      state.extend batch.additions batch.label = .error error := by
  rcases free_or_taken batch.label state.entries batch.additions with
    ⟨distinct, free⟩ | ⟨early, key, value, late, existing, split, distinct, free, taken⟩
  · exact .inl ⟨distinct, fun key listed => contains_eq_false_iff.2 (free key listed)⟩
  · refine .inr ⟨_,
      .clash split distinct (fun key listed => contains_eq_false_iff.2 (free key listed)) taken, ?_⟩
    unfold Capabilities.extend
    rw [split, addAll_eq_error distinct free taken]
    rfl

/-! ### Whole histories -/

/-- The state extended by a batch. -/
def extendBy (state : Capabilities α) (batch : Batch α) : Except PipelineError (Capabilities α) :=
  state.extend batch.additions batch.label

/-- The state after batches, each applied to what the ones before it left. -/
def afterAll (history : List (Batch α)) : Capabilities α := attemptAll extendBy empty history

/-- The batches of a history that are taken, in their order. -/
def succeeded (history : List (Batch α)) : List (Batch α) := taken extendBy empty history

/-- A state holds exactly what batches brought, and no key came twice. -/
structure Holds (state : Capabilities α) (batches : List (Batch α)) : Prop where
  distinct : (batches.flatMap Batch.keys).Nodup
  brought : ∀ batch ∈ batches, ∀ key value, (key, value) ∈ batch.additions →
    state.entries.find? key = some ⟨batch.label, value⟩
  only : ∀ key, state.contains key = true → key ∈ batches.flatMap Batch.keys
  version : state.version = batches.length

variable {batches : List (Batch α)}

theorem holds_empty : Holds (empty : Capabilities α) [] where
  distinct := List.nodup_nil
  brought := nofun
  only := nofun
  version := rfl

theorem Holds.contains (holds : state.Holds batches) {key : String}
    (listed : key ∈ batches.flatMap Batch.keys) : state.contains key = true := by
  obtain ⟨batch, member, added⟩ := List.mem_flatMap.1 listed
  obtain ⟨⟨_, value⟩, addition, rfl⟩ := List.mem_map.1 added
  unfold Capabilities.contains SortedMap.contains
  rw [holds.brought batch member _ value addition]
  rfl

/-- **A batch that fits is one more that the state holds.** -/
theorem Holds.extend (holds : state.Holds batches) (fits : state.Fits batch) :
    Holds ⟨state.entries.insertMany batch.entries, state.version + 1⟩ (batches ++ [batch]) where
  distinct := by
    rw [List.flatMap_append, List.flatMap_singleton]
    refine holds.distinct.append fits.distinct fun key old new => ?_
    have taken := holds.contains old
    rw [fits.free key new] at taken
    cases taken
  brought source member key value addition := by
    rcases List.mem_append.1 member with old | new
    · have absent : key ∉ batch.entries.map (·.1) := fun listed => by
        rw [Batch.keys_entries] at listed
        have found := holds.brought source old key value addition
        rw [contains_eq_false_iff.1 (fits.free key listed)] at found
        cases found
      exact (SortedMap.find?_insertMany_of_notMem _ absent).trans
        (holds.brought source old key value addition)
    · obtain rfl := List.mem_singleton.1 new
      refine SortedMap.find?_insertMany_of_mem _ ?_ (List.mem_map_of_mem addition)
      rw [Batch.keys_entries]
      exact fits.distinct
  only key held := by
    rw [List.flatMap_append, List.flatMap_singleton, List.mem_append]
    by_cases new : key ∈ batch.keys
    · exact .inr new
    · rw [← Batch.keys_entries] at new
      unfold Capabilities.contains SortedMap.contains at held
      rw [SortedMap.find?_insertMany_of_notMem _ new] at held
      exact .inl (holds.only key held)
  version := by
    rw [List.length_append, List.length_singleton, holds.version]

/-- **A history of batches leaves a state that holds those that were taken.** -/
theorem holds_afterAll (history : List (Batch α)) :
    (afterAll history).Holds (succeeded history) := by
  refine holds_attemptAll extendBy (fun state _ batches => Holds state batches) ?_ ?_ []
    [] holds_empty history
  · intro state _ batches batch next holds accepted
    rcases state.fits_or_refused batch with fits | ⟨_, -, refused⟩
    · cases fits.extend.symm.trans accepted
      exact holds.extend fits
    · cases refused.symm.trans accepted
  · intro state _ batches batch error holds _
    exact holds

theorem Holds.keys_perm (holds : state.Holds batches) :
    state.keys.Perm (batches.flatMap Batch.keys) := by
  refine (List.perm_ext_iff_of_nodup state.entries.nodup_keys holds.distinct).2 fun key => ?_
  exact state.entries.mem_keys_iff.trans ⟨holds.only key, holds.contains⟩

theorem Holds.size (holds : state.Holds batches) :
    state.size = (batches.map (·.additions.length)).sum := by
  have counted := holds.keys_perm.length_eq
  unfold Capabilities.keys SortedMap.keys at counted
  simp only [List.length_map, List.length_flatMap, Batch.keys] at counted
  exact counted

/-- **Whoever brings a key first keeps it.** After any history, a batch is taken iff its keys are
distinct and free; its first key that is not is what its error names, and nothing of it is added.
The keys of the state are those of the batches that were taken, no key in two of them, each with the
value and the label of its batch, now and after any later history. -/
theorem first_writer_keeps {β : Type v} (select : α → Option β) (history : List (Batch α))
    (batch : Batch α) :
    let state := afterAll history
    ((∃ grown, state.extend batch.additions batch.label = .ok grown) ↔ state.Fits batch) ∧
    (∀ grown, state.extend batch.additions batch.label = .ok grown →
      afterAll (history ++ [batch]) = grown ∧
        succeeded (history ++ [batch]) = succeeded history ++ [batch]) ∧
    (∀ error, state.extend batch.additions batch.label = .error error →
      afterAll (history ++ [batch]) = state ∧ succeeded (history ++ [batch]) = succeeded history ∧
        state.Refuses batch error) ∧
    state.keys.Perm ((succeeded history).flatMap Batch.keys) ∧
    ((succeeded history).flatMap Batch.keys).Nodup ∧
    (∀ source ∈ succeeded history, ∀ key value, (key, value) ∈ source.additions →
      ∀ later : List (Batch α), (afterAll (history ++ later)).find? select key = select value ∧
        (afterAll (history ++ later)).labelOf? key = some source.label) ∧
    state.version = (succeeded history).length ∧
    state.size = ((succeeded history).map (·.additions.length)).sum := by
  intro state
  have holds : state.Holds (succeeded history) := holds_afterAll history
  refine ⟨⟨?_, fun fits => ⟨_, fits.extend⟩⟩,
    fun grown accepted => attemptAll_snoc_of_ok extendBy accepted, ?_,
    holds.keys_perm, holds.distinct, ?_, holds.version, holds.size⟩
  · rintro ⟨grown, accepted⟩
    rcases state.fits_or_refused batch with fits | ⟨error, -, refused⟩
    · exact fits
    · cases refused.symm.trans accepted
  · intro error failed
    obtain ⟨stays, dropped⟩ := attemptAll_snoc_of_error extendBy failed
    refine ⟨stays, dropped, ?_⟩
    rcases state.fits_or_refused batch with fits | ⟨other, refuses, refused⟩
    · cases fits.extend.symm.trans failed
    · cases refused.symm.trans failed
      exact refuses
  · intro source member key value addition later
    have still : source ∈ succeeded (history ++ later) := by
      unfold succeeded
      rw [taken_append]
      exact List.mem_append_left _ member
    have held := (holds_afterAll (history ++ later)).brought source still key value addition
    unfold Capabilities.find? labelOf?
    rw [held]
    exact ⟨rfl, rfl⟩

example :
    let state : Capabilities Nat := afterAll
      [⟨"core", [("sql", 1), ("naming", 2)]⟩, ⟨"tables", [("types", 3), ("types", 4)]⟩]
    state.keys = ["naming", "sql"] ∧ state.version = 1 ∧
      state.extend [("log", 5), ("sql", 6)] "node" =
        .error (.duplicateCapability "sql" "core" "node") :=
  ⟨by decide +kernel, by decide +kernel, rfl⟩

end Capabilities

end CatalogSchema
