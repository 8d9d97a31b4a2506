/-
**Which lists of descriptors make a catalog.**

A list makes a catalog exactly if every descriptor is complete and no two have one id, and the
catalog then finds the descriptors of the list. Nothing of this depends on the order of the list.

* `Holds`: a catalog finds exactly the descriptors of a list.
* `ofList_eq_ok_iff`: acceptance, and what the catalog holds then.
* `ofList_perm`: a list and a permutation of it are both refused or make one catalog.
-/

import CatalogSchema.Catalog.Basic

namespace CatalogSchema.Catalog

/-! ### What a catalog holds -/

/-- A catalog finds exactly the descriptors of a list. -/
def Holds (catalog : Catalog) (descriptors : List Descriptor) : Prop :=
  ∀ id descriptor, catalog.find? id = some descriptor ↔
    descriptor ∈ descriptors ∧ descriptor.id = id

theorem holds_empty : empty.Holds [] := fun _ _ => ⟨nofun, fun listed => nomatch listed.1⟩

/-- A catalog is known from what it holds. -/
theorem Holds.unique {first second : Catalog} {descriptors : List Descriptor}
    (holdsFirst : first.Holds descriptors) (holdsSecond : second.Holds descriptors) :
    first = second := by
  have same : first.types = second.types := SortedMap.eq_of_find? fun id =>
    Option.ext fun descriptor => (holdsFirst id descriptor).trans (holdsSecond id descriptor).symm
  cases first
  cases second
  cases same
  rfl

/-- The descriptors of a catalog are those that it finds. -/
theorem mem_toList_iff {catalog : Catalog} {descriptor : Descriptor} :
    descriptor ∈ catalog.toList ↔ ∃ id, catalog.find? id = some descriptor := by
  unfold toList SortedMap.values find? SortedMap.find?
  rw [List.mem_map]
  constructor
  · rintro ⟨⟨id, _⟩, listed, rfl⟩
    obtain ⟨early, late, entries⟩ := List.append_of_mem listed
    refine ⟨id, List.lookup_eq_some_iff.2 ⟨early, late, entries, fun entry before => ?_⟩⟩
    -- The ids of a catalog are in order, so no earlier one is the same.
    have sorted := catalog.types.sorted
    rw [entries, List.pairwise_append] at sorted
    have less : entry.1 < id := sorted.2.2 entry before _ List.mem_cons_self
    exact bne_iff_ne.2 (UInt32.ne_of_lt less).symm
  · rintro ⟨id, found⟩
    obtain ⟨early, late, entries, -⟩ := List.lookup_eq_some_iff.1 found
    exact ⟨(id, descriptor), by rw [entries]; simp, rfl⟩

theorem Holds.mem_toList_iff {catalog : Catalog} {descriptors : List Descriptor}
    (holds : catalog.Holds descriptors) {descriptor : Descriptor} :
    descriptor ∈ catalog.toList ↔ descriptor ∈ descriptors := by
  rw [Catalog.mem_toList_iff]
  constructor
  · rintro ⟨id, found⟩
    exact ((holds id descriptor).1 found).1
  · exact fun listed => ⟨descriptor.id, (holds _ _).2 ⟨listed, rfl⟩⟩

theorem Holds.mem_composites_iff {catalog : Catalog} {descriptors : List Descriptor}
    (holds : catalog.Holds descriptors) {descriptor : Descriptor} :
    descriptor ∈ catalog.composites ↔ descriptor ∈ descriptors ∧ descriptor.kind = .composite := by
  unfold composites
  rw [List.mem_filter, holds.mem_toList_iff, decide_eq_true_eq]

theorem Holds.perm {catalog : Catalog} {first second : List Descriptor}
    (holds : catalog.Holds first) (permuted : first.Perm second) : catalog.Holds second :=
  fun id descriptor => by
  rw [holds id descriptor, permuted.mem_iff]

/-- An id is free exactly if no descriptor of the list has it. -/
theorem Holds.find?_eq_none_iff {catalog : Catalog} {descriptors : List Descriptor}
    (holds : catalog.Holds descriptors) {id : TypeId} :
    catalog.find? id = none ↔ id ∉ descriptors.map Descriptor.id := by
  rw [Option.eq_none_iff_forall_ne_some, List.mem_map]
  exact ⟨fun free ⟨descriptor, listed⟩ => free descriptor ((holds id descriptor).2 listed),
    fun absent descriptor found => absent ⟨descriptor, (holds id descriptor).1 found⟩⟩

/-! ### One descriptor -/

variable {catalog result : Catalog} {descriptor : Descriptor}

/-- **A descriptor enters** exactly if it is complete and its id is free. -/
theorem insert_eq_ok_iff : catalog.insert descriptor = .ok result ↔
    descriptor.validate = .ok () ∧ catalog.find? descriptor.id = none ∧
      result = ⟨catalog.types.insert descriptor.id descriptor⟩ := by
  unfold insert
  cases descriptor.validate with
  | error error =>
    constructor
    · intro made
      cases made
    · rintro ⟨complete, -⟩
      cases complete
  | ok =>
    cases catalog.find? descriptor.id with
    | some existing =>
      constructor
      · intro made
        cases made
      · rintro ⟨-, free, -⟩
        cases free
    | none =>
      change Except.ok _ = Except.ok result ↔ _
      simp [eq_comm]

/-- The catalog holds one descriptor more then. -/
theorem Holds.insert {descriptors : List Descriptor} (holds : catalog.Holds descriptors)
    (free : catalog.find? descriptor.id = none) :
    Holds ⟨catalog.types.insert descriptor.id descriptor⟩ (descriptors ++ [descriptor]) := by
  intro id other
  have absent := holds.find?_eq_none_iff.1 free
  rw [List.mem_append, List.mem_singleton]
  by_cases same : id = descriptor.id
  · subst same
    rw [find?, SortedMap.find?_insert_self, Option.some.injEq]
    refine ⟨fun found => ⟨.inr found.symm, congrArg Descriptor.id found.symm⟩, ?_⟩
    rintro ⟨listed | rfl, same⟩
    · exact absurd (List.mem_map.2 ⟨other, listed, same⟩) absent
    · rfl
  · rw [find?, SortedMap.find?_insert_of_ne _ same]
    refine (holds id other).trans ⟨fun listed => ⟨.inl listed.1, listed.2⟩, ?_⟩
    rintro ⟨listed | rfl, here⟩
    · exact ⟨listed, here⟩
    · exact absurd here.symm same

/-- Its id is a new one. -/
theorem Holds.nodup_insert {descriptors : List Descriptor} (holds : catalog.Holds descriptors)
    (distinct : (descriptors.map Descriptor.id).Nodup) (free : catalog.find? descriptor.id = none) :
    ((descriptors ++ [descriptor]).map Descriptor.id).Nodup := by
  rw [List.map_append, List.nodup_append]
  refine ⟨distinct, by simp, fun id known other single same => ?_⟩
  rw [same, List.mem_singleton.1 single] at known
  exact holds.find?_eq_none_iff.1 free known

/-! ### Lists -/

/-- **More descriptors enter** exactly if they are complete and no id comes twice. -/
theorem insertMany_eq_ok_iff {before descriptors : List Descriptor} (holds : catalog.Holds before)
    (distinct : (before.map Descriptor.id).Nodup) :
    catalog.insertMany descriptors = .ok result ↔
      (∀ descriptor ∈ descriptors, descriptor.validate = .ok ()) ∧
        ((before ++ descriptors).map Descriptor.id).Nodup ∧
        result.Holds (before ++ descriptors) := by
  -- `before` lists what the catalog holds already: the induction moves each descriptor to its end.
  induction descriptors generalizing catalog before with
  | nil =>
    rw [List.append_nil]
    change Except.ok catalog = Except.ok result ↔ _
    rw [Except.ok.injEq]
    constructor
    · rintro rfl
      exact ⟨List.forall_mem_nil _, distinct, holds⟩
    · exact fun ⟨_, _, same⟩ => holds.unique same
  | cons descriptor descriptors ih =>
    have first : catalog.insertMany (descriptor :: descriptors) =
        (catalog.insert descriptor).bind (insertMany · descriptors) := rfl
    have moved : before ++ descriptor :: descriptors = before ++ [descriptor] ++ descriptors := by
      simp
    rw [first, moved]
    have later (complete : descriptor.validate = .ok ())
        (free : catalog.find? descriptor.id = none) :
        (catalog.insert descriptor).bind (insertMany · descriptors) = .ok result ↔
          (∀ other ∈ descriptors, other.validate = .ok ()) ∧
            ((before ++ [descriptor] ++ descriptors).map Descriptor.id).Nodup ∧
              result.Holds (before ++ [descriptor] ++ descriptors) := by
      rw [insert_eq_ok_iff.2 ⟨complete, free, rfl⟩]
      exact ih (holds.insert free) (holds.nodup_insert distinct free)
    constructor
    · intro accepted
      cases entered : catalog.insert descriptor with
      | error error =>
        rw [entered] at accepted
        cases accepted
      | ok next =>
        obtain ⟨complete, free, -⟩ := insert_eq_ok_iff.1 entered
        obtain ⟨others, distinctAll, held⟩ := (later complete free).1 accepted
        exact ⟨List.forall_mem_cons.2 ⟨complete, others⟩, distinctAll, held⟩
    · rintro ⟨complete, distinctAll, held⟩
      have free : catalog.find? descriptor.id = none := by
        refine holds.find?_eq_none_iff.2 fun known => ?_
        rw [List.append_assoc, List.map_append, List.nodup_append] at distinctAll
        exact distinctAll.2.2 _ known _ (List.mem_map_of_mem (by simp)) rfl
      exact (later (complete _ List.mem_cons_self) free).2
        ⟨fun other listed => complete other (.tail _ listed), distinctAll, held⟩

/-- **A list makes a catalog** exactly if its descriptors are complete and no two have one id. -/
theorem ofList_eq_ok_iff {descriptors : List Descriptor} :
    ofList descriptors = .ok result ↔
      (∀ descriptor ∈ descriptors, descriptor.validate = .ok ()) ∧
        (descriptors.map Descriptor.id).Nodup ∧ result.Holds descriptors :=
  insertMany_eq_ok_iff holds_empty List.nodup_nil

/-- **The order of a list does not matter**: a permutation of it makes the same catalog, or none as
well. -/
theorem ofList_perm {first second : List Descriptor} (permuted : first.Perm second) :
    ofList first = .ok result ↔ ofList second = .ok result := by
  have swap {one other : List Descriptor} (permuted : one.Perm other)
      (made : ofList one = .ok result) :
      ofList other = .ok result := by
    obtain ⟨complete, distinct, holds⟩ := ofList_eq_ok_iff.1 made
    exact ofList_eq_ok_iff.2
      ⟨fun descriptor listed => complete descriptor (permuted.mem_iff.2 listed),
      ((permuted.map Descriptor.id).nodup_iff).1 distinct, holds.perm permuted⟩
  exact ⟨swap permuted, swap permuted.symm⟩

end CatalogSchema.Catalog
