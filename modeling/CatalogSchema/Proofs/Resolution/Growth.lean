/-
**What is settled stays.**

Types keep their fields and registries keep their entries, whatever is made or settled later.

* `TypePool.Grows`: a later pool has handed out more serial numbers, and the types made before have
  the same fields.
* `Registry.Grows`: a later registry answers every question about a settled id as before.
* `Registry.SameEntries`: only types and the objects of ranges were made; no id was settled.
* `Registry.OnlyMakes`: only types were made.
* `Registry.Grows.file`: filing an id that was not settled changes nothing about any other.
-/

import CatalogSchema.Proofs.Resolution.Running

namespace CatalogSchema

/-! ### Storing under a new key -/

namespace SortedMap

section Insert

variable {κ : Type u} {α : Type v} [LT κ] [LE κ] [DecidableLT κ] [Std.LawfulOrderLT κ]
  [Std.IsLinearOrder κ] [DecidableEq κ]

theorem insertIfNew_of_none {map : SortedMap κ α} {key : κ} (free : map.find? key = none)
    (value : α) : map.insertIfNew key value = map.insert key value := by
  unfold insertIfNew contains
  rw [free]
  rfl

theorem find?_insertIfNew_self {map : SortedMap κ α} {key : κ} (free : map.find? key = none)
    (value : α) : (map.insertIfNew key value).find? key = some value := by
  rw [insertIfNew_of_none free, find?_insert_self]

theorem find?_insertIfNew_of_ne (map : SortedMap κ α) {key wanted : κ} (different : wanted ≠ key)
    (value : α) : (map.insertIfNew key value).find? wanted = map.find? wanted := by
  unfold insertIfNew
  split
  · rfl
  · exact find?_insert_of_ne map different value

/-- What a map holds stays when a free key is given a value. -/
theorem find?_insert_of_some {map : SortedMap κ α} {key wanted : κ} (free : map.find? key = none)
    {value kept : α} (found : map.find? wanted = some kept) :
    (map.insert key value).find? wanted = some kept := by
  have different : wanted ≠ key := by
    rintro rfl
    rw [free] at found
    cases found
  rw [find?_insert_of_ne map different, found]

end Insert

end SortedMap

/-! ### Pools -/

/-- A later pool: the types made before are as they were. -/
structure TypePool.Grows (before after : TypePool) : Prop where
  next_le : before.next ≤ after.next
  fields_kept : ∀ {serial fields}, serial < before.next →
    before.fields.find? serial = some fields → after.fields.find? serial = some fields
  inputFields_kept : ∀ {serial fields}, serial < before.next →
    before.inputFields.find? serial = some fields → after.inputFields.find? serial = some fields

namespace TypePool

namespace Grows

theorem refl (pool : TypePool) : pool.Grows pool :=
  ⟨Nat.le_refl _, fun _ found => found, fun _ found => found⟩

theorem trans {first second third : TypePool} (early : first.Grows second)
    (late : second.Grows third) : first.Grows third where
  next_le := Nat.le_trans early.next_le late.next_le
  fields_kept below found :=
    late.fields_kept (Nat.lt_of_lt_of_le below early.next_le) (early.fields_kept below found)
  inputFields_kept below found :=
    late.inputFields_kept (Nat.lt_of_lt_of_le below early.next_le)
      (early.inputFields_kept below found)

end Grows

variable (pool : TypePool)

theorem grows_skip : pool.Grows { pool with next := pool.next + 1 } :=
  ⟨Nat.le_succ _, fun _ found => found, fun _ found => found⟩

theorem grows_list (inner : SchemaType) : pool.Grows (pool.list inner).2 := pool.grows_skip

theorem grows_nonNull (inner : SchemaType) : pool.Grows (pool.nonNull inner).2 := by
  unfold nonNull
  split
  · exact Grows.refl pool
  · exact pool.grows_skip

theorem grows_object (name : String) (description : Option String) (fields : List Field) :
    pool.Grows (pool.object name description fields).2 where
  next_le := Nat.le_succ _
  fields_kept below found := (SortedMap.find?_insert_of_ne _ (Nat.ne_of_lt below) _).trans found
  inputFields_kept _ found := found

theorem grows_inputObject (name : String) (description : Option String) (fields : List InputField) :
    pool.Grows (pool.inputObject name description fields).2 where
  next_le := Nat.le_succ _
  fields_kept _ found := found
  inputFields_kept below found :=
    (SortedMap.find?_insert_of_ne _ (Nat.ne_of_lt below) _).trans found

/-- Giving an object its fields changes no fields that were given before. -/
theorem grows_setFields {type : SchemaType} {fields : List Field} {after : TypePool}
    (given : pool.setFields type fields = .ok after) : pool.Grows after := by
  unfold setFields at given
  split at given
  · rename_i serial name description
    split at given
    · cases given
    · rename_i free
      cases given
      refine ⟨Nat.le_refl _, fun _ found => ?_, fun _ found => found⟩
      refine SortedMap.find?_insert_of_some ?_ found
      simpa [SortedMap.contains] using free
  · cases given
    exact Grows.refl pool

/-- Giving an input object its fields changes no fields that were given before. -/
theorem grows_setInputFields {type : SchemaType} {fields : List InputField} {after : TypePool}
    (given : pool.setInputFields type fields = .ok after) : pool.Grows after := by
  unfold setInputFields at given
  split at given
  · rename_i serial name description
    split at given
    · cases given
    · rename_i free
      cases given
      refine ⟨Nat.le_refl _, fun _ found => found, fun _ found => ?_⟩
      refine SortedMap.find?_insert_of_some ?_ found
      simpa [SortedMap.contains] using free
  · cases given
    exact Grows.refl pool

end TypePool

/-! ### Registries -/

namespace Registry

/-- A later registry: every settled id is as it was, and so are overrides, ranges and sets. -/
structure Grows (before after : Registry) : Prop where
  pool : before.pool.Grows after.pool
  types_kept : ∀ {id entry}, before.types.find? id = some entry → after.types.find? id = some entry
  codecs_kept : ∀ {id entry}, before.types.find? id = some entry →
    after.codecs.find? id = before.codecs.find? id
  overrides_kept : ∀ {id mapping}, before.overrides.find? id = some mapping →
    after.overrides.find? id = some mapping
  plain_kept : ∀ {id entry}, before.types.find? id = some entry →
    after.overrides.find? id = before.overrides.find? id
  shapes_kept : ∀ {name shape}, before.rangeShapes.find? name = some shape →
    after.rangeShapes.find? name = some shape
  sets_kept : ∀ {id type}, before.sets.find? id = some type → after.sets.find? id = some type

/-- Types and the objects of ranges were made, and nothing was settled. -/
structure SameEntries (before after : Registry) : Prop where
  pool : before.pool.Grows after.pool
  types : after.types = before.types
  codecs : after.codecs = before.codecs
  overrides : after.overrides = before.overrides
  sets : after.sets = before.sets
  shapes_kept : ∀ {name shape}, before.rangeShapes.find? name = some shape →
    after.rangeShapes.find? name = some shape

variable {first second third : Registry}

theorem Grows.refl (registry : Registry) : registry.Grows registry :=
  ⟨.refl _, id, fun _ => rfl, id, fun _ => rfl, id, id⟩

theorem Grows.trans (early : first.Grows second) (late : second.Grows third) :
    first.Grows third where
  pool := early.pool.trans late.pool
  types_kept found := late.types_kept (early.types_kept found)
  codecs_kept found := (late.codecs_kept (early.types_kept found)).trans (early.codecs_kept found)
  overrides_kept found := late.overrides_kept (early.overrides_kept found)
  plain_kept found := (late.plain_kept (early.types_kept found)).trans (early.plain_kept found)
  shapes_kept found := late.shapes_kept (early.shapes_kept found)
  sets_kept found := late.sets_kept (early.sets_kept found)

theorem SameEntries.refl (registry : Registry) : registry.SameEntries registry :=
  ⟨.refl _, rfl, rfl, rfl, rfl, id⟩

theorem SameEntries.trans (early : first.SameEntries second) (late : second.SameEntries third) :
    first.SameEntries third where
  pool := early.pool.trans late.pool
  types := late.types.trans early.types
  codecs := late.codecs.trans early.codecs
  overrides := late.overrides.trans early.overrides
  sets := late.sets.trans early.sets
  shapes_kept found := late.shapes_kept (early.shapes_kept found)

theorem SameEntries.grows (same : first.SameEntries second) : first.Grows second where
  pool := same.pool
  types_kept found := by rw [same.types, found]
  codecs_kept _ := by rw [same.codecs]
  overrides_kept found := by rw [same.overrides, found]
  plain_kept _ := by rw [same.overrides]
  shapes_kept found := same.shapes_kept found
  sets_kept found := by rw [same.sets, found]

/-- Only the pool changes. -/
theorem SameEntries.ofPool {registry : Registry} {pool : TypePool}
    (grows : registry.pool.Grows pool) :
    registry.SameEntries { registry with pool } := ⟨grows, rfl, rfl, rfl, rfl, id⟩

/-- Only types were made. -/
def OnlyMakes (before after : Registry) : Prop :=
  ∃ pool, before.pool.Grows pool ∧ after = { before with pool }

theorem OnlyMakes.refl (registry : Registry) : registry.OnlyMakes registry := ⟨_, .refl _, rfl⟩

theorem OnlyMakes.trans (early : first.OnlyMakes second) (late : second.OnlyMakes third) :
    first.OnlyMakes third := by
  obtain ⟨pool, grows, rfl⟩ := early
  obtain ⟨pool', grows', rfl⟩ := late
  exact ⟨pool', grows.trans grows', rfl⟩

theorem OnlyMakes.grows (makes : first.OnlyMakes second) : first.Grows second := by
  obtain ⟨pool, grows, rfl⟩ := makes
  exact (SameEntries.ofPool grows).grows

/-- A conversion of a settled id stays the conversion it has as a part of others. -/
theorem Grows.partCodec (grows : first.Grows second) {id : TypeId} {entry : TypeEntry}
    (settled : first.types.find? id = some entry) (descriptor : Descriptor) :
    second.partCodec id descriptor = first.partCodec id descriptor := by
  unfold Registry.partCodec
  rw [grows.codecs_kept settled]

/-! ### Filing -/

section File

variable {registry : Registry} {id : TypeId} {entry : TypeEntry} {codec : Option SharedCodec}

theorem file_types_self (free : registry.types.find? id = none) :
    (registry.file id entry codec).types.find? id = some entry :=
  SortedMap.find?_insertIfNew_self free entry

theorem file_types_of_ne {other : TypeId} (different : other ≠ id) :
    (registry.file id entry codec).types.find? other = registry.types.find? other :=
  SortedMap.find?_insertIfNew_of_ne _ different _

theorem file_codecs_self (free : registry.codecs.find? id = none) :
    (registry.file id entry codec).codecs.find? id = codec := by
  cases codec with
  | none => exact free
  | some shared => exact SortedMap.find?_insertIfNew_self free shared

theorem file_codecs_of_ne {other : TypeId} (different : other ≠ id) :
    (registry.file id entry codec).codecs.find? other = registry.codecs.find? other := by
  cases codec with
  | none => rfl
  | some shared => exact SortedMap.find?_insertIfNew_of_ne _ different _

/-- Filing an id that is not settled keeps what is. -/
theorem Grows.file (free : registry.types.find? id = none) :
    registry.Grows (registry.file id entry codec) where
  pool := .refl _
  types_kept {other _} found := by
    have different : other ≠ id := by
      rintro rfl
      rw [free] at found
      cases found
    rw [file_types_of_ne different, found]
  codecs_kept {other _} found := by
    have different : other ≠ id := by
      rintro rfl
      rw [free] at found
      cases found
    rw [file_codecs_of_ne different]
  overrides_kept found := found
  plain_kept _ := rfl
  shapes_kept found := found
  sets_kept found := found

end File

end Registry

end CatalogSchema
