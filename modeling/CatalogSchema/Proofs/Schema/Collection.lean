/-
**The named types of a schema are those behind its roots.**

`TypePool.Reaches` says which types stand behind some roots: through lists, non-null types, aliases
and fields, in any number of steps and in cycles too. `collectNamed` follows each owner's fields
once only, yet it gathers exactly the named types among these:

* `collectFrom_covers`: on success every type that was pending, and every type that an entry
  mentions, is an entry itself or wraps one (`Covered`). What is still to be visited carries the
  induction: the fields that are taken away from the fields left are pending from then on.
* `collectFrom_gathered`: whatever is gathered, or clashes, has each property that the pending types
  have and pass on to the types they mention.

Both together give the map on success, the cause of a failure, and that the order of the roots does
not matter.
-/

import CatalogSchema.Build.Schema
import Mathlib.Logic.Relation

namespace CatalogSchema

open Relation

/-! ### The types behind some roots -/

namespace TypePool

/-- The types that a type mentions directly: what it wraps or stands for, or those of its fields. -/
def mentions (pool : TypePool) : SchemaType → List SchemaType
  | .object serial name description =>
    (pool.fieldsOf (.object serial name description)).map (·.type)
  | .inputObject serial name description =>
    (pool.inputFieldsOf (.inputObject serial name description)).map (·.type)
  | .«alias» _ _ _ delegate => [delegate]
  | .list _ inner | .nonNull _ inner => [inner]
  | .scalar _ _ _ _ | .enumeration _ _ _ _ => []

/-- A root, or a type that is mentioned by a type behind the roots. -/
def Reaches (pool : TypePool) (roots : List SchemaType) (type : SchemaType) : Prop :=
  ∃ root ∈ roots, ReflTransGen (fun type other => other ∈ pool.mentions type) root type

/-- No two types behind the roots have one name. -/
def Unambiguous (pool : TypePool) (roots : List SchemaType) : Prop :=
  ∀ ⦃first second name⦄, pool.Reaches roots first → pool.Reaches roots second →
    first.name? = some name → second.name? = some name → first = second

variable {pool : TypePool} {roots : List SchemaType} {type other : SchemaType}

theorem Reaches.of_mem (listed : type ∈ roots) : pool.Reaches roots type :=
  ⟨type, listed, .refl⟩

theorem Reaches.mention (behind : pool.Reaches roots type)
    (mentioned : other ∈ pool.mentions type) :
    pool.Reaches roots other := by
  obtain ⟨root, listed, path⟩ := behind
  exact ⟨root, listed, path.tail mentioned⟩

/-- Only which roots there are decides what stands behind them. -/
theorem reaches_congr {roots' : List SchemaType} (same : ∀ root, root ∈ roots' ↔ root ∈ roots) :
    pool.Reaches roots' = pool.Reaches roots := by
  funext type
  simp only [Reaches, same]

end TypePool

/-! ### Fields by their owner -/

theorem lookup_map_of_injective {α β γ δ : Type} [BEq α] [LawfulBEq α] [BEq β] [LawfulBEq β]
    {owner : α → β} (injective : Function.Injective owner) (image : γ → δ) (key : α) :
    (entries : List (α × γ)) →
      (entries.map fun entry => (owner entry.1, image entry.2)).lookup (owner key) =
        (entries.lookup key).map image
  | [] => rfl
  | (other, value) :: rest => by
    by_cases same : key = other
    · subst same
      simp
    · have different : owner key ≠ owner other := fun equal => same (injective equal)
      rw [List.map_cons, List.lookup_cons, List.lookup_cons, beq_eq_false_iff_ne.2 same,
        beq_eq_false_iff_ne.2 different]
      exact lookup_map_of_injective injective image key rest

theorem lookup_map_eq_none {α β γ δ : Type} [BEq β] [LawfulBEq β] {owner : α → β} {wanted : β}
    (never : ∀ key, owner key ≠ wanted) (image : γ → δ) (entries : List (α × γ)) :
    (entries.map fun entry => (owner entry.1, image entry.2)).lookup wanted = none := by
  rw [List.lookup_eq_none_iff]
  intro entry found
  obtain ⟨⟨key, value⟩, -, rfl⟩ := List.mem_map.1 found
  simpa using (never key).symm

namespace FieldTypes

/-- The types that a type mentions, as far as fields are left. -/
def mentions (fields : FieldTypes) (type : SchemaType) : List SchemaType :=
  type.inside ++ fields.typesOf type

theorem typesOf_of_fieldOwner? {type : SchemaType} {owner : FieldOwner} (fields : FieldTypes)
    (owned : type.fieldOwner? = some owner) :
    fields.typesOf type = (fields.lookup owner).getD [] := by
  rw [typesOf, owned, Option.bind_some]

/-- A type without a name has no fields. -/
theorem typesOf_of_unnamed {type : SchemaType} (fields : FieldTypes) (unnamed : type.name? = none) :
    fields.typesOf type = [] := by
  cases type with
  | list | nonNull => rfl
  | _ => cases unnamed

/-- With no fields taken away, a type mentions what it mentions in the pool. -/
theorem mentions_fieldTypes (pool : TypePool) (type : SchemaType) :
    FieldTypes.mentions pool.fieldTypes type = pool.mentions type := by
  have objects : Function.Injective FieldOwner.object := fun _ _ => FieldOwner.object.inj
  have inputs : Function.Injective FieldOwner.inputObject := fun _ _ => FieldOwner.inputObject.inj
  cases type with
  | object serial name description =>
    have other : ∀ key, FieldOwner.inputObject key ≠ .object serial := fun _ equal => by cases equal
    rw [mentions, typesOf_of_fieldOwner? _ rfl, TypePool.fieldTypes, List.lookup_append,
      lookup_map_of_injective objects, lookup_map_eq_none other, Option.or_none]
    unfold TypePool.mentions TypePool.fieldsOf SortedMap.find?
    cases held : pool.fields.entries.lookup serial <;>
      simp [SchemaType.inside, SchemaType.unwrapAlias, held]
  | inputObject serial name description =>
    have other : ∀ key, FieldOwner.object key ≠ .inputObject serial := fun _ equal => by cases equal
    rw [mentions, typesOf_of_fieldOwner? _ rfl, TypePool.fieldTypes, List.lookup_append,
      lookup_map_eq_none other, Option.none_or, lookup_map_of_injective inputs]
    unfold TypePool.mentions TypePool.inputFieldsOf SortedMap.find?
    cases held : pool.inputFields.entries.lookup serial <;>
      simp [SchemaType.inside, SchemaType.unwrapAlias, held]
  | _ => rfl

theorem lookup_without (fields : FieldTypes) (taken owner : FieldOwner) :
    (fields.without taken).lookup owner = if owner = taken then none else fields.lookup owner := by
  induction fields with
  | nil => simp [without]
  | cons entry rest ih =>
    obtain ⟨held, types⟩ := entry
    rw [without_cons]
    by_cases here : owner = held
    · subst here
      by_cases gone : owner = taken
      · rw [if_pos gone, ih]
        simp [gone]
      · simp [gone]
    · have further : List.lookup owner ((held, types) :: rest) = rest.lookup owner := by
        rw [List.lookup_cons, beq_eq_false_iff_ne.2 here]
      rw [further, ← ih]
      split
      · rfl
      · rw [List.lookup_cons, beq_eq_false_iff_ne.2 here]

/-- Types with one owner have the same fields. -/
theorem typesOf_congr (fields : FieldTypes) {type other : SchemaType}
    (same : type.fieldOwner? = other.fieldOwner?) : fields.typesOf type = fields.typesOf other := by
  unfold typesOf
  rw [same]

/-- Only the owner whose fields are taken away loses them. -/
theorem typesOf_leaving (fields : FieldTypes) (taken type : SchemaType) :
    FieldTypes.typesOf (fields.leaving taken) type =
      if type.fieldOwner? = taken.fieldOwner? then [] else fields.typesOf type := by
  unfold leaving
  cases owned : type.fieldOwner? with
  | none => simp [typesOf, owned]
  | some owner =>
    cases gone : taken.fieldOwner? with
    | none => rw [if_neg (Option.some_ne_none owner)]
    | some other =>
      rw [typesOf_of_fieldOwner? _ owned, typesOf_of_fieldOwner? _ owned, lookup_without]
      by_cases same : owner = other
      · rw [if_pos same, if_pos (congrArg some same), Option.getD_none]
      · rw [if_neg same, if_neg fun equal => same (Option.some.inj equal)]

/-- What a type mentions is mentioned still when the fields of another are taken away, or is the
type of a field of that one. -/
theorem mentions_subset_leaving (fields : FieldTypes) (taken type : SchemaType) :
    ∀ other ∈ fields.mentions type,
      other ∈ FieldTypes.mentions (fields.leaving taken) type ∨ other ∈ fields.typesOf taken := by
  intro other mentioned
  rcases List.mem_append.1 mentioned with inside | listed
  · exact .inl (List.mem_append_left _ inside)
  · by_cases same : type.fieldOwner? = taken.fieldOwner?
    · rw [fields.typesOf_congr same] at listed
      exact .inr listed
    · refine .inl (List.mem_append_right _ ?_)
      rwa [typesOf_leaving, if_neg same]

/-- Taking the fields of a type away adds nothing to what types mention. -/
theorem mentions_leaving_subset (fields : FieldTypes) (taken type : SchemaType) :
    ∀ other ∈ FieldTypes.mentions (fields.leaving taken) type, other ∈ fields.mentions type := by
  intro other mentioned
  rcases List.mem_append.1 mentioned with inside | listed
  · exact List.mem_append_left _ inside
  · rw [typesOf_leaving] at listed
    split at listed
    · cases listed
    · exact List.mem_append_right _ listed

end FieldTypes

/-! ### Nothing is left out -/

/-- A type that is found under its own name, or has no name and wraps only such types. -/
inductive Covered (types : SortedMap String SchemaType) : SchemaType → Prop where
  | named {type : SchemaType} {name : String} (carried : type.name? = some name)
      (found : types.find? name = some type) : Covered types type
  | wrapper {type : SchemaType} (unnamed : type.name? = none)
      (inside : ∀ inner ∈ type.inside, Covered types inner) : Covered types type

namespace Covered

variable {types : SortedMap String SchemaType} {type : SchemaType} {name : String}

theorem find? (covered : Covered types type) (carried : type.name? = some name) :
    types.find? name = some type := by
  cases covered with
  | named carried' found =>
    rw [carried] at carried'
    cases carried'
    exact found
  | wrapper unnamed _ =>
    rw [carried] at unnamed
    cases unnamed

/-- The named type inside a covered type is found under its name. -/
theorem find?_named (covered : Covered types type) :
    ∃ name, type.named.name? = some name ∧ types.find? name = some type.named := by
  induction covered with
  | @named type name carried found =>
    have unwrapped : type.named = type := by
      cases type with
      | list | nonNull => cases carried
      | _ => rfl
    rw [unwrapped]
    exact ⟨name, carried, found⟩
  | @wrapper type unnamed _ ih =>
    cases type with
    | list serial inner => exact ih inner (List.mem_singleton_self _)
    | nonNull serial inner => exact ih inner (List.mem_singleton_self _)
    | _ => cases unnamed

end Covered

/-- On success what was known is kept, each pending type is covered, and so is each type mentioned
by an entry that was not known before. -/
theorem collectFrom_covers {fields : FieldTypes} {known types : SortedMap String SchemaType}
    {pending : List SchemaType} (gathered : collectFrom fields known pending = .ok types) :
    (∀ name type, known.find? name = some type → types.find? name = some type) ∧
    (∀ type ∈ pending, Covered types type) ∧
    ∀ name type, types.find? name = some type →
      known.find? name = some type ∨ ∀ other ∈ fields.mentions type, Covered types other := by
  fun_induction collectFrom fields known pending with
  | case1 fields known =>
    cases gathered
    exact ⟨fun _ _ => id, by simp, fun _ _ => .inl⟩
  | case2 fields known type rest unnamed ih =>
    -- a wrapper: what it holds is pending in its place
    obtain ⟨kept, covered, entries⟩ := ih gathered
    refine ⟨kept, fun wanted listed => ?_, entries⟩
    rcases List.mem_cons.1 listed with rfl | listed
    · exact .wrapper unnamed fun inner inside => covered inner (List.mem_append_left _ inside)
    · exact covered wanted (List.mem_append_right _ listed)
  | case3 fields known rest name type found carried ih =>
    -- the entry of this name is this type
    obtain ⟨kept, covered, entries⟩ := ih gathered
    refine ⟨kept, fun wanted listed => ?_, entries⟩
    rcases List.mem_cons.1 listed with rfl | listed
    · exact .named carried (kept name wanted found)
    · exact covered wanted listed
  | case4 => cases gathered
  | case5 fields known type rest name carried absent ih =>
    -- a new entry: from here on what it wraps and its fields are pending
    obtain ⟨kept, covered, entries⟩ := ih gathered
    have ofFields : ∀ other ∈ fields.typesOf type, Covered types other := fun other listed =>
      covered other (List.mem_append_left _ (List.mem_append_right _ listed))
    have ofInside : ∀ other ∈ type.inside, Covered types other := fun other inside =>
      covered other (List.mem_append_left _ (List.mem_append_left _ inside))
    refine ⟨fun other held heldThere => ?_, fun wanted listed => ?_, fun other held heldThere => ?_⟩
    · have different : other ≠ name := by
        rintro rfl
        rw [absent] at heldThere
        cases heldThere
      exact kept other held (by rwa [SortedMap.find?_insert_of_ne _ different])
    · rcases List.mem_cons.1 listed with rfl | listed
      · exact .named carried (kept name wanted (SortedMap.find?_insert_self _ _ _))
      · exact covered wanted (List.mem_append_right _ listed)
    · by_cases same : other = name
      · subst same
        have newest := kept other type (SortedMap.find?_insert_self _ _ _)
        obtain rfl : type = held := Option.some.inj (newest.symm.trans heldThere)
        refine .inr fun mentioned listed => ?_
        rcases List.mem_append.1 listed with inside | listed
        · exact ofInside mentioned inside
        · exact ofFields mentioned listed
      · rcases entries other held heldThere with before | mentioned
        · rw [SortedMap.find?_insert_of_ne _ same] at before
          exact .inl before
        · refine .inr fun wanted listed => ?_
          rcases fields.mentions_subset_leaving type held wanted listed with left | taken
          · exact mentioned wanted left
          · exact ofFields wanted taken

variable {pool : TypePool} {roots : List SchemaType} {types : SortedMap String SchemaType}

/-- On success each entry mentions covered types only. -/
theorem covered_of_mentions (gathered : collectNamed pool roots = .ok types) {name : String}
    {type other : SchemaType} (found : types.find? name = some type)
    (mentioned : other ∈ pool.mentions type) : Covered types other := by
  rw [← FieldTypes.mentions_fieldTypes] at mentioned
  rcases (collectFrom_covers gathered).2.2 name type found with before | covered
  · rw [SortedMap.find?_empty] at before
    cases before
  · exact covered other mentioned

/-- On success every type behind the roots is covered. -/
theorem covered_of_reaches (gathered : collectNamed pool roots = .ok types) {type : SchemaType}
    (behind : pool.Reaches roots type) : Covered types type := by
  obtain ⟨root, listed, path⟩ := behind
  induction path with
  | refl => exact (collectFrom_covers gathered).2.1 root listed
  | @tail type other _ mentioned covered =>
    cases covered with
    | named _ found => exact covered_of_mentions gathered found mentioned
    | wrapper unnamed inside =>
      have wrapped : pool.mentions type = type.inside := by
        rw [← FieldTypes.mentions_fieldTypes, FieldTypes.mentions,
          FieldTypes.typesOf_of_unnamed _ unnamed, List.append_nil]
      exact inside other (wrapped ▸ mentioned)

/-! ### Nothing is made up -/

/-- An outcome that speaks of types with a property only: a map of types under their own names, or a
name that two different types have. -/
inductive Gathered (property : SchemaType → Prop) :
    Except BuildError (SortedMap String SchemaType) → Prop where
  | types {types : SortedMap String SchemaType}
      (own : ∀ name type, types.find? name = some type → type.name? = some name ∧ property type) :
      Gathered property (.ok types)
  | clash {name : String} {first second : SchemaType} (different : first ≠ second)
      (carried : first.name? = some name) (carried' : second.name? = some name)
      (holds : property first) (holds' : property second) :
      Gathered property (.error (.duplicateTypeName name))

/-- A property of the pending types that types pass on to those they mention is one of all that is
gathered. -/
theorem collectFrom_gathered {property : SchemaType → Prop} {fields : FieldTypes}
    {known : SortedMap String SchemaType} {pending : List SchemaType}
    (passed : ∀ type, property type → ∀ other ∈ fields.mentions type, property other)
    (own : ∀ name type, known.find? name = some type → type.name? = some name ∧ property type)
    (holds : ∀ type ∈ pending, property type) :
    Gathered property (collectFrom fields known pending) := by
  fun_induction collectFrom fields known pending with
  | case1 fields known => exact .types own
  | case2 fields known type rest unnamed ih =>
    obtain ⟨here, later⟩ := List.forall_mem_cons.1 holds
    refine ih passed own (List.forall_mem_append.2 ⟨fun inner inside => ?_, later⟩)
    exact passed type here inner (List.mem_append_left _ inside)
  | case3 fields known rest name type found carried ih =>
    exact ih passed own (List.forall_mem_cons.1 holds).2
  | case4 fields known type rest name carried other found different =>
    obtain ⟨carried', holds'⟩ := own name other found
    exact .clash different carried' carried holds' (List.forall_mem_cons.1 holds).1
  | case5 fields known type rest name carried absent ih =>
    obtain ⟨here, later⟩ := List.forall_mem_cons.1 holds
    refine ih (fun held holdsHeld other mentioned => ?_) (fun other held found => ?_)
      (List.forall_mem_append.2 ⟨passed type here, later⟩)
    · exact passed held holdsHeld other (fields.mentions_leaving_subset type held other mentioned)
    · by_cases same : other = name
      · subst same
        rw [SortedMap.find?_insert_self] at found
        cases found
        exact ⟨carried, here⟩
      · rw [SortedMap.find?_insert_of_ne _ same] at found
        exact own other held found

/-- All that is gathered stands behind the roots. -/
theorem collectNamed_gathered (pool : TypePool) (roots : List SchemaType) :
    Gathered (pool.Reaches roots) (collectNamed pool roots) := by
  refine collectFrom_gathered (fun type behind other mentioned => ?_) (fun name type found => ?_)
    fun type listed => .of_mem listed
  · rw [FieldTypes.mentions_fieldTypes] at mentioned
    exact behind.mention mentioned
  · rw [SortedMap.find?_empty] at found
    cases found

/-! ### The gathered map -/

/-- On success the map holds exactly the named types behind the roots, each under its name. -/
theorem find?_collectNamed (gathered : collectNamed pool roots = .ok types) (name : String)
    (type : SchemaType) :
    types.find? name = some type ↔ pool.Reaches roots type ∧ type.name? = some name := by
  constructor
  · intro found
    have sound := collectNamed_gathered pool roots
    rw [gathered] at sound
    cases sound with
    | types own => exact (own name type found).symm
  · rintro ⟨behind, carried⟩
    exact (covered_of_reaches gathered behind).find? carried

theorem unambiguous_of_collectNamed (gathered : collectNamed pool roots = .ok types) :
    pool.Unambiguous roots := by
  intro first second name behind behind' carried carried'
  have found := (find?_collectNamed gathered name first).2 ⟨behind, carried⟩
  have found' := (find?_collectNamed gathered name second).2 ⟨behind', carried'⟩
  exact Option.some.inj (found.symm.trans found')

/-- Gathering succeeds when names are unambiguous behind the roots. -/
theorem collectNamed_of_unambiguous (distinct : pool.Unambiguous roots) :
    ∃ types, collectNamed pool roots = .ok types := by
  have sound := collectNamed_gathered pool roots
  cases outcome : collectNamed pool roots with
  | ok types => exact ⟨types, rfl⟩
  | error error =>
    rw [outcome] at sound
    cases sound with
    | clash different carried carried' behind behind' =>
      exact absurd (distinct behind behind' carried carried') different

/-- Roots with the same members give the same map. -/
theorem collectNamed_congr {roots' : List SchemaType} (same : ∀ root, root ∈ roots' ↔ root ∈ roots)
    (gathered : collectNamed pool roots = .ok types) : collectNamed pool roots' = .ok types := by
  have reaches : pool.Reaches roots' = pool.Reaches roots := TypePool.reaches_congr same
  have distinct : pool.Unambiguous roots' := by
    unfold TypePool.Unambiguous
    rw [reaches]
    exact unambiguous_of_collectNamed gathered
  obtain ⟨types', gathered'⟩ := collectNamed_of_unambiguous distinct
  have equal : types' = types := by
    refine SortedMap.eq_of_find? fun name => Option.ext fun type => ?_
    rw [find?_collectNamed gathered', find?_collectNamed gathered, reaches]
  rw [gathered', equal]

/-- **A schema has exactly the named types behind its roots.** Gathering succeeds exactly when no
two types behind the roots have one name. On success the map holds the named types behind the roots,
each under its own name, so that a type mentioned by an entry is in the map as well, or the type is
that it wraps; on failure two different types behind the roots have the name of the error. Of the
roots only the set matters, and a schema is assembled from what is gathered behind the resolved and
the contributed types. -/
theorem collectNamed_reachable (pool : TypePool) (roots : List SchemaType) :
    ((∃ types, collectNamed pool roots = .ok types) ↔ pool.Unambiguous roots) ∧
    (∀ types, collectNamed pool roots = .ok types →
      (∀ name type, types.find? name = some type ↔
        pool.Reaches roots type ∧ type.name? = some name) ∧
      ∀ name type, types.find? name = some type → ∀ other ∈ pool.mentions type,
        ∃ name', other.named.name? = some name' ∧ types.find? name' = some other.named) ∧
    (∀ error, collectNamed pool roots = .error error →
      ∃ name first second, error = .duplicateTypeName name ∧ first ≠ second ∧
        (pool.Reaches roots first ∧ first.name? = some name) ∧
        pool.Reaches roots second ∧ second.name? = some name) ∧
    (∀ roots', (∀ root, root ∈ roots' ↔ root ∈ roots) → ∀ types,
      collectNamed pool roots' = .ok types ↔ collectNamed pool roots = .ok types) ∧
    ∀ setting workspace state contributed,
      Schema.assemble setting workspace state contributed =
        (collectNamed workspace.registry.pool
          (workspace.registry.resolvedTypes ++ contributed)).map fun types =>
            ⟨setting, workspace.registry, types, state, workspace.tables⟩ := by
  refine ⟨⟨fun ⟨_, gathered⟩ => unambiguous_of_collectNamed gathered, collectNamed_of_unambiguous⟩,
    fun types gathered => ⟨find?_collectNamed gathered, fun name type found other mentioned => ?_⟩,
    fun error failed => ?_, fun roots' same types => ⟨fun gathered => ?_, collectNamed_congr same⟩,
    fun setting workspace state contributed => ?_⟩
  · exact (covered_of_mentions gathered found mentioned).find?_named
  · have sound := collectNamed_gathered pool roots
    rw [failed] at sound
    cases sound with
    | @clash name first second different carried carried' behind behind' =>
      exact ⟨name, first, second, rfl, different, ⟨behind, carried⟩, behind', carried'⟩
  · exact collectNamed_congr (fun root => (same root).symm) gathered
  · unfold Schema.assemble
    cases collectNamed workspace.registry.pool (workspace.registry.resolvedTypes ++ contributed) <;>
      rfl

/-! ### A sample -/

/-- A folder, which has fields of its own type. -/
def sampleFolder : SchemaType := .object 1 "Folder" none

/-- The title of a folder. -/
def sampleTitle : SchemaType := .«alias» 2 "Title" none (.scalar 0 "String" none .string)

/-- A folder has a parent, children and a title. -/
def samplePool : TypePool where
  next := 6
  fields := .ofList [(1, [
    .property "parent" sampleFolder,
    .property "children" (.nonNull 4 (.list 3 sampleFolder)),
    .property "title" sampleTitle])]
  inputFields := .empty

/-- The named types behind a folder. -/
def sampleTypes : SortedMap String SchemaType := .ofList [
  ("Folder", sampleFolder),
  ("String", .scalar 0 "String" none .string),
  ("Title", sampleTitle)]

/-- The folder is gathered with the types of its fields; besides a second type of the name Title it
is not. -/
theorem collectNamed_reachable_folder :
    (collectNamed samplePool [sampleFolder] = .ok sampleTypes ∧
      samplePool.Unambiguous [sampleFolder] ∧
      samplePool.Reaches [sampleFolder] (.scalar 0 "String" none .string) ∧
      (∃ name, sampleFolder.name? = some name ∧ sampleTypes.find? name = some sampleFolder) ∧
      collectNamed samplePool [sampleFolder, sampleFolder] = .ok sampleTypes) ∧
    ∃ name first second,
      collectNamed samplePool [sampleFolder, .scalar 5 "Title" none .string] =
        .error (.duplicateTypeName name) ∧ first ≠ second ∧
      (samplePool.Reaches [sampleFolder, .scalar 5 "Title" none .string] first ∧
        first.name? = some name) ∧
      samplePool.Reaches [sampleFolder, .scalar 5 "Title" none .string] second ∧
        second.name? = some name := by
  obtain ⟨succeeds, onSuccess, -, order, -⟩ := collectNamed_reachable samplePool [sampleFolder]
  obtain ⟨-, -, onFailure, -⟩ :=
    collectNamed_reachable samplePool [sampleFolder, .scalar 5 "Title" none .string]
  have gathered : collectNamed samplePool [sampleFolder] = .ok sampleTypes := by
    have computed : (collectNamed samplePool [sampleFolder]).toOption = some sampleTypes := by
      decide +kernel
    cases outcome : collectNamed samplePool [sampleFolder] with
    | ok types =>
      rw [outcome] at computed
      exact congrArg Except.ok (Option.some.inj computed)
    | error error =>
      rw [outcome] at computed
      cases computed
  have clashes : (collectNamed samplePool [sampleFolder, .scalar 5 "Title" none .string]).toOption =
      none := by decide +kernel
  obtain ⟨held, mentions⟩ := onSuccess sampleTypes gathered
  have string : sampleTypes.find? "String" = some (.scalar 0 "String" none .string) := by decide
  have children := mentions "Folder" sampleFolder (by decide) (.nonNull 4 (.list 3 sampleFolder))
    (by decide)
  have twice : ∀ root, root ∈ [sampleFolder, sampleFolder] ↔ root ∈ [sampleFolder] := by simp
  refine ⟨⟨gathered, succeeds.1 ⟨_, gathered⟩, ((held _ _).1 string).1, children,
    (order _ twice _).2 gathered⟩, ?_⟩
  cases outcome : collectNamed samplePool [sampleFolder, .scalar 5 "Title" none .string] with
  | ok types =>
    rw [outcome] at clashes
    cases clashes
  | error error =>
    obtain ⟨name, first, second, rfl, clash⟩ := onFailure error outcome
    exact ⟨name, first, second, rfl, clash⟩

end CatalogSchema
