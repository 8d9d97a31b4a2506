/-
**All named types behind some roots.**

`collectNamed` walks from the roots through lists, non-null types, aliases and fields and gathers
every named type under its name. It stops with an error at a second type of one name. The walk ends
although types may lead back to themselves: the fields of an object are followed once.
-/

import CatalogSchema.Schema.Pool

namespace CatalogSchema

/-- Who has fields: an object or an input object, by its serial number. -/
inductive FieldOwner where
  | object (serial : Nat)
  | inputObject (serial : Nat)
  deriving DecidableEq

/-- The owner of a type's fields; other types than objects have none. -/
def SchemaType.fieldOwner? : SchemaType → Option FieldOwner
  | .object serial _ _ => some (.object serial)
  | .inputObject serial _ _ => some (.inputObject serial)
  | _ => none

/-- The types of the fields of objects and input objects, by their owner. -/
abbrev FieldTypes := List (FieldOwner × List SchemaType)

/-- The types of all fields that the pool knows. -/
def TypePool.fieldTypes (pool : TypePool) : FieldTypes :=
  pool.fields.entries.map (fun entry => (.object entry.1, entry.2.map (·.type))) ++
    pool.inputFields.entries.map (fun entry => (.inputObject entry.1, entry.2.map (·.type)))

/-- The types directly inside an alias, a list or a non-null type. -/
def SchemaType.inside : SchemaType → List SchemaType
  | .«alias» _ _ _ delegate => [delegate]
  | .list _ inner | .nonNull _ inner => [inner]
  | _ => []

/-- The number of types inside each other, the outermost included. -/
def SchemaType.depth : SchemaType → Nat
  | .«alias» _ _ _ delegate => delegate.depth + 1
  | .list _ inner | .nonNull _ inner => inner.depth + 1
  | _ => 1

/-- The number of types inside each other, over some types. -/
def totalDepth (types : List SchemaType) : Nat :=
  types.foldr (fun type total => type.depth + total) 0

@[simp] theorem totalDepth_nil : totalDepth [] = 0 := rfl

@[simp] theorem totalDepth_cons (type : SchemaType) (types : List SchemaType) :
    totalDepth (type :: types) = type.depth + totalDepth types := rfl

@[simp] theorem totalDepth_append (first second : List SchemaType) :
    totalDepth (first ++ second) = totalDepth first + totalDepth second := by
  induction first with
  | nil => simp
  | cons type rest ih => simp [ih, Nat.add_assoc]

theorem SchemaType.totalDepth_inside_lt (type : SchemaType) :
    totalDepth type.inside < type.depth := by
  cases type <;> simp [inside, depth]

namespace FieldTypes

/-- The types left after those of one owner were taken. -/
def without (fields : FieldTypes) (owner : FieldOwner) : FieldTypes :=
  fields.filter fun entry => entry.1 ≠ owner

/-- The types of the fields of a type. -/
def typesOf (fields : FieldTypes) (type : SchemaType) : List SchemaType :=
  (type.fieldOwner?.bind fun owner => fields.lookup owner).getD []

/-- The types left after those of the fields of a type were taken. -/
def leaving (fields : FieldTypes) (type : SchemaType) : FieldTypes :=
  match type.fieldOwner? with
  | some owner => fields.without owner
  | none => fields

/-- The depth of all types of fields. -/
def depth (fields : FieldTypes) : Nat :=
  fields.foldr (fun entry total => totalDepth entry.2 + total) 0

@[simp] theorem depth_cons (other : FieldOwner) (types : List SchemaType) (fields : FieldTypes) :
    FieldTypes.depth ((other, types) :: fields) = totalDepth types + fields.depth := rfl

theorem without_cons (other : FieldOwner) (types : List SchemaType) (fields : FieldTypes)
    (owner : FieldOwner) : FieldTypes.without ((other, types) :: fields) owner =
      if other = owner then fields.without owner else (other, types) :: fields.without owner := by
  unfold without
  by_cases same : other = owner <;> simp [same]

theorem depth_without_le (fields : FieldTypes) (owner : FieldOwner) :
    (fields.without owner).depth ≤ fields.depth := by
  induction fields with
  | nil => simp [without]
  | cons entry rest ih =>
    rw [without_cons, depth_cons]
    split
    · omega
    · rw [depth_cons]
      omega

/-- Taking the types of an owner out leaves less by their depth. -/
theorem depth_without_add_le {fields : FieldTypes} {owner : FieldOwner} {types : List SchemaType}
    (found : fields.lookup owner = some types) :
    (fields.without owner).depth + totalDepth types ≤ fields.depth := by
  induction fields with
  | nil => simp at found
  | cons entry rest ih =>
    obtain ⟨other, otherTypes⟩ := entry
    rw [without_cons, depth_cons]
    by_cases same : other = owner
    · subst same
      obtain rfl : otherTypes = types := by simpa using found
      have less := depth_without_le rest other
      rw [if_pos rfl]
      omega
    · have different : (owner == other) = false := beq_eq_false_iff_ne.2 (Ne.symm same)
      have further := ih (by simpa [List.lookup_cons, different] using found)
      rw [if_neg same, depth_cons]
      omega

/-- Taking the types of the fields of a type out leaves less by their depth. -/
theorem depth_leaving_add_le (fields : FieldTypes) (type : SchemaType) :
    (fields.leaving type).depth + totalDepth (fields.typesOf type) ≤ fields.depth := by
  unfold leaving typesOf
  cases type.fieldOwner? with
  | none => simp
  | some owner =>
    dsimp only [Option.bind_some]
    cases found : fields.lookup owner with
    | some types => exact depth_without_add_le found
    | none => simpa using depth_without_le fields owner

end FieldTypes

/-- Gathers the named types behind some types still to be visited. -/
def collectFrom (fields : FieldTypes) (known : SortedMap String SchemaType) :
    List SchemaType → Except BuildError (SortedMap String SchemaType)
  | [] => .ok known
  | type :: rest =>
    match type.name? with
    | none => collectFrom fields known (type.inside ++ rest)
    | some name =>
      match known.find? name with
      | some other =>
        if other = type then collectFrom fields known rest else .error (.duplicateTypeName name)
      | none =>
        collectFrom (fields.leaving type) (known.insert name type)
          (type.inside ++ fields.typesOf type ++ rest)
termination_by pending => fields.depth + totalDepth pending
decreasing_by
  all_goals have := type.totalDepth_inside_lt
  all_goals have := fields.depth_leaving_add_le type
  all_goals simp only [totalDepth_cons, totalDepth_append]
  all_goals omega

/-- The named types behind some roots, by name. -/
def collectNamed (pool : TypePool) (roots : List SchemaType) :
    Except BuildError (SortedMap String SchemaType) :=
  collectFrom pool.fieldTypes .empty roots

end CatalogSchema
