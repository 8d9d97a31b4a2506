/-
**Resolution makes no type non-null.**

Only callers make non-null types: for the elements of a set, for the bounds of a range, for a
column. The output type that an id is resolved to is never one, unless an override or a scalar is.

* `SchemaType.Nullable`: the types whose values may be null.
* `Run.overrides_nullable`: overrides with nullable types are all that such requests leave.
* `Sound.nullable`: every settled output type is nullable, if the overrides and the scalars are.
-/

import CatalogSchema.Proofs.Resolution.Requests

namespace CatalogSchema

/-- A type whose values may be null: any but a non-null type. -/
def SchemaType.Nullable (type : SchemaType) : Prop := ∀ serial inner, type ≠ .nonNull serial inner

/-- All standard scalars are nullable. -/
def StandardScalars.Nullable (scalars : StandardScalars) : Prop :=
  ∀ scalar ∈ scalars.toList, scalar.Nullable

/-- All overrides are of nullable types. -/
def Registry.OverridesNullable (registry : Registry) : Prop :=
  ∀ ⦃id mapping⦄, registry.overrides.find? id = some mapping → mapping.output.Nullable

/-- A request that overrides no id with a non-null type. -/
def Request.KeepsNullable : Request → Prop
  | .registerOverride _ mapping _ => mapping.output.Nullable
  | _ => True

theorem Request.Resolving.keepsNullable {request : Request} (resolving : request.Resolving) :
    request.KeepsNullable := by
  cases request with
  | registerOverride => exact resolving.elim
  | entry | output | input | setOutput => trivial

theorem StandardScalars.nullable_make (legacyNames : Bool) : (make legacyNames).Nullable := by
  intro scalar listed serial inner same
  simp [make, toList, same] at listed

/-- Another name for a nullable type is nullable. -/
theorem SchemaType.Nullable.renamed {type : SchemaType} (nullable : type.Nullable) (serial : Nat)
    (name : String) (description : Option String) :
    (type.renamed serial name description).Nullable := by
  cases type with
  | nonNull serial inner => exact absurd rfl (nullable serial inner)
  | _ => exact nofun

theorem RangeObject.nullable {pool : TypePool} {value range : SchemaType}
    (object : RangeObject pool value range) : range.Nullable := by
  cases object
  exact nofun

variable {setting : Setting}

/-- Requests that override no id with a non-null type leave no such override. -/
theorem Run.overrides_nullable {start registry : Registry}
    (run : Run setting Request.KeepsNullable start registry) (sound : Sound setting start)
    (nullable : start.OverridesNullable) : registry.OverridesNullable := by
  induction run with
  | start => exact nullable
  | @request registry run request permitted ih =>
    have resolving (types : request.Resolving) :
        (request.after setting registry).OverridesNullable := by
      obtain ⟨-, -, same⟩ := Request.after_of_resolving (run.sound sound) types
      unfold Registry.OverridesNullable
      rwa [same]
    cases request with
    | registerOverride id mapping rule =>
      rcases after_registerOverride setting registry id mapping rule with same | ⟨-, -, taken⟩
      · rwa [same]
      · rw [taken]
        intro other found there
        by_cases same : other = id
        · subst same
          obtain rfl := Option.some.inj ((SortedMap.find?_insert_self _ _ _).symm.trans there)
          exact permitted
        · exact ih ((SortedMap.find?_insert_of_ne _ same _).symm.trans there)
    | entry | output | input | setOutput => exact resolving trivial
  | make _ _ ih => exact ih

/-- **Every settled output type is nullable.** -/
theorem Sound.nullable {registry : Registry} (sound : Sound setting registry)
    (scalars : setting.scalars.Nullable) (overrides : registry.OverridesNullable) {id : TypeId}
    {entry : TypeEntry} (settled : registry.types.find? id = some entry) :
    entry.output.Nullable := by
  -- The induction is on the references of the id: a domain is as nullable as its base.
  have grounded := sound.grounded settled
  induction grounded generalizing entry with
  | intro id _ ih =>
    obtain ⟨descriptor, known, built⟩ := sound.built settled
    generalize registry.codecs.find? id = codec at built
    cases built with
    | overridden found => exact overrides found
    | alone _ _ stands =>
      cases stands with
      | enumeration => exact nofun
      | scalar => exact scalars _ (Resolve.scalarOf_mem setting descriptor)
    | overChild plain rests _ admitted settledChild completed =>
      have refers : Refers setting registry.overrides id _ :=
        ⟨plain, descriptor, _, known, rests, Resolve.child?_of_askChild admitted⟩
      have child := ih _ refers settledChild
      cases completed with
      | array => exact nofun
      | domain outputSerial => exact child.renamed outputSerial _ _
      | range _ _ _ shaped =>
        obtain ⟨_, _, _, _, _, fits⟩ := sound.shapes shaped
        obtain ⟨_, _, object⟩ := fits.output
        exact object.nullable

end CatalogSchema
