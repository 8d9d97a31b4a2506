/-
**The objects of ranges.**

A range over a type is an object whose two edges have one bound type, and a bound has a value and a
flag.

* `SchemaType.IsNonNullOf`: what `TypePool.nonNull` makes of a type.
* `RangeObject`, `RangeInput`: the objects in a pool, by the type of the values at the bounds.
* `ShapeOver`: the output and the input object of ranges over an entry.
* `runOn_rangeShape`: the objects under a name are the ones that were made first, and new ones fit
  the entry they are made for.
-/

import CatalogSchema.Proofs.Resolution.Growth

namespace CatalogSchema

/-! ### Non-null types -/

/-- The non-null type of a type: a wrapper around it, or the type itself if it is non-null
already. -/
def SchemaType.IsNonNullOf (wrapped : SchemaType) : SchemaType → Prop
  | .nonNull serial inner => wrapped = .nonNull serial inner
  | type => ∃ serial, wrapped = .nonNull serial type

theorem TypePool.nonNull_isNonNullOf (pool : TypePool) (type : SchemaType) :
    (pool.nonNull type).1.IsNonNullOf type := by
  cases type with
  | nonNull serial inner => rfl
  | _ => exact ⟨pool.next, rfl⟩

/-- A type that is not non-null has only wrappers around it for its non-null types. -/
theorem SchemaType.IsNonNullOf.wraps {wrapped type : SchemaType}
    (nonNull : wrapped.IsNonNullOf type) (bare : ∀ serial inner, type ≠ .nonNull serial inner) :
    ∃ serial, wrapped = .nonNull serial type := by
  cases type with
  | nonNull serial inner => exact absurd rfl (bare serial inner)
  | _ => exact nonNull

/-! ### Objects in a pool -/

/-- An object whose fields `start` and `end` have one bound object for type, the field `value` of
which has the given type. -/
inductive RangeObject (pool : TypePool) (value : SchemaType) : SchemaType → Prop
  | intro {rangeSerial boundSerial : Nat} {rangeName boundName : String}
      {rangeNote boundNote : Option String} {inclusive : SchemaType}
      (rangeMade : rangeSerial < pool.next) (boundMade : boundSerial < pool.next)
      (edges : pool.fields.find? rangeSerial =
        some [.property "start" (.object boundSerial boundName boundNote),
          .property "end" (.object boundSerial boundName boundNote)])
      (parts : pool.fields.find? boundSerial =
        some [.property "value" value, .property "inclusive" inclusive]) :
      RangeObject pool value (.object rangeSerial rangeName rangeNote)

/-- An input object whose fields `start` and `end` have one bound object for type, the field `value`
of which has the given type. -/
inductive RangeInput (pool : TypePool) (value : SchemaType) : SchemaType → Prop
  | intro {rangeSerial boundSerial : Nat} {rangeName boundName : String}
      {rangeNote boundNote : Option String} {inclusive : SchemaType}
      (rangeMade : rangeSerial < pool.next) (boundMade : boundSerial < pool.next)
      (edges : pool.inputFields.find? rangeSerial =
        some [⟨"start", none, .inputObject boundSerial boundName boundNote⟩,
          ⟨"end", none, .inputObject boundSerial boundName boundNote⟩])
      (parts : pool.inputFields.find? boundSerial =
        some [⟨"value", none, value⟩, ⟨"inclusive", none, inclusive⟩]) :
      RangeInput pool value (.inputObject rangeSerial rangeName rangeNote)

theorem RangeObject.grows {before after : TypePool} (grows : before.Grows after)
    {value range : SchemaType} (object : RangeObject before value range) :
    RangeObject after value range := by
  obtain ⟨rangeMade, boundMade, edges, parts⟩ := object
  exact .intro (Nat.lt_of_lt_of_le rangeMade grows.next_le)
    (Nat.lt_of_lt_of_le boundMade grows.next_le)
    (grows.fields_kept rangeMade edges) (grows.fields_kept boundMade parts)

theorem RangeInput.grows {before after : TypePool} (grows : before.Grows after)
    {value range : SchemaType} (object : RangeInput before value range) :
    RangeInput after value range := by
  obtain ⟨rangeMade, boundMade, edges, parts⟩ := object
  exact .intro (Nat.lt_of_lt_of_le rangeMade grows.next_le)
    (Nat.lt_of_lt_of_le boundMade grows.next_le)
    (grows.inputFields_kept rangeMade edges) (grows.inputFields_kept boundMade parts)

/-- A bound object and a range object made one after the other. -/
theorem RangeObject.make (pool : TypePool) (rangeName boundName : String)
    (rangeNote boundNote : Option String) (value inclusive : SchemaType) :
    let bound := pool.object boundName boundNote
      [.property "value" value, .property "inclusive" inclusive]
    let range := bound.2.object rangeName rangeNote
      [.property "start" bound.1, .property "end" bound.1]
    pool.Grows range.2 ∧ RangeObject range.2 value range.1 := by
  intro bound range
  have boundFields : bound.2.fields.find? pool.next =
      some [.property "value" value, .property "inclusive" inclusive] :=
    SortedMap.find?_insert_self _ _ _
  have rangeFields : range.2.fields.find? bound.2.next =
      some [.property "start" bound.1, .property "end" bound.1] :=
    SortedMap.find?_insert_self _ _ _
  have late : bound.2.Grows range.2 := TypePool.grows_object _ _ _ _
  have boundKept := late.fields_kept (Nat.lt_succ_self _) boundFields
  exact ⟨(TypePool.grows_object _ _ _ _).trans late, .intro (Nat.lt_succ_self _)
    (Nat.lt_succ_of_lt (Nat.lt_succ_self _)) rangeFields boundKept⟩

/-- An input bound object and an input range object made one after the other. -/
theorem RangeInput.make (pool : TypePool) (rangeName boundName : String)
    (rangeNote boundNote : Option String) (value inclusive : SchemaType) :
    let bound := pool.inputObject boundName boundNote
      [⟨"value", none, value⟩, ⟨"inclusive", none, inclusive⟩]
    let range := bound.2.inputObject rangeName rangeNote
      [⟨"start", none, bound.1⟩, ⟨"end", none, bound.1⟩]
    pool.Grows range.2 ∧ RangeInput range.2 value range.1 := by
  intro bound range
  have boundFields : bound.2.inputFields.find? pool.next =
      some [⟨"value", none, value⟩, ⟨"inclusive", none, inclusive⟩] :=
    SortedMap.find?_insert_self _ _ _
  have rangeFields : range.2.inputFields.find? bound.2.next =
      some [⟨"start", none, bound.1⟩, ⟨"end", none, bound.1⟩] :=
    SortedMap.find?_insert_self _ _ _
  have late : bound.2.Grows range.2 := TypePool.grows_inputObject _ _ _ _
  have boundKept := late.inputFields_kept (Nat.lt_succ_self _) boundFields
  exact ⟨(TypePool.grows_inputObject _ _ _ _).trans late, .intro (Nat.lt_succ_self _)
    (Nat.lt_succ_of_lt (Nat.lt_succ_self _)) rangeFields boundKept⟩

/-- The objects of ranges over an entry. There is an input object if the entry has an input type. -/
inductive InputShapeOver (pool : TypePool) : Option SchemaType → Option SchemaType → Prop
  | none : InputShapeOver pool none none
  | some {type value range : SchemaType} (nonNull : value.IsNonNullOf type)
      (object : RangeInput pool value range) : InputShapeOver pool (some type) (some range)

/-- The objects of ranges over an entry whose output type has a name. -/
structure ShapeOver (setting : Setting) (pool : TypePool) (subName : String)
    (sub shape : TypeEntry) : Prop where
  name : shape.output.name? = some (setting.naming.rangeType subName)
  output : ∃ value : SchemaType, value.IsNonNullOf sub.output ∧ RangeObject pool value shape.output
  input : InputShapeOver pool sub.input shape.input

theorem InputShapeOver.grows {before after : TypePool} (grows : before.Grows after)
    {type range : Option SchemaType} (fits : InputShapeOver before type range) :
    InputShapeOver after type range := by
  cases fits with
  | none => exact .none
  | some nonNull object => exact .some nonNull (object.grows grows)

theorem ShapeOver.grows {setting : Setting} {before after : TypePool} (grows : before.Grows after)
    {subName : String} {sub shape : TypeEntry} (fits : ShapeOver setting before subName sub shape) :
    ShapeOver setting after subName sub shape where
  name := fits.name
  output := by
    obtain ⟨value, nonNull, object⟩ := fits.output
    exact ⟨value, nonNull, object.grows grows⟩
  input := fits.input.grows grows

/-! ### Making them -/

namespace Resolve

variable {setting : Setting}

theorem runOn_makeRangeInput (setting : Setting) (subName : String)
    (inclusive subInput : SchemaType) (registry : Registry) :
    ∃ range pool, runOn (makeRangeInput setting subName inclusive subInput) registry =
        (.ok range, { registry with pool }) ∧ registry.pool.Grows pool ∧
      ∃ value : SchemaType, value.IsNonNullOf subInput ∧ RangeInput pool value range := by
  obtain ⟨grows, object⟩ := RangeInput.make (registry.pool.nonNull subInput).2
    (setting.naming.rangeInputType subName) (setting.naming.rangeBoundInputType subName)
    (some (rangeDescription subName)) (some "One end of a range.")
    (registry.pool.nonNull subInput).1 inclusive
  exact ⟨_, _, rfl, (TypePool.grows_nonNull _ _).trans grows, _,
    registry.pool.nonNull_isNonNullOf subInput, object⟩

theorem runOn_makeRangeShape (setting : Setting) (subName : String) (sub : TypeEntry)
    (registry : Registry) :
    ∃ shape pool, runOn (makeRangeShape setting subName sub) registry =
        (.ok shape, { registry with pool }) ∧ registry.pool.Grows pool ∧
      ShapeOver setting pool subName sub shape := by
  obtain ⟨subOutput, subInput⟩ := sub
  let flagged := registry.pool.nonNull setting.scalars.boolean
  let valued := flagged.2.nonNull subOutput
  obtain ⟨grows, object⟩ := RangeObject.make valued.2
    (setting.naming.rangeType subName) (setting.naming.rangeBoundType subName)
    (some (rangeDescription subName)) (some "One end of a range.") valued.1 flagged.1
  have early : registry.pool.Grows valued.2 :=
    (TypePool.grows_nonNull _ _).trans (TypePool.grows_nonNull _ _)
  have nonNull : valued.1.IsNonNullOf subOutput := TypePool.nonNull_isNonNullOf _ _
  cases subInput with
  | none =>
    exact ⟨_, _, rfl, early.trans grows, rfl, ⟨_, nonNull, object⟩, .none⟩
  | some type =>
    let ranged := (valued.2.object (setting.naming.rangeBoundType subName)
      (some "One end of a range.") [.property "value" valued.1, .property "inclusive" flagged.1])
    let shaped := ranged.2.object (setting.naming.rangeType subName)
      (some (rangeDescription subName)) [.property "start" ranged.1, .property "end" ranged.1]
    obtain ⟨range, pool, ran, late, value, inputNonNull, input⟩ :=
      runOn_makeRangeInput setting subName flagged.1 type { registry with pool := shaped.2 }
    refine ⟨⟨shaped.1, some range⟩, pool, ?_, (early.trans grows).trans late, rfl,
      ⟨_, nonNull, object.grows late⟩, .some inputNonNull input⟩
    unfold makeRangeShape
    simp only [runOn_bind, runOn_make]
    rw [Option.mapM_some, runOn_map, ran]
    rfl

/-- **The objects of ranges under a name.** Those that are there are taken; else new ones are made,
and they fit the entry at hand. -/
theorem runOn_rangeShape (setting : Setting) (subName : String) (sub : TypeEntry)
    (registry : Registry) :
    ∃ shape after, runOn (rangeShape setting subName sub) registry = (.ok shape, after) ∧
      registry.SameEntries after ∧ after.rangeShapes.find? subName = some shape ∧
      ∀ name found, after.rangeShapes.find? name = some found →
        registry.rangeShapes.find? name = some found ∨
          name = subName ∧ ShapeOver setting after.pool subName sub found := by
  cases known : registry.rangeShapes.find? subName with
  | some shape =>
    refine ⟨shape, registry, ?_, .refl _, known, fun name found there => .inl there⟩
    unfold rangeShape
    rw [runOn_bind, runOn_get]
    simp only [known]
    rfl
  | none =>
    obtain ⟨shape, pool, ran, grows, fits⟩ := runOn_makeRangeShape setting subName sub registry
    refine ⟨shape,
      { registry with pool, rangeShapes := registry.rangeShapes.insert subName shape }, ?_,
      ⟨grows, rfl, rfl, rfl, rfl, SortedMap.find?_insert_of_some known⟩,
      SortedMap.find?_insert_self _ _ _, fun name found there => ?_⟩
    · unfold rangeShape
      rw [runOn_bind, runOn_get]
      simp only [known]
      rw [runOn_bind, ran]
      rfl
    · by_cases same : name = subName
      · subst same
        have : found = shape := by
          simpa using there.symm
        exact .inr ⟨rfl, this ▸ fits⟩
      · exact .inl ((SortedMap.find?_insert_of_ne _ same _).symm.trans there)

end Resolve

end CatalogSchema
