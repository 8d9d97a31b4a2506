/-
**When ranges fit their subtypes.**

The objects of ranges are shared by the schema name of the subtype. A range gets the objects that
were made first under the name, for whatever subtype.

* `RangeFits`: the bounds of a range hold non-null values of the types of its subtype.
* `Sound.shape_made`: the objects of a settled range fit some settled subtype of the same name.
* `ranges_fit_iff`: all ranges fit exactly when subtypes of one name have the same types.
* `range_misfit`: two subtypes of one name, of which only one can be used for input.
-/

import CatalogSchema.Proofs.Resolution.Requests

namespace CatalogSchema

variable {setting : Setting}

/-! ### Fields by name -/

/-- The type of the field of an object. -/
def TypePool.fieldType? (pool : TypePool) (type : SchemaType) (name : String) : Option SchemaType :=
  ((pool.fieldsOf type).find? fun field => field.name = name).map (·.type)

/-- The type of the field of an input object. -/
def TypePool.inputFieldType? (pool : TypePool) (type : SchemaType) (name : String) :
    Option SchemaType :=
  ((pool.inputFieldsOf type).find? fun field => field.name = name).map (·.type)

/-- The value at an edge of a range, reached through the bound there. -/
def TypePool.edgeValue? (pool : TypePool) (range : SchemaType) (edge : String) :
    Option SchemaType :=
  (pool.fieldType? range edge).bind (pool.fieldType? · "value")

/-- The value at an edge of a range for input. -/
def TypePool.edgeInput? (pool : TypePool) (range : SchemaType) (edge : String) :
    Option SchemaType :=
  (pool.inputFieldType? range edge).bind (pool.inputFieldType? · "value")

/-- The names of the edges of a range. -/
def rangeEdges : List String := ["start", "end"]

theorem RangeObject.edgeValue? {pool : TypePool} {value range : SchemaType}
    (object : RangeObject pool value range) {edge : String} (known : edge ∈ rangeEdges) :
    pool.edgeValue? range edge = some value := by
  obtain ⟨-, -, edges, parts⟩ := object
  unfold TypePool.edgeValue? TypePool.fieldType? TypePool.fieldsOf SchemaType.unwrapAlias
  dsimp only
  rw [edges]
  simp only [rangeEdges, List.mem_cons, List.not_mem_nil, or_false] at known
  rcases known with rfl | rfl
  · show ((pool.fields.find? _).getD [] |>.find? _).map _ = _
    rw [parts]
    rfl
  · show ((pool.fields.find? _).getD [] |>.find? _).map _ = _
    rw [parts]
    rfl

theorem RangeInput.edgeInput? {pool : TypePool} {value range : SchemaType}
    (object : RangeInput pool value range) {edge : String} (known : edge ∈ rangeEdges) :
    pool.edgeInput? range edge = some value := by
  obtain ⟨-, -, edges, parts⟩ := object
  unfold TypePool.edgeInput? TypePool.inputFieldType? TypePool.inputFieldsOf SchemaType.unwrapAlias
  dsimp only
  rw [edges]
  simp only [rangeEdges, List.mem_cons, List.not_mem_nil, or_false] at known
  rcases known with rfl | rfl
  · show ((pool.inputFields.find? _).getD [] |>.find? _).map _ = _
    rw [parts]
    rfl
  · show ((pool.inputFields.find? _).getD [] |>.find? _).map _ = _
    rw [parts]
    rfl

/-! ### Fitting -/

/-- A non-null type around a type. -/
def SchemaType.Wraps (wrapped type : SchemaType) : Prop := ∃ serial, wrapped = .nonNull serial type

theorem SchemaType.Wraps.injective {wrapped first second : SchemaType} (wraps : wrapped.Wraps first)
    (wraps' : wrapped.Wraps second) : first = second := by
  obtain ⟨serial, rfl⟩ := wraps
  obtain ⟨other, same⟩ := wraps'
  injection same

/-- The input types of a range and of its subtype: there are both or none, and the values at both
edges are non-null values of the subtype. -/
inductive InputFits (nonNull : SchemaType → SchemaType → Prop) (pool : TypePool) :
    Option SchemaType → Option SchemaType → Prop
  | none : InputFits nonNull pool none none
  | some {range type : SchemaType}
      (edges : ∀ edge ∈ rangeEdges, ∃ value, pool.edgeInput? range edge = some value ∧
        nonNull value type) :
      InputFits nonNull pool (some range) (some type)

/-- The bounds of a range hold non-null values of the types of a subtype. -/
structure RangeFits (nonNull : SchemaType → SchemaType → Prop) (pool : TypePool)
    (range sub : TypeEntry) : Prop where
  output : ∀ edge ∈ rangeEdges, ∃ value, pool.edgeValue? range.output edge = some value ∧
    nonNull value sub.output
  input : InputFits nonNull pool range.input sub.input

/-- The objects of ranges over an entry fit it. -/
theorem ShapeOver.fits {pool : TypePool} {name : String} {sub shape : TypeEntry}
    (fits : ShapeOver setting pool name sub shape) :
    RangeFits SchemaType.IsNonNullOf pool shape sub where
  output edge known := by
    obtain ⟨value, nonNull, object⟩ := fits.output
    exact ⟨value, object.edgeValue? known, nonNull⟩
  input := by
    obtain ⟨_, _, input⟩ := fits
    generalize shape.input = range at input
    generalize sub.input = type at input
    cases input with
    | none => exact .none
    | some nonNull object => exact .some fun edge known => ⟨_, object.edgeInput? known, nonNull⟩

/-- Named output types and bare input types have wrappers around them for their non-null types. -/
theorem RangeFits.wraps {pool : TypePool} {range sub : TypeEntry}
    (fits : RangeFits SchemaType.IsNonNullOf pool range sub) {name : String}
    (named : sub.output.name? = some name)
    (bare : ∀ serial inner, sub.input ≠ some (.nonNull serial inner)) :
    RangeFits SchemaType.Wraps pool range sub where
  output edge known := by
    obtain ⟨value, found, nonNull⟩ := fits.output edge known
    refine ⟨value, found, nonNull.wraps fun serial inner same => ?_⟩
    rw [same] at named
    cases named
  input := by
    obtain ⟨_, input⟩ := fits
    generalize range.input = ranged at input
    generalize sub.input = type at input bare
    cases input with
    | none => exact .none
    | some edges =>
      refine .some fun edge known => ?_
      obtain ⟨value, found, nonNull⟩ := edges edge known
      exact ⟨value, found, nonNull.wraps fun serial inner same => bare serial inner (by rw [same])⟩

/-- A range fits one pair of types only. -/
theorem RangeFits.unique {pool : TypePool} {range sub other : TypeEntry}
    (fits : RangeFits SchemaType.Wraps pool range sub)
    (fits' : RangeFits SchemaType.Wraps pool range other) : sub = other := by
  obtain ⟨output, input⟩ := sub
  obtain ⟨output', input'⟩ := other
  have start : "start" ∈ rangeEdges := by decide
  have sameOutput : output = output' := by
    obtain ⟨value, found, wraps⟩ := fits.output "start" start
    obtain ⟨value', found', wraps'⟩ := fits'.output "start" start
    obtain rfl := Option.some.inj (found.symm.trans found')
    exact wraps.injective wraps'
  have sameInput : input = input' := by
    obtain ⟨-, inputFits⟩ := fits
    obtain ⟨-, inputFits'⟩ := fits'
    dsimp only at inputFits inputFits'
    generalize range.input = ranged at inputFits inputFits'
    cases inputFits with
    | none =>
      cases inputFits' with
      | none => rfl
    | some edges =>
      cases inputFits' with
      | some edges' =>
        obtain ⟨value, found, wraps⟩ := edges "start" start
        obtain ⟨value', found', wraps'⟩ := edges' "start" start
        obtain rfl := Option.some.inj (found.symm.trans found')
        rw [wraps.injective wraps']
  rw [sameOutput, sameInput]

/-! ### Settled ranges -/

/-- The objects of a settled range are those under the name of its subtype. -/
theorem SettledRange.shaped {registry : Registry} (sound : Sound setting registry)
    {rangeId subId : TypeId} {range sub : TypeEntry}
    (settled : SettledRange setting registry rangeId subId range sub) :
    ∃ name, sub.output.name? = some name ∧ registry.rangeShapes.find? name = some range := by
  obtain ⟨⟨descriptor, known, kind, found⟩, plain, settledRange, settledSub⟩ := settled
  have rests : descriptor.builtOver = some .rangeSubtype := by
    unfold Descriptor.builtOver
    rw [kind]
    rfl
  obtain ⟨child, _, settledChild, completed⟩ :=
    sound.settled_overChild settledRange known plain rests found
  obtain rfl := Option.some.inj (settledSub.symm.trans settledChild)
  cases completed with
  | range _ _ name shaped => exact ⟨_, name, shaped⟩

/-- The objects of a settled range were made for a settled range over a subtype of the same name. -/
theorem Sound.shape_made {registry : Registry} (sound : Sound setting registry)
    {rangeId subId : TypeId} {range sub : TypeEntry}
    (settled : SettledRange setting registry rangeId subId range sub) :
    ∃ makerId makerSubId makerSub, SettledRange setting registry makerId makerSubId range makerSub ∧
      makerSub.output.name? = sub.output.name? ∧
      RangeFits SchemaType.IsNonNullOf registry.pool range makerSub := by
  obtain ⟨name, named, shaped⟩ := settled.shaped sound
  obtain ⟨makerId, makerSubId, makerSub, maker, named', fits⟩ := sound.shapes shaped
  exact ⟨makerId, makerSubId, makerSub, maker, named'.trans named.symm, fits.fits⟩

/-- The subtypes of settled ranges have the same types if their output types have the same name. -/
def SubtypesAgree (setting : Setting) (registry : Registry) : Prop :=
  ∀ ⦃rangeId subId otherId otherSubId range sub other otherSub⦄,
    SettledRange setting registry rangeId subId range sub →
    SettledRange setting registry otherId otherSubId other otherSub →
    sub.output.name? = otherSub.output.name? → sub = otherSub

/-- The subtypes of settled ranges have no input types that are non-null already. -/
def BareInputs (setting : Setting) (registry : Registry) : Prop :=
  ∀ ⦃rangeId subId range sub⦄, SettledRange setting registry rangeId subId range sub →
    ∀ serial inner, sub.input ≠ some (.nonNull serial inner)

/-- All settled ranges fit their subtypes. -/
def AllFit (setting : Setting) (nonNull : SchemaType → SchemaType → Prop)
    (registry : Registry) : Prop :=
  ∀ ⦃rangeId subId range sub⦄, SettledRange setting registry rangeId subId range sub →
    RangeFits nonNull registry.pool range sub

theorem Sound.allFit_of_agree {registry : Registry} (sound : Sound setting registry)
    (agree : SubtypesAgree setting registry) : AllFit setting SchemaType.IsNonNullOf registry := by
  intro rangeId subId range sub settled
  obtain ⟨makerId, makerSubId, makerSub, maker, named, fits⟩ := sound.shape_made settled
  rwa [agree maker settled named] at fits

theorem Sound.agree_of_allFit {registry : Registry} (sound : Sound setting registry)
    (allFit : AllFit setting SchemaType.Wraps registry) : SubtypesAgree setting registry := by
  intro rangeId subId otherId otherSubId range sub other otherSub settled settled' named
  obtain ⟨name, name', shaped⟩ := settled.shaped sound
  obtain ⟨otherName, otherName', shaped'⟩ := settled'.shaped sound
  -- Both ranges have the objects under one name, which fit one pair of types only.
  obtain rfl := Option.some.inj ((name'.symm.trans named).trans otherName')
  obtain rfl := Option.some.inj (shaped.symm.trans shaped')
  exact (allFit settled).unique (allFit settled')

/-- No type is a wrapper around itself. -/
theorem SchemaType.nonNull_ne (serial : Nat) (type : SchemaType) : type ≠ .nonNull serial type := by
  intro same
  have size := congrArg sizeOf same
  simp only [SchemaType.nonNull.sizeOf_spec] at size
  omega

theorem Sound.bare_of_allFit {registry : Registry} (sound : Sound setting registry)
    (allFit : AllFit setting SchemaType.Wraps registry) : BareInputs setting registry := by
  intro rangeId subId range sub settled serial inner given
  obtain ⟨makerId, makerSubId, makerSub, maker, named, made⟩ := sound.shape_made settled
  obtain rfl := sound.agree_of_allFit allFit maker settled named
  obtain ⟨-, input⟩ := allFit settled
  obtain ⟨-, madeInput⟩ := made
  rw [given] at input madeInput
  generalize range.input = ranged at input madeInput
  cases input with
  | some edges =>
    cases madeInput with
    | some madeEdges =>
      -- A type that is non-null already is taken as it is, and no wrapper is put around it.
      have start : "start" ∈ rangeEdges := by decide
      obtain ⟨value, found, other, wraps⟩ := edges "start" start
      obtain ⟨value', found', taken⟩ := madeEdges "start" start
      obtain rfl := Option.some.inj (found.symm.trans found')
      exact SchemaType.nonNull_ne other (.nonNull serial inner) (taken.symm.trans wraps)

/-- **All ranges fit their subtypes exactly when subtypes of one name have the same types**, and no
input type is non-null already. Such an input type is its own non-null type, and in that sense
ranges fit whenever subtypes of one name have the same types. -/
theorem ranges_fit_iff {registry : Registry} (reachable : Reachable setting registry) :
    (AllFit setting SchemaType.Wraps registry ↔
      SubtypesAgree setting registry ∧ BareInputs setting registry) ∧
    (SubtypesAgree setting registry → AllFit setting SchemaType.IsNonNullOf registry) := by
  have sound := reachable.sound
  refine ⟨⟨fun allFit => ⟨sound.agree_of_allFit allFit, sound.bare_of_allFit allFit⟩, ?_⟩,
    sound.allFit_of_agree⟩
  intro ⟨agree, bare⟩ rangeId subId range sub settled
  obtain ⟨name, named, -⟩ := settled.shaped sound
  exact (sound.allFit_of_agree agree settled).wraps named (bare settled)

/-! ### Two subtypes of one name -/

/-- Two number types that become one scalar, of which only the second can be used for input, and a
range over each. -/
def twinSetting : Setting where
  catalog := ⟨.ofList [
    (20, .plain 20 "pg_catalog" "int8" .base Category.numeric),
    (23, .plain 23 "pg_catalog" "int4" .base Category.numeric),
    (200, { Descriptor.plain 200 "app" "int4range" .range Category.range with
      rangeSubtype := some 23 }),
    (201, { Descriptor.plain 201 "app" "int8range" .range Category.range with
      rangeSubtype := some 20 })]⟩
  naming := .standard Descriptor.name
  config := .default
  scalars := .make false

/-- The overrides of the number types. -/
def twinOverrides : List Request := [
  .registerOverride 23 ⟨twinSetting.scalars.int, none, none⟩ .fail,
  .registerOverride 20 ⟨twinSetting.scalars.int, some twinSetting.scalars.int, none⟩ .fail]

/-- Both ranges were asked for. -/
def twinRegistry : Registry :=
  Request.afterAll twinSetting .initial (twinOverrides ++ [.entry 200, .entry 20, .entry 201])

theorem twinRegistry_reachable : Reachable twinSetting twinRegistry := .afterAll _

theorem ranges_fit_iff_twins :
    Reachable twinSetting twinRegistry ∧
      (AllFit twinSetting SchemaType.Wraps twinRegistry ↔
        SubtypesAgree twinSetting twinRegistry ∧ BareInputs twinSetting twinRegistry) ∧
      (SubtypesAgree twinSetting twinRegistry →
        AllFit twinSetting SchemaType.IsNonNullOf twinRegistry) :=
  ⟨twinRegistry_reachable, ranges_fit_iff twinRegistry_reachable⟩

/-- The second range cannot be used for input, although its subtype can. -/
theorem range_misfit :
    Reachable twinSetting twinRegistry ∧ ∃ range sub,
      SettledRange twinSetting twinRegistry 201 20 range sub ∧
        range.input = none ∧ sub.input = some twinSetting.scalars.int ∧
        ¬RangeFits SchemaType.IsNonNullOf twinRegistry.pool range sub := by
  obtain ⟨range, foundRange⟩ : ∃ range, twinRegistry.types.find? 201 = some range :=
    Option.isSome_iff_exists.1 (by decide +kernel)
  obtain ⟨sub, foundSub⟩ : ∃ sub, twinRegistry.types.find? 20 = some sub :=
    Option.isSome_iff_exists.1 (by decide +kernel)
  have noInput : (twinRegistry.types.find? 201).map (·.input) = some none := by decide +kernel
  have input : (twinRegistry.types.find? 20).map (·.input) =
      some (some twinSetting.scalars.int) := by
    decide +kernel
  rw [foundRange] at noInput
  rw [foundSub] at input
  have noInput' : range.input = none := Option.some.inj noInput
  have input' : sub.input = some twinSetting.scalars.int := Option.some.inj input
  refine ⟨twinRegistry_reachable, range, sub,
    ⟨⟨_, rfl, rfl, rfl⟩, by decide +kernel, foundRange, foundSub⟩, noInput', input', fun fits => ?_⟩
  obtain ⟨-, inputFits⟩ := fits
  rw [noInput', input'] at inputFits
  cases inputFits

end CatalogSchema
