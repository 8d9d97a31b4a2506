/-
**No range over a row type.**

Before the subtype of a range is resolved, the domains below it are walked by their descriptors.
Neither what is settled nor an override changes where the walk ends, so a range whose subtype rests
on a row type is refused in every registry, and no registry that is reached by requests holds one.

* `domainBottom_of_restsOnRow`: the walk comes to the row type, or the levels are used up before.
* `Catalog.RowRange.refused`: so the subtype may not be asked for, whatever levels remain.
* `Catalog.RowRange.unsettled`: a sound registry holds nothing for such a range.
* `ranges_over_rows_refused`: all of it, for every reachable registry.
-/

import CatalogSchema.Proofs.Resolution.Depth

namespace CatalogSchema

open Resolve

/-- A range without override whose subtype is a row type, or a domain over one through any number of
domains. -/
structure Catalog.RowRange (catalog : Catalog) (overrides : SortedMap TypeId Override) (id : TypeId)
    (descriptor : Descriptor) (subId : TypeId) : Prop where
  known : catalog.find? id = some descriptor
  plain : overrides.find? id = none
  kind : descriptor.kind = .range
  refers : descriptor.rangeSubtype = some subId
  row : catalog.RestsOnRow subId

/-- Ranges are built over their subtype. -/
theorem Descriptor.builtOver_range {descriptor : Descriptor} (kind : descriptor.kind = .range) :
    descriptor.builtOver = some .rangeSubtype := by
  unfold builtOver
  rw [kind]
  rfl

/-- What rests on a row type is in the catalog. -/
theorem Catalog.RestsOnRow.known {catalog : Catalog} {id : TypeId} (row : catalog.RestsOnRow id) :
    ∃ descriptor, catalog.find? id = some descriptor := by
  cases row with
  | row known => exact ⟨_, known⟩
  | domain known => exact ⟨_, known⟩

variable {setting : Setting} {registry : Registry} {id subId : TypeId} {descriptor : Descriptor}

/-- **The walk over domains that rest on a row type** comes to a row type below, or the levels are
used up. -/
theorem domainBottom_of_restsOnRow (row : setting.catalog.RestsOnRow id)
    (known : setting.catalog.find? id = some descriptor) (remaining : Nat) :
    ∃ steps last, setting.catalog.descendant? steps id = some last ∧
      (domainBottom setting remaining descriptor = .error (tooDeep setting last) ∨
        domainBottom setting remaining descriptor = .ok last ∧ last.kind = .composite) := by
  -- The walk takes the domains in the order in which the id rests on them, one level for each.
  induction row generalizing descriptor remaining with
  | row known' kind =>
    obtain rfl := Option.some.inj (known.symm.trans known')
    have stays : descriptor.kind ≠ .domain := by
      rw [kind]
      decide
    unfold domainBottom
    rw [if_neg stays]
    exact ⟨0, descriptor, known, .inr ⟨rfl, kind⟩⟩
  | domain known' kind refers base ih =>
    obtain rfl := Option.some.inj (known.symm.trans known')
    unfold domainBottom
    rw [if_pos kind]
    cases remaining with
    | zero => exact ⟨0, descriptor, known, .inl rfl⟩
    | succ remaining =>
      obtain ⟨baseDescriptor, knownBase⟩ := base.known
      obtain ⟨steps, last, met, ends⟩ := ih knownBase remaining
      have child := (Descriptor.childId?_of_domain kind).trans refers
      simp only [refers, Catalog.require_eq_ok knownBase, ok_bind]
      exact ⟨steps + 1, last, (Catalog.descendant?_succ known child steps).trans met, ends⟩

/-- The error of a range over a row type: a descriptor below the subtype is too deep, or the range
is named with the row type below its subtype. -/
inductive RowFault (setting : Setting) (range : Descriptor) (subId : TypeId) : BuildError → Prop
  | tooDeep {steps : Nat} {last : Descriptor}
      (met : setting.catalog.descendant? steps subId = some last) :
      RowFault setting range subId (Resolve.tooDeep setting last)
  | row {steps : Nat} {sub last : Descriptor} (known : setting.catalog.find? subId = some sub)
      (met : setting.catalog.descendant? steps subId = some last) (kind : last.kind = .composite) :
      RowFault setting range subId
        (.typeResolution range.displayName range.kind (.configuration (compositeFault sub last)))

/-- **The subtype of such a range may not be asked for**, whatever levels remain. -/
theorem Catalog.RowRange.refused
    (range : setting.catalog.RowRange registry.overrides id descriptor subId) (remaining : Nat) :
    ∃ error, askChild setting remaining descriptor .rangeSubtype = .error error ∧
      RowFault setting descriptor subId (error.resolving descriptor) := by
  have inRole : descriptor.child? .rangeSubtype = some subId := range.refers
  obtain ⟨sub, known⟩ := range.row.known
  unfold askChild
  simp only [inRole, if_true, askSubtype, Catalog.require_eq_ok known, ok_bind]
  obtain ⟨steps, last, met, stopped | ⟨walked, kind⟩⟩ :=
    domainBottom_of_restsOnRow range.row known remaining
  · rw [stopped]
    exact ⟨_, rfl, .tooDeep met⟩
  · rw [walked, ok_bind, if_pos kind]
    exact ⟨_, rfl, .row known met kind⟩

/-- **A sound registry holds nothing for such a range.** -/
theorem Catalog.RowRange.unsettled
    (range : setting.catalog.RowRange registry.overrides id descriptor subId)
    (sound : Sound setting registry) : registry.types.find? id = none := by
  cases settled : registry.types.find? id with
  | none => rfl
  | some entry =>
    -- It would have been settled over its subtype, which was asked for within some number of
    -- levels.
    obtain ⟨remaining, childId, -, -, admitted, -⟩ :=
      sound.settled_over settled range.known range.plain (Descriptor.builtOver_range range.kind)
    obtain ⟨error, refused, -⟩ := range.refused remaining
    cases refused.symm.trans admitted

/-- **A resolution of such a range fails** and changes nothing. -/
theorem Catalog.RowRange.runOn_resolveAt
    (range : setting.catalog.RowRange registry.overrides id descriptor subId)
    (free : registry.types.find? id = none) (remaining : Nat) (referrer : Option Descriptor) :
    ∃ error, runOn (resolveAt setting remaining id referrer) registry = (.error error, registry) ∧
      (error = tooDeep setting descriptor ∨ RowFault setting descriptor subId error) := by
  cases remaining with
  | zero =>
    rw [runOn_resolveAt_zero, free, Catalog.require_eq_ok range.known]
    exact ⟨_, rfl, .inl rfl⟩
  | succ remaining =>
    obtain ⟨error, refused, fault⟩ := range.refused remaining
    have failed : runOn (synthesize setting remaining
        (fun child => resolveAt setting remaining child (some descriptor)) id descriptor) registry =
          (.error error, registry) := by
      rw [runOn_synthesize, range.plain, Descriptor.builtOver_range range.kind]
      dsimp only
      unfold runOver
      rw [refused]
    rw [runOn_resolveAt_succ, free, Catalog.require_eq_ok range.known]
    dsimp only
    rw [failed]
    exact ⟨_, rfl, .inr fault⟩

/-- **No range over a row type.** In every reachable registry a range without override of its own,
whose subtype is a row type or rests on one through any number of domains, has no types and no
conversion. Asking for it fails and changes nothing, under every depth limit, whatever is settled or
overridden below it. -/
theorem ranges_over_rows_refused (reachable : Reachable setting registry)
    (range : setting.catalog.RowRange registry.overrides id descriptor subId) :
    registry.types.find? id = none ∧ registry.codecs.find? id = none ∧
      ∃ error, runOn (Resolve.entry setting id) registry = (.error error, registry) ∧
        (error = tooDeep setting descriptor ∨ RowFault setting descriptor subId error) := by
  have free := range.unsettled reachable.sound
  exact ⟨free, reachable.sound.codecs_settled free, range.runOn_resolveAt free _ none⟩

/-- A row type, a domain over it, a domain over that, and a range over the latter. -/
def rowSetting : Setting where
  catalog := ⟨.ofList [
    (120, .plain 120 "app" "place" .composite Category.composite),
    (121, { Descriptor.plain 121 "app" "town" .domain Category.composite with
      domainBase := some 120 }),
    (122, { Descriptor.plain 122 "app" "capital" .domain Category.composite with
      domainBase := some 121 }),
    (123, { Descriptor.plain 123 "app" "trips" .range Category.range with
      rangeSubtype := some 122 })]⟩
  naming := .standard Descriptor.name
  config := .default
  scalars := .make false

/-- The row type is overridden, and the domains over it are resolved. -/
def rowRegistry : Registry := Request.afterAll rowSetting .initial [
  .registerOverride 120 ⟨rowSetting.scalars.string, none, none⟩ .fail, .entry 120, .entry 122]

/-- A range over the domains is refused all the same. -/
theorem ranges_over_rows_refused_trips :
    Reachable rowSetting rowRegistry ∧
      (∃ descriptor, rowSetting.catalog.RowRange rowRegistry.overrides 123 descriptor 122) ∧
      (∃ mapping, rowRegistry.overrides.find? 120 = some mapping) ∧
      (∃ entry, rowRegistry.types.find? 122 = some entry) ∧
      rowRegistry.types.find? 123 = none ∧ rowRegistry.codecs.find? 123 = none ∧
      ∃ error, runOn (Resolve.entry rowSetting 123) rowRegistry = (.error error, rowRegistry) := by
  have reachable : Reachable rowSetting rowRegistry := .afterAll _
  have place : rowSetting.catalog.RestsOnRow 120 := .row rfl rfl
  have town : rowSetting.catalog.RestsOnRow 121 := .domain rfl rfl rfl place
  have capital : rowSetting.catalog.RestsOnRow 122 := .domain rfl rfl rfl town
  have range : rowSetting.catalog.RowRange rowRegistry.overrides 123 _ 122 :=
    { known := rfl, plain := by decide +kernel, kind := rfl, refers := rfl, row := capital }
  obtain ⟨types, codecs, error, failed, -⟩ := ranges_over_rows_refused reachable range
  have overridden : (rowRegistry.overrides.find? 120).isSome := by decide +kernel
  have settled : (rowRegistry.types.find? 122).isSome := by decide +kernel
  exact ⟨reachable, ⟨_, range⟩, Option.isSome_iff_exists.1 overridden,
    Option.isSome_iff_exists.1 settled, types, codecs, error, failed⟩

end CatalogSchema
