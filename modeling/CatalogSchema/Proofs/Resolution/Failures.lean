/-
**What a failed resolution leaves behind.**

A resolution that fails may have settled types below its own. These are the types that they become
on their own, and asking again fails again.

* `runOn_resolveAt_cases`: one resolution settles its own id at most, after what its child settled.
* `runOn_resolveAt_deeper`: more levels, or another referrer, change nothing about a resolution that
  succeeds.
* `runOn_resolveAt_below`: what a resolution settles, it settles as a resolution of that id alone
  does.
* `runOn_resolveAt_again`: a resolution that failed fails again, and changes nothing any more.
* `failed_entry_leaves`: all of it, for an id that a caller asks for.
-/

import CatalogSchema.Proofs.Resolution.History
import CatalogSchema.Proofs.Resolution.Identity

namespace CatalogSchema

namespace Resolve

variable {setting : Setting} {remaining : Nat} {id : TypeId} {referrer : Option Descriptor}
  {registry after : Registry} {outcome : Except BuildError TypeEntry}

/-! ### One resolution -/

/-- What is not settled needs levels to succeed. -/
theorem runOn_resolveAt_zero_ok {entry : TypeEntry}
    (ran : runOn (resolveAt setting 0 id referrer) registry = (.ok entry, after)) :
    registry.types.find? id = some entry ∧ after = registry := by
  rw [runOn_resolveAt_zero] at ran
  cases settled : registry.types.find? id with
  | some kept =>
    rw [settled] at ran
    cases ran
    exact ⟨rfl, rfl⟩
  | none =>
    rw [settled] at ran
    cases known : setting.catalog.require id referrer <;> rw [known] at ran <;> cases ran

/-- A resolution settles its id and what that leads to, whatever its outcome. -/
theorem runOn_resolveAt_settles (sound : Sound setting registry)
    (ran : runOn (resolveAt setting remaining id referrer) registry = (outcome, after)) :
    Settles setting registry id outcome after := by
  have resolves := resolveAt_resolves sound.described remaining id referrer
  rw [ran] at resolves
  exact resolves.settles sound

/-- A type over its child: what the child became, or its error, decides. -/
theorem runOn_resolveAt_over {descriptor : Descriptor} {role : ChildRole} {childId : TypeId}
    (opened : OpenedOver setting registry remaining id descriptor role childId) :
    runOn (resolveAt setting (remaining + 1) id referrer) registry =
      match runOn (resolveAt setting remaining childId (some descriptor)) registry with
      | (.error error, left) => (.error (error.resolving descriptor), left)
      | (.ok child, left) =>
        match runOn (complete setting descriptor role childId child) left with
        | (.ok (entry, codec), made) => (.ok entry, made.file id entry codec)
        | (.error error, made) => (.error (error.resolving descriptor), made) := by
  rw [runOn_resolveAt_succ, opened.free, Catalog.require_eq_ok opened.known]
  simp only [runOn_synthesize, opened.plain, opened.rests, runOver, opened.admitted]
  rcases runOn (resolveAt setting remaining childId (some descriptor)) registry with
    ⟨_ | child, left⟩ <;> rfl

/-- A registry in which an id was filed at most, and then the outcome is its entry. -/
def FiledAtMost (id : TypeId) (outcome : Except BuildError TypeEntry)
    (left after : Registry) : Prop :=
  after = left ∨ ∃ made entry codec, left.SameEntries made ∧ outcome = .ok entry ∧
    after = made.file id entry codec

/-- **One resolution settles its own id at most**, after what the resolution of its child
settled. -/
theorem runOn_resolveAt_cases (described : Described setting registry)
    (ran : runOn (resolveAt setting (remaining + 1) id referrer) registry = (outcome, after)) :
    FiledAtMost id outcome registry after ∨
      ∃ descriptor role childId child left,
        OpenedOver setting registry remaining id descriptor role childId ∧
        runOn (resolveAt setting remaining childId (some descriptor)) registry = (child, left) ∧
        FiledAtMost id outcome left after := by
  have ends {descriptor role childId}
      (opened : OpenedOver setting registry remaining id descriptor role childId) :
      ∃ child left, runOn (resolveAt setting remaining childId (some descriptor)) registry =
        (child, left) ∧ FiledAtMost id outcome left after := by
    rw [runOn_resolveAt_over opened] at ran
    have resolves := resolveAt_resolves described remaining childId (some descriptor)
    rcases below : runOn (resolveAt setting remaining childId (some descriptor)) registry with
      ⟨error | child, left⟩
    · rw [below] at ran
      cases ran
      exact ⟨_, _, rfl, .inl rfl⟩
    · rw [below] at ran resolves
      obtain ⟨childDescriptor, knownChild⟩ := resolves.known described
      refine ⟨_, _, rfl, ?_⟩
      rcases runOn_complete descriptor knownChild role child left with
        ⟨entry, shared, made, completed, same, -⟩ | ⟨-, -, unnamed⟩
      · simp only [completed] at ran
        cases ran
        exact .inr ⟨made, entry, some shared, same, rfl, rfl⟩
      · simp only [unnamed] at ran
        cases ran
        exact .inl rfl
  have resolves := resolveAt_resolves described (remaining + 1) id referrer
  rw [ran] at resolves
  cases resolves with
  | settled | unknown | unlabelled | refused => exact .inl (.inl rfl)
  | overridden => exact .inl (.inr ⟨registry, _, _, .refl registry, rfl, rfl⟩)
  | alone _ _ _ same _ => exact .inl (.inr ⟨_, _, _, same, rfl, rfl⟩)
  | childFailed opened | unnamed opened | overChild opened =>
    obtain ⟨child, left, below, filed⟩ := ends opened
    exact .inr ⟨_, _, _, child, left, opened, below, filed⟩

/-! ### More levels -/

/-- A child that may be asked for within the levels may be within more. -/
theorem askChild_deeper {levels more : Nat} (few : levels ≤ more) {descriptor : Descriptor}
    {role : ChildRole} {childId : TypeId}
    (admitted : askChild setting levels descriptor role = .ok childId) :
    askChild setting more descriptor role = .ok childId := by
  have inRole := child?_of_askChild admitted
  unfold askChild at admitted ⊢
  simp only [inRole] at admitted ⊢
  by_cases range : role = .rangeSubtype
  · rw [if_pos range] at admitted ⊢
    obtain ⟨-, sub, bottom, known, walked, notRow⟩ := askSubtype_eq_ok admitted
    rcases domainBottom_of_ok walked more with deeper | ⟨fewer, -⟩
    · rw [askSubtype, Catalog.require_eq_ok known, ok_bind, deeper, ok_bind, if_neg notRow]
    · exact absurd few (Nat.not_le_of_lt fewer)
  · rw [if_neg range]

/-- A type over its child is made exactly when the child may be asked for, is resolved, and is
completed. -/
theorem runOver_eq_ok {resolveChild : TypeId → Resolve TypeEntry} {descriptor : Descriptor}
    {role : ChildRole} {made : TypeEntry × Option SharedCodec} :
    runOver setting remaining resolveChild descriptor role registry = (.ok made, after) ↔
      ∃ childId child left, askChild setting remaining descriptor role = .ok childId ∧
        runOn (resolveChild childId) registry = (.ok child, left) ∧
        runOn (complete setting descriptor role childId child) left = (.ok made, after) := by
  unfold runOver
  cases admitted : askChild setting remaining descriptor role with
  | error error => simp
  | ok childId =>
    rcases below : runOn (resolveChild childId) registry with ⟨error | child, left⟩
    · simp [below]
    · simp only [below]
      refine ⟨fun completed => ⟨childId, child, left, rfl, below, completed⟩, ?_⟩
      rintro ⟨childId', child', left', same, below', completed⟩
      cases same
      cases below.symm.trans below'
      exact completed

/-- A synthesis that succeeds within the levels succeeds within more, if its child does. -/
theorem runOn_synthesize_deeper {levels more : Nat} (few : levels ≤ more)
    {resolveChild deeperChild : TypeId → Resolve TypeEntry} {descriptor : Descriptor}
    {made : TypeEntry × Option SharedCodec}
    (below : ∀ {childId child left}, runOn (resolveChild childId) registry = (.ok child, left) →
      runOn (deeperChild childId) registry = (.ok child, left))
    (ran : runOn (synthesize setting levels resolveChild id descriptor) registry =
      (.ok made, after)) :
    runOn (synthesize setting more deeperChild id descriptor) registry = (.ok made, after) := by
  rw [runOn_synthesize] at ran ⊢
  cases plain : registry.overrides.find? id with
  | some mapping =>
    rw [plain] at ran
    exact ran
  | none =>
    cases rests : descriptor.builtOver with
    | none =>
      rw [plain, rests] at ran
      exact ran
    | some role =>
      simp only [plain, rests] at ran ⊢
      obtain ⟨childId, child, left, admitted, resolved, completed⟩ := runOver_eq_ok.1 ran
      exact runOver_eq_ok.2
        ⟨childId, child, left, askChild_deeper few admitted, below resolved, completed⟩

/-- **More levels change nothing** about a resolution that succeeds, and neither does the
referrer. -/
theorem runOn_resolveAt_deeper {levels more : Nat} (few : levels ≤ more) {entry : TypeEntry}
    (ran : runOn (resolveAt setting levels id referrer) registry = (.ok entry, after))
    (other : Option Descriptor) :
    runOn (resolveAt setting more id other) registry = (.ok entry, after) := by
  induction levels generalizing more id referrer registry after entry other with
  | zero =>
    obtain ⟨settled, rfl⟩ := runOn_resolveAt_zero_ok ran
    exact runOn_resolveAt_of_settled settled
  | succ levels ih =>
    obtain ⟨more, rfl⟩ : ∃ others, more = others + 1 := ⟨more - 1, by omega⟩
    replace few : levels ≤ more := Nat.le_of_succ_le_succ few
    rw [runOn_resolveAt_succ] at ran ⊢
    cases settled : registry.types.find? id with
    | some kept =>
      rw [settled] at ran
      exact ran
    | none =>
      rw [settled] at ran
      cases required : setting.catalog.require id referrer with
      | error error =>
        rw [required] at ran
        cases ran
      | ok descriptor =>
        rw [required] at ran
        rw [Catalog.require_eq_ok (Catalog.find?_of_require required) other]
        dsimp only at ran ⊢
        rcases made : runOn (synthesize setting levels
          (fun child => resolveAt setting levels child (some descriptor)) id
          descriptor) registry with
          ⟨error | ⟨kept, codec⟩, left⟩
        · rw [made] at ran
          cases ran
        · rw [made] at ran
          rw [runOn_synthesize_deeper few (fun below => ih few below (some descriptor)) made]
          exact ran

/-! ### What is new -/

/-- What a registry holds for an id is what a resolution of that id alone, in an earlier registry,
made it. -/
def MadeAlone (setting : Setting) (levels : Nat) (registry after : Registry) (id : TypeId)
    (entry : TypeEntry) : Prop :=
  ∃ via left, runOn (resolveAt setting levels id via) registry = (.ok entry, left) ∧
    left.Grows after

theorem MadeAlone.grows {levels : Nat} {entry : TypeEntry} {later : Registry}
    (made : MadeAlone setting levels registry after id entry) (grows : after.Grows later) :
    MadeAlone setting levels registry later id entry := by
  obtain ⟨via, left, ran, early⟩ := made
  exact ⟨via, left, ran, early.trans grows⟩

theorem MadeAlone.deeper {levels more : Nat} (few : levels ≤ more) {entry : TypeEntry}
    (made : MadeAlone setting levels registry after id entry) :
    MadeAlone setting more registry after id entry := by
  obtain ⟨via, left, ran, grows⟩ := made
  exact ⟨via, left, runOn_resolveAt_deeper few ran via, grows⟩

/-- What is filed at most, after others: these are kept, and the rest is the filed id with its
outcome. -/
theorem FiledAtMost.types {left : Registry} (filed : FiledAtMost id outcome left after)
    (free : left.types.find? id = none) :
    left.Grows after ∧ ∀ {other entry}, after.types.find? other = some entry →
      left.types.find? other = some entry ∨ other = id ∧ outcome = .ok entry := by
  rcases filed with rfl | ⟨made, entry, codec, same, rfl, rfl⟩
  · exact ⟨.refl _, .inl⟩
  · have freeMade : made.types.find? id = none := by rw [same.types, free]
    refine ⟨same.grows.trans (.file freeMade), fun {other kept} found => ?_⟩
    by_cases self : other = id
    · subst self
      rw [Registry.file_types_self freeMade] at found
      cases found
      exact .inr ⟨rfl, rfl⟩
    · rw [Registry.file_types_of_ne self, same.types] at found
      exact .inl found

/-- **What a resolution settles**, whether or not it succeeds, was settled before or is what a
resolution of that id alone makes it. -/
theorem runOn_resolveAt_below (sound : Sound setting registry)
    (ran : runOn (resolveAt setting remaining id referrer) registry = (outcome, after))
    {other : TypeId} {entry : TypeEntry} (found : after.types.find? other = some entry) :
    registry.types.find? other = some entry ∨
      MadeAlone setting remaining registry after other entry := by
  induction remaining generalizing id referrer outcome after with
  | zero =>
    have resolves := resolveAt_resolves sound.described 0 id referrer
    rw [ran] at resolves
    cases resolves with
    | settled | unknown | tooDeep => exact .inl found
  | succ remaining ih =>
    cases settled : registry.types.find? id with
    | some kept =>
      rw [runOn_resolveAt_of_settled settled] at ran
      cases ran
      exact .inl found
    | none =>
      -- The id itself, or what its child or an earlier request settled.
      have self {left} (filed : FiledAtMost id outcome left after)
          (free : left.types.find? id = none) :
          left.types.find? other = some entry ∨
            MadeAlone setting (remaining + 1) registry after other entry := by
        obtain ⟨-, news⟩ := filed.types free
        rcases news found with below | ⟨rfl, rfl⟩
        · exact .inl below
        · exact .inr ⟨referrer, after, ran, .refl after⟩
      rcases runOn_resolveAt_cases sound.described ran with
        filed | ⟨descriptor, role, childId, child, left, opened, below, filed⟩
      · exact self filed settled
      · have free : left.types.find? id = none :=
          (runOn_resolveAt_settles sound below).still_free settled opened.refers
        obtain ⟨grows, -⟩ := filed.types free
        rcases self filed free with kept | alone
        · rcases ih below kept with old | made
          · exact .inl old
          · exact .inr ((made.deeper (Nat.le_succ remaining)).grows grows)
        · exact .inr alone

/-! ### Again -/

/-- The id of a resolution that failed is not settled by it. -/
theorem runOn_resolveAt_error_free (sound : Sound setting registry) {error : BuildError}
    (failed : runOn (resolveAt setting remaining id referrer) registry = (.error error, after)) :
    after.types.find? id = none := by
  have free := free_of_resolveAt_error (congrArg Prod.fst failed)
  have resolves := resolveAt_resolves sound.described remaining id referrer
  rw [failed] at resolves
  cases resolves with
  | unknown | tooDeep | unlabelled | refused => exact free
  | childFailed opened below => exact (below.settles sound).still_free free opened.refers
  | unnamed opened below => exact (below.settles sound).still_free free opened.refers

/-- **A resolution that failed fails again**, with the same error, and changes nothing any more.
What it settled the first time is looked up the second time. -/
theorem runOn_resolveAt_again (sound : Sound setting registry) {error : BuildError}
    (failed : runOn (resolveAt setting remaining id referrer) registry = (.error error, after)) :
    runOn (resolveAt setting remaining id referrer) after = (.error error, after) := by
  induction remaining generalizing id referrer error after with
  | zero =>
    have resolves := resolveAt_resolves sound.described 0 id referrer
    rw [failed] at resolves
    cases resolves with
    | unknown | tooDeep => exact failed
  | succ remaining ih =>
    have free := runOn_resolveAt_error_free sound failed
    rcases runOn_resolveAt_cases sound.described failed with
      same | ⟨descriptor, role, childId, child, left, opened, below, same⟩
    · obtain rfl : after = registry := same.resolve_right nofun
      exact failed
    · obtain rfl : after = left := same.resolve_right nofun
      have settles := runOn_resolveAt_settles sound below
      have reopened : OpenedOver setting after remaining id descriptor role childId :=
        ⟨⟨free, opened.known, by rw [settles.overrides, opened.plain]⟩, opened.rests,
          opened.admitted⟩
      have again : runOn (resolveAt setting remaining childId (some descriptor)) after =
          (child, after) := by
        cases child with
        | error childError => exact ih below
        | ok entry => exact runOn_resolveAt_of_settled (settles.returned rfl)
      -- Both runs go on from the same child in the same registry.
      rw [runOn_resolveAt_over opened, below] at failed
      rw [runOn_resolveAt_over reopened, again]
      exact failed

end Resolve

open Resolve

/-! ### What a failure leaves -/

/-- What an id is newly settled as is what an earlier registry answers for it, with the same
conversion. -/
def SettledAsAlone (setting : Setting) (registry after : Registry) (id : TypeId) : Prop :=
  ∃ entry left, after.types.find? id = some entry ∧
    runOn (Resolve.entry setting id) registry = (.ok entry, left) ∧
    left.codecs.find? id = after.codecs.find? id

/-- **A failed resolution leaves only good entries behind.** The id that was asked for has neither
types nor a conversion. What was held is held, and overrides and set types are the same. Whatever is
new, types or a conversion, belongs to an id for which the registry would have answered before, with
these types and this conversion. Asking again is the same error, and changes nothing. -/
theorem failed_entry_leaves (setting : Setting) {registry after : Registry}
    (reachable : Reachable setting registry) {id : TypeId} {error : BuildError}
    (failed : runOn (Resolve.entry setting id) registry = (.error error, after)) :
    (after.types.find? id = none ∧ after.codecs.find? id = none) ∧
    (registry.Grows after ∧ registry.Retains setting after) ∧
    (after.overrides = registry.overrides ∧ after.sets = registry.sets) ∧
    (∀ other, registry.types.find? other = none → after.types.contains other →
      SettledAsAlone setting registry after other) ∧
    (∀ other, registry.codecs.find? other = none → after.codecs.contains other →
      SettledAsAlone setting registry after other) ∧
    runOn (Resolve.entry setting id) after = (.error error, after) := by
  have sound := reachable.sound
  have settles := runOn_resolveAt_settles sound failed
  have free : after.types.find? id = none := runOn_resolveAt_error_free sound failed
  have settledAlone {other} (new : registry.types.find? other = none)
      (settled : after.types.contains other) : SettledAsAlone setting registry after other := by
    obtain ⟨entry, found⟩ := Option.isSome_iff_exists.1 settled
    rcases runOn_resolveAt_below sound failed found with old | ⟨via, left, ran, grows⟩
    · cases new.symm.trans old
    · have asked := runOn_resolveAt_deeper (Nat.le_refl _) ran none
      exact ⟨entry, left, found, asked, (grows.codecs_kept (find?_of_runOn_entry sound asked)).symm⟩
  refine ⟨⟨free, settles.sound.codecs_settled free⟩,
    ⟨settles.grows, retains_of_grows sound settles.grows⟩, ⟨settles.overrides, settles.sets⟩,
    fun other new settled => settledAlone new settled, fun other new registered => ?_,
    runOn_resolveAt_again sound failed⟩
  obtain ⟨shared, found⟩ := Option.isSome_iff_exists.1 registered
  obtain ⟨entry, settled⟩ := settles.sound.settled_of_codec found
  refine settledAlone ?_ (Option.isSome_iff_exists.2 ⟨entry, settled⟩)
  -- A type that was settled before would have this conversion already.
  cases old : registry.types.find? other with
  | none => rfl
  | some kept => cases (new.symm.trans (settles.grows.codecs_kept old).symm).trans found

/-- A list over a number type, a range over the list, and a domain over the range. -/
def unnamedSetting : Setting where
  catalog := ⟨.ofList [
    (23, .plain 23 "pg_catalog" "int4" .base Category.numeric),
    (107, { Descriptor.plain 107 "app" "_int4" .array Category.array with arrayItem := some 23 }),
    (108, { Descriptor.plain 108 "app" "spans" .range Category.range with
      rangeSubtype := some 107 }),
    (109, { Descriptor.plain 109 "app" "reach" .domain Category.range with
      domainBase := some 108 })]⟩
  naming := .standard Descriptor.name
  config := .default
  scalars := .make false

/-- The domain fails, since lists have no name. The list and the number type are settled by then, as
they would be on their own. -/
theorem failed_entry_leaves_list :
    ∃ error after,
      (Reachable unnamedSetting .initial ∧
        runOn (Resolve.entry unnamedSetting 109) .initial = (.error error, after)) ∧
      after.types.find? 109 = none ∧
      SettledAsAlone unnamedSetting .initial after 107 ∧
      SettledAsAlone unnamedSetting .initial after 23 ∧
      runOn (Resolve.entry unnamedSetting 109) after = (.error error, after) := by
  obtain ⟨error, failed, -⟩ := exists_of_failsWith (fun _ => true)
    (runOn (Resolve.entry unnamedSetting 109) .initial).1 (by decide +kernel)
  have ran : runOn (Resolve.entry unnamedSetting 109) .initial =
      (.error error, (runOn (Resolve.entry unnamedSetting 109) .initial).2) := Prod.ext failed rfl
  obtain ⟨⟨free, -⟩, -, -, types, -, again⟩ := failed_entry_leaves unnamedSetting .start ran
  exact ⟨error, _, ⟨.start, ran⟩, free, types 107 rfl (by decide +kernel),
    types 23 rfl (by decide +kernel), again⟩

end CatalogSchema
