/-
**Plugins that map different ids commute.**

A plugin that maps ids makes types and files overrides. If it runs after another one, it makes the
same types under later numbers, and files the same overrides beside those that are there. So the
order of two plugins that map different ids shows in the serial numbers only.

* `SortedMap.Beside`: a map, and what becomes of it beside the entries of another one.
* `Displaced`: a registry in which a plugin has registered alone, and one in which another had
  registered before.
* `Adds`: a step that hands out so many numbers and maps certain ids only. The plugins for
  well-known types and for row types are such steps (`adds_register`, `adds_declare`).
* `Build.Maps.commute`: two such steps, in either order, leave workspaces that differ in the serial
  numbers only.
-/

import CatalogSchema.Proofs.Build.Renumbering

namespace CatalogSchema

/-! ### Two blocks of numbers -/

/-- Two blocks of numbers, one after the other from a number on, change places. -/
def swapBlocks (start first second : Nat) : Equiv.Perm Nat where
  toFun n := if n < start then n else if n < start + first then n + second
    else if n < start + first + second then n - first else n
  invFun n := if n < start then n else if n < start + second then n + first
    else if n < start + second + first then n - second else n
  left_inv n := by
    dsimp only
    split_ifs <;> omega
  right_inv n := by
    dsimp only
    split_ifs <;> omega

section Blocks

variable (start first second : Nat)

theorem swapBlocks_symm :
    (swapBlocks start first second).symm = swapBlocks start second first := rfl

theorem swapBlocks_below {n : Nat} (below : n < start) : swapBlocks start first second n = n :=
  if_pos below

theorem swapBlocks_first {i : Nat} (inside : i < first) :
    swapBlocks start first second (start + i) = start + second + i := by
  show (if _ then _ else if _ then _ else _) = _
  rw [if_neg (by omega), if_pos (by omega)]
  omega

theorem swapBlocks_ahead {n : Nat} (ahead : start + first + second ≤ n) :
    swapBlocks start first second n = n := by
  show (if _ then _ else if _ then _ else if _ then _ else _) = _
  rw [if_neg (by omega), if_neg (by omega), if_neg (by omega)]

end Blocks

/-- The standard scalars have the first numbers. -/
theorem StandardScalars.fixed_make (legacyNames : Bool) {numbers : Equiv.Perm Nat}
    (kept : ∀ serial < TypePool.initial.next, numbers serial = serial) :
    (make legacyNames).Fixed numbers := by
  have scalar {serial : Nat} (standard : serial < TypePool.initial.next) (name : String)
      (description : Option String) (kind : ScalarKind) :
      renumber numbers (SchemaType.scalar serial name description kind) =
        .scalar serial name description kind :=
    congrArg (SchemaType.scalar · name description kind) (kept serial standard)
  intro type listed
  simp only [toList, make, List.mem_cons, List.not_mem_nil, or_false] at listed
  rcases listed with rfl | rfl | rfl | rfl | rfl | rfl | rfl | rfl | rfl | rfl |
    rfl | rfl | rfl | rfl
  all_goals exact scalar (by decide) _ _ _

/-! ### Maps beside others -/

/-- The value of one of two, wherever it stands. -/
theorem renumber_or {α : Type} [Numbered α] (numbers : Equiv.Perm Nat) {mine theirs : Option α}
    (apart : mine = none ∨ theirs = none) :
    (renumber numbers mine).or theirs =
      renumber numbers ((renumber numbers.symm theirs).or mine) := by
  rcases apart with rfl | rfl
  · rw [Option.or_none, renumber_renumber_symm]
    rfl
  · simp

namespace SortedMap

variable {κ α : Type} [LT κ] [DecidableEq κ] [Numbered α] {keys : Equiv.Perm κ}
  {numbers : Equiv.Perm Nat} {own own' : κ → Prop} {others map map' others' : SortedMap κ α}

/-- A map with certain keys only, and what becomes of it beside other entries: keys and values are
renumbered. -/
structure Beside (keys : Equiv.Perm κ) (numbers : Equiv.Perm Nat) (own : κ → Prop)
    (others map map' : SortedMap κ α) : Prop where
  held : ∀ key, map.find? key ≠ none → own key
  found : ∀ key,
    map'.find? (keys key) = (renumber numbers (map.find? key)).or (others.find? (keys key))

namespace Beside

theorem start : Beside keys numbers own others empty others :=
  ⟨fun _ found => absurd rfl found, fun _ => rfl⟩

theorem mono (beside : Beside keys numbers own others map map')
    (wider : ∀ key, own key → own' key) :
    Beside keys numbers own' others map map' :=
  ⟨fun key found => wider key (beside.held key found), beside.found⟩

/-- Two maps that were put beside each other, either after the other, correspond if they share no
key. -/
theorem meet (first : Beside keys numbers own others map others')
    (second : Beside keys.symm numbers.symm own' map others map')
    (apart : ∀ key, own key → ¬own' (keys key)) (key : κ) :
    others'.find? (keys key) = renumber numbers (map'.find? key) := by
  have found := second.found (keys key)
  rw [keys.symm_apply_apply] at found
  rw [first.found, found]
  refine renumber_or numbers (Classical.byContradiction fun both => ?_)
  obtain ⟨mine, theirs⟩ := not_or.1 both
  exact apart key (first.held key mine) (second.held _ theirs)

variable [LE κ] [DecidableLT κ] [Std.LawfulOrderLT κ] [Std.IsLinearOrder κ]

theorem insert (beside : Beside keys numbers own others map map') {key : κ} (mine : own key)
    (value : α) :
    Beside keys numbers own others (map.insert key value)
      (map'.insert (keys key) (renumber numbers value)) where
  held wanted found := by
    by_cases here : wanted = key
    · exact here ▸ mine
    · exact beside.held wanted (by rwa [find?_insert_of_ne _ here] at found)
  found wanted := by
    by_cases here : wanted = key
    · subst here
      rw [find?_insert_self, find?_insert_self]
      rfl
    · rw [find?_insert_of_ne _ here,
        find?_insert_of_ne _ fun equal => here (keys.injective equal), beside.found]

end Beside

end SortedMap

/-! ### Registering beside another plugin -/

/-- Nothing is resolved: only types were made and overrides filed. -/
structure Registry.Bare (registry : Registry) : Prop where
  types : registry.types = .empty
  codecs : registry.codecs = .empty
  rangeShapes : registry.rangeShapes = .empty
  sets : registry.sets = .empty

theorem Registry.Bare.change {registry : Registry} (bare : registry.Bare) (pool : TypePool)
    (overrides : SortedMap TypeId Override) : Registry.Bare { registry with pool, overrides } :=
  ⟨bare.types, bare.codecs, bare.rangeShapes, bare.sets⟩

/-- A number was handed out since the start. -/
def TypePool.Made (pool : TypePool) (serial : Nat) : Prop :=
  TypePool.initial.next ≤ serial ∧ serial < pool.next

/-- A plugin that maps certain ids and hands out `total` numbers has registered up to `room` of
them: alone in the one registry, and in the other registry after `others` was settled. -/
structure Displaced (numbers : Equiv.Perm Nat) (ids : TypeId → Prop) (others : Registry)
    (total room : Nat) (registry registry' : Registry) : Prop where
  began : TypePool.initial.next ≤ registry.pool.next
  next : registry.pool.next + room = TypePool.initial.next + total
  next' : registry'.pool.next + room = others.pool.next + total
  bare : registry.Bare
  bare' : registry'.Bare
  overrides : SortedMap.Beside (.refl TypeId) numbers ids others.overrides registry.overrides
    registry'.overrides
  fields : SortedMap.Beside numbers numbers registry.pool.Made others.pool.fields
    registry.pool.fields registry'.pool.fields
  inputFields : SortedMap.Beside numbers numbers registry.pool.Made others.pool.inputFields
    registry.pool.inputFields registry'.pool.inputFields

/-- A renumbering for a plugin that registers after `others` was settled: the numbers that it hands
out become those that are next there. -/
structure Shifts (setting : Setting) (numbers : Equiv.Perm Nat) (ids : TypeId → Prop)
    (others : Registry) (total : Nat) : Prop where
  scalars : setting.scalars.Fixed numbers
  nullable : setting.scalars.Nullable
  handed : ∀ i < total, numbers (TypePool.initial.next + i) = others.pool.next + i
  free : ∀ id, ids id → others.overrides.find? id = none

section Registering

variable {numbers : Equiv.Perm Nat} {ids : TypeId → Prop} {others : Registry} {total room : Nat}
  {setting : Setting} {registry registry' : Registry}

/-- At the start, nothing is made yet. -/
theorem Displaced.start (bare : others.Bare) :
    Displaced numbers ids others total total .initial others where
  began := Nat.le_refl _
  next := rfl
  next' := rfl
  bare := ⟨rfl, rfl, rfl, rfl⟩
  bare' := bare
  overrides := .start
  fields := .start
  inputFields := .start

namespace Displaced

/-- The number that is handed out next. -/
theorem numbers_next (displaced : Displaced numbers ids others total (room + 1) registry registry')
    (shifts : Shifts setting numbers ids others total) :
    numbers registry.pool.next = registry'.pool.next := by
  have began := displaced.began
  have next := displaced.next
  have next' := displaced.next'
  have handed := shifts.handed (registry.pool.next - TypePool.initial.next) (by omega)
  rw [Nat.add_sub_cancel' began] at handed
  omega

/-- A number is handed out. -/
theorem skip (displaced : Displaced numbers ids others total (room + 1) registry registry') :
    Displaced numbers ids others total room
      { registry with pool := { registry.pool with next := registry.pool.next + 1 } }
      { registry' with pool := { registry'.pool with next := registry'.pool.next + 1 } } where
  began := Nat.le_succ_of_le displaced.began
  next := (Nat.add_right_comm ..).trans displaced.next
  next' := (Nat.add_right_comm ..).trans displaced.next'
  bare := displaced.bare.change _ _
  bare' := displaced.bare'.change _ _
  overrides := displaced.overrides
  fields := displaced.fields.mono fun _ made => made.imp_right Nat.lt_succ_of_lt
  inputFields := displaced.inputFields.mono fun _ made => made.imp_right Nat.lt_succ_of_lt

/-- The fields of an object are given. -/
theorem insertFields (displaced : Displaced numbers ids others total room registry registry')
    {serial : Nat} (made : registry.pool.Made serial) (fields : List Field) :
    Displaced numbers ids others total room
      { registry with
        pool := { registry.pool with fields := registry.pool.fields.insert serial fields } }
      { registry' with
        pool := { registry'.pool with
          fields :=
            registry'.pool.fields.insert (numbers serial) (renumber numbers fields) } } where
  began := displaced.began
  next := displaced.next
  next' := displaced.next'
  bare := displaced.bare.change _ _
  bare' := displaced.bare'.change _ _
  overrides := displaced.overrides
  fields := displaced.fields.insert made fields
  inputFields := displaced.inputFields

/-- The fields of an input object are given. -/
theorem insertInputFields (displaced : Displaced numbers ids others total room registry registry')
    {serial : Nat} (made : registry.pool.Made serial) (fields : List InputField) :
    Displaced numbers ids others total room
      { registry with
        pool := { registry.pool with
          inputFields := registry.pool.inputFields.insert serial fields } }
      { registry' with
        pool := { registry'.pool with
          inputFields :=
            registry'.pool.inputFields.insert (numbers serial) (renumber numbers fields) } } where
  began := displaced.began
  next := displaced.next
  next' := displaced.next'
  bare := displaced.bare.change _ _
  bare' := displaced.bare'.change _ _
  overrides := displaced.overrides
  fields := displaced.fields
  inputFields := displaced.inputFields.insert made fields

/-- An override is filed. -/
theorem insertOverride (displaced : Displaced numbers ids others total room registry registry')
    {id : TypeId} (own : ids id) (mapping : Override) :
    Displaced numbers ids others total room
      { registry with overrides := registry.overrides.insert id mapping }
      { registry' with overrides := registry'.overrides.insert id (renumber numbers mapping) } where
  began := displaced.began
  next := displaced.next
  next' := displaced.next'
  bare := displaced.bare.change _ _
  bare' := displaced.bare'.change _ _
  overrides := displaced.overrides.insert own mapping
  fields := displaced.fields
  inputFields := displaced.inputFields

/-- **Two plugins meet.** The first one registered in `registry`, the second one in `others`, and
they registered one after the other, in either order. -/
theorem meet {ids' : TypeId → Prop} {cost cost' : Nat} {others' : Registry}
    (first : Displaced (swapBlocks TypePool.initial.next cost cost') ids others
      cost 0 registry others')
    (second : Displaced (swapBlocks TypePool.initial.next cost' cost) ids' registry
      cost' 0 others registry')
    (apart : ∀ id, ids id → ¬ids' id) :
    registry'.Corresponds (swapBlocks TypePool.initial.next cost cost') others' := by
  have next := first.next
  have next' := first.next'
  have others_next := second.next
  have registry_next := second.next'
  have apartMade (serial : Nat) (made : registry.pool.Made serial) :
      ¬others.pool.Made (swapBlocks TypePool.initial.next cost cost' serial) := by
    rintro ⟨-, below⟩
    obtain ⟨inside, rfl⟩ := Nat.exists_eq_add_of_le made.1
    have within := made.2
    rw [swapBlocks_first _ _ _ (by omega)] at below
    omega
  rw [← swapBlocks_symm] at second
  have pools : registry'.pool.Corresponds (swapBlocks TypePool.initial.next cost cost')
      others'.pool :=
    ⟨by omega, fun serial free => swapBlocks_ahead _ _ _ (by omega),
      first.fields.meet second.fields apartMade,
      first.inputFields.meet second.inputFields apartMade⟩
  refine ⟨pools, first.overrides.meet second.overrides apart, ?_, ?_, ?_, ?_⟩
  · rw [first.bare'.types, second.bare'.types]
    exact SortedMap.corresponds_empty
  · rw [first.bare'.codecs, second.bare'.codecs]
    exact SortedMap.corresponds_empty
  · rw [first.bare'.rangeShapes, second.bare'.rangeShapes]
    exact SortedMap.corresponds_empty
  · rw [first.bare'.sets, second.bare'.sets]
    exact SortedMap.corresponds_empty

end Displaced

/-! ### Steps that register -/

/-- Displaced registries, in workspaces in which nothing else was done. -/
structure Workspace.Displaced (numbers : Equiv.Perm Nat) (ids : TypeId → Prop) (others : Registry)
    (total room : Nat) (workspace workspace' : Workspace) : Prop where
  registry : CatalogSchema.Displaced numbers ids others total room workspace.registry
    workspace'.registry
  fresh : workspace = { Workspace.initial with registry := workspace.registry }
  fresh' : workspace' = { Workspace.initial with registry := workspace'.registry }

/-- The numbers that a loop hands out, given those that it hands out for each item. -/
def loopCost {γ : Type} (cost : γ → Nat) : List γ → Nat
  | [] => 0
  | item :: items => cost item + loopCost cost items

/-- A step hands out `cost` numbers and maps certain ids only, alike in displaced registries. -/
def Adds {α : Type} [Numbered α] (numbers : Equiv.Perm Nat) (ids : TypeId → Prop)
    (others : Registry) (total cost : Nat) (step step' : Build α) : Prop :=
  ∀ room, InStep (Workspace.Displaced numbers ids others total (room + cost))
    (fun value value' => value' = renumber numbers value)
    (Workspace.Displaced numbers ids others total room) step step'

theorem adds_ofResolve {α : Type} [Numbered α] {cost : Nat} {step step' : Resolve α}
    (run : ∀ room, InStep (Displaced numbers ids others total (room + cost))
      (fun value value' => value' = renumber numbers value)
      (Displaced numbers ids others total room) step step') :
    Adds numbers ids others total cost (Build.ofResolve step) (Build.ofResolve step') := fun room =>
  Build.inStep_ofResolve (run room) (·.registry) fun start left =>
    ⟨left, by rw [start.fresh], by rw [start.fresh']⟩

namespace Adds

variable {α β γ : Type} [Numbered α] [Numbered β]

protected theorem pure (value : α) :
    Adds numbers ids others total 0 (pure value) (pure (renumber numbers value)) :=
  fun _ => InStep.pure rfl

protected theorem bind {cost later : Nat} {step step' : Build α} {next next' : α → Build β}
    (first : Adds numbers ids others total cost step step')
    (then_ : ∀ value,
      Adds numbers ids others total later (next value) (next' (renumber numbers value))) :
    Adds numbers ids others total (cost + later) (step >>= next) (step' >>= next') := by
  intro room
  -- The first step leaves room for what the next one hands out.
  have early := first (room + later)
  rw [Nat.add_assoc, Nat.add_comm later cost] at early
  exact InStep.bind early fun {value _} renumbered => renumbered ▸ then_ value room

/-- The numbers may be counted in another way. -/
theorem counted {cost cost' : Nat} {step step' : Build α}
    (adds : Adds numbers ids others total cost step step') (equal : cost = cost') :
    Adds numbers ids others total cost' step step' := equal ▸ adds

/-- A loop over items without serial numbers. -/
protected theorem forM {cost : γ → Nat} {each : γ → Build Unit} (items : List γ)
    (step : ∀ item ∈ items, Adds numbers ids others total (cost item) (each item) (each item)) :
    Adds numbers ids others total (loopCost cost items) (items.forM each) (items.forM each) := by
  induction items with
  | nil => exact .pure ()
  | cons item items ih =>
    exact (step item List.mem_cons_self).bind fun _ =>
      ih fun other listed => step other (.tail _ listed)

end Adds

variable (shifts : Shifts setting numbers ids others total)

include shifts

/-- A type that is made of its number. -/
theorem adds_make {type type' : Nat → SchemaType}
    (numbered : ∀ serial, type' (numbers serial) = renumber numbers (type serial)) :
    Adds numbers ids others total 1 (Build.make (·.make type)) (Build.make (·.make type')) := by
  refine adds_ofResolve fun room => (InStep.modifyGet fun displaced => ⟨?_, displaced.skip⟩)
  exact (congrArg type' (displaced.numbers_next shifts).symm).trans (numbered _)

/-- A non-null type over a nullable one. -/
theorem adds_nonNull {inner : SchemaType} (nullable : inner.Nullable) :
    Adds numbers ids others total 1 (Build.make (·.nonNull inner))
      (Build.make (·.nonNull (renumber numbers inner))) := by
  have wrapped :
      Adds numbers ids others total 1 (Build.make (·.make fun serial => .nonNull serial inner))
      (Build.make (·.make fun serial => .nonNull serial (renumber numbers inner))) :=
    adds_make shifts fun _ => rfl
  cases inner with
  | nonNull serial inner => exact absurd rfl (nullable serial inner)
  | _ => exact wrapped

theorem adds_share (codec : Codec) :
    Adds numbers ids others total 1 (Build.ofResolve (Resolve.share codec))
      (Build.ofResolve (Resolve.share codec)) := by
  refine adds_ofResolve fun room => (InStep.modifyGet fun displaced => ⟨?_, displaced.skip⟩)
  exact congrArg (SharedCodec.mk · codec) (displaced.numbers_next shifts).symm

theorem adds_object (name : String) (description : Option String) (fields : List Field) :
    Adds numbers ids others total 1 (Build.make (·.object name description fields))
      (Build.make (·.object name description (renumber numbers fields))) := by
  refine adds_ofResolve fun room => (InStep.modifyGet fun {registry registry'} displaced => ?_)
  have next := displaced.numbers_next shifts
  have inserted := displaced.skip.insertFields ⟨displaced.began, Nat.lt_succ_self _⟩ fields
  rw [next] at inserted
  exact ⟨congrArg (SchemaType.object · name description) next.symm, inserted⟩

theorem adds_inputObject (name : String) (description : Option String) (fields : List InputField) :
    Adds numbers ids others total 1 (Build.make (·.inputObject name description fields))
      (Build.make (·.inputObject name description (renumber numbers fields))) := by
  refine adds_ofResolve fun room => (InStep.modifyGet fun {registry registry'} displaced => ?_)
  have next := displaced.numbers_next shifts
  have inserted := displaced.skip.insertInputFields ⟨displaced.began, Nat.lt_succ_self _⟩ fields
  rw [next] at inserted
  exact ⟨congrArg (SchemaType.inputObject · name description) next.symm, inserted⟩

/-- **An override is filed or refused alike**: the other plugin has none for the id. -/
theorem adds_registerOverride {id : TypeId} (own : ids id) (mapping : Override)
    (rule : ConflictRule) :
    Adds numbers ids others total 0
      (Build.ofResolve (Resolve.registerOverride setting id mapping rule))
      (Build.ofResolve (Resolve.registerOverride setting id (renumber numbers mapping) rule)) := by
  refine adds_ofResolve fun room => ?_
  unfold Resolve.registerOverride
  refine InStep.bind .get fun {registry registry'} displaced => ?_
  have known : registry'.overrides.contains id = registry.overrides.contains id := by
    have found : registry'.overrides.find? id = _ := displaced.overrides.found id
    have free : others.overrides.find? (Equiv.refl TypeId id) = none := shifts.free id own
    unfold SortedMap.contains
    rw [found, free, Option.or_none]
    cases registry.overrides.find? id <;> rfl
  have unresolved : registry.types.contains id = false := by rw [displaced.bare.types]; rfl
  have unresolved' : registry'.types.contains id = false := by rw [displaced.bare'.types]; rfl
  rw [unresolved, unresolved', known]
  split
  · exact .throw _
  · split
    · cases rule with
      | fail => exact .throw _
      | yield => exact .pure rfl
    · exact InStep.bind (.set (displaced.insertOverride own mapping)) fun _ => .pure rfl

end Registering

/-! ### Well-known types -/

namespace StandardTypes

instance : Numbered Member where
  renumber numbers member := { member with type := renumber numbers member.type }
  renumber_refl member := by simp
  renumber_symm numbers member := by simp

/-- The ids of the well-known types that are mapped. -/
def mappedIds (setting : Setting) : List TypeId :=
  (convertedGroups setting.scalars ++ plainGroups setting.scalars ++
    [documentGroup setting.scalars setting.config.structuredJson]).flatMap (fun group =>
      group.ids.map (·.1)) ++
      [Builtin.intervalId, Builtin.pointId]

section

variable {numbers : Equiv.Perm Nat} {ids : TypeId → Prop} {others : Registry} {total : Nat}
  {setting : Setting} (shifts : Shifts setting numbers ids others total)

include shifts

theorem adds_makeShape (name : String) (description inputDescription : Option String)
    (members : List Member) :
    Adds numbers ids others total 2 (makeShape name description inputDescription members)
      (makeShape name description inputDescription (renumber numbers members)) := by
  have fields : (renumber numbers members).map Member.toField =
      renumber numbers (members.map Member.toField) := by
    rw [renumber_list, renumber_list, List.map_map, List.map_map]
    rfl
  have inputFields : (renumber numbers members).map Member.toInputField =
      renumber numbers (members.map Member.toInputField) := by
    rw [renumber_list, renumber_list, List.map_map, List.map_map]
    rfl
  unfold makeShape
  rw [fields, inputFields]
  refine .counted ?_ (rfl : 1 + (1 + 0) = 2)
  refine .bind (adds_object shifts name description _) fun output => ?_
  exact .bind (adds_inputObject shifts _ inputDescription _) fun input =>
    .pure (TypeEntry.mk output (some input))

/-- Members of scalar types have no numbers that change. -/
theorem adds_makeShape_of_scalars {name : String} {description inputDescription : Option String}
    {members : List Member} (scalars : ∀ member ∈ members, member.type ∈ setting.scalars.toList) :
    Adds numbers ids others total 2 (makeShape name description inputDescription members)
      (makeShape name description inputDescription members) := by
  have kept : renumber numbers members = members := by
    refine (List.map_congr_left fun member listed => ?_).trans (List.map_id members)
    show Member.mk member.name (renumber numbers member.type) member.description = member
    rw [shifts.scalars _ (scalars member listed)]
  have shaped := adds_makeShape shifts name description inputDescription members
  rwa [kept] at shaped

theorem adds_makeInterval : Adds numbers ids others total 2 (makeInterval setting.scalars)
    (makeInterval setting.scalars) :=
  adds_makeShape_of_scalars shifts (by simp [StandardScalars.toList])

theorem adds_makePoint : Adds numbers ids others total 3 (makePoint setting.scalars)
    (makePoint setting.scalars) := by
  have listed : setting.scalars.float ∈ setting.scalars.toList := by simp [StandardScalars.toList]
  have coordinate := adds_nonNull shifts (shifts.nullable _ listed)
  rw [shifts.scalars _ listed] at coordinate
  unfold makePoint
  exact .counted (coordinate.bind fun coordinate =>
    adds_makeShape shifts "Point" none none [⟨"x", coordinate, none⟩, ⟨"y", coordinate, none⟩]) rfl

/-- **A mapping is registered alike.** -/
theorem adds_registerMapping {id : TypeId} (own : ids id) (entry : TypeEntry)
    (codec : Option Codec) :
    Adds numbers ids others total codec.toList.length (registerMapping setting id entry codec)
      (registerMapping setting id (renumber numbers entry) codec) := by
  have shares : Adds numbers ids others total codec.toList.length
      (codec.mapM fun codec => Build.ofResolve (Resolve.share codec))
      (codec.mapM fun codec => Build.ofResolve (Resolve.share codec)) := by
    cases codec with
    | none => exact .pure none
    | some codec =>
      rw [Option.mapM_some, map_eq_pure_bind]
      exact .counted (.bind (adds_share shifts codec) fun shared => .pure (some shared)) rfl
  unfold registerMapping
  refine .counted ?_ (rfl : codec.toList.length + (0 + 0) = codec.toList.length)
  refine shares.bind fun shared => ?_
  exact .bind (adds_registerOverride shifts own ⟨entry.output, entry.input, shared⟩ .yield) fun _ =>
    .pure ()

/-- The numbers that a group takes. -/
def groupCost (group : ScalarGroup) : Nat :=
  loopCost (fun mapped => (group.codec (.inCatalog mapped.2)).toList.length) group.ids

theorem adds_registerGroup {group : ScalarGroup} (scalar : group.scalar ∈ setting.scalars.toList)
    (own : ∀ mapped ∈ group.ids, ids mapped.1) :
    Adds numbers ids others total (groupCost group) (registerGroup setting group)
      (registerGroup setting group) := by
  refine Adds.forM group.ids fun (id, name) listed => ?_
  have registered :=
    adds_registerMapping shifts (own _ listed) (.both group.scalar) (group.codec (.inCatalog name))
  rwa [TypeEntry.renumber_both, shifts.scalars _ scalar] at registered

/-- The numbers that the well-known types take. -/
def cost (setting : Setting) : Nat :=
  2 + (3 + (loopCost groupCost (convertedGroups setting.scalars) +
    (loopCost groupCost (plainGroups setting.scalars) +
      (groupCost (documentGroup setting.scalars setting.config.structuredJson) + (1 + 1)))))

/-- **The well-known types are registered alike.** -/
theorem adds_register (own : ∀ id ∈ mappedIds setting, ids id) :
    Adds numbers ids others total (cost setting) (register setting) (register setting) := by
  have group {group : ScalarGroup} (listed : group ∈ convertedGroups setting.scalars ++
      plainGroups setting.scalars ++
        [documentGroup setting.scalars setting.config.structuredJson]) :
      Adds numbers ids others total (groupCost group) (registerGroup setting group)
        (registerGroup setting group) :=
    adds_registerGroup shifts (scalar_mem_of_group _ _ group listed) fun mapped found =>
      own _ (List.mem_append_left _ (List.mem_flatMap.2 ⟨group, listed, List.mem_map_of_mem found⟩))
  unfold register cost
  refine .bind (adds_makeInterval shifts) fun interval =>
    .bind (adds_makePoint shifts) fun point => ?_
  refine .bind (.forM _ fun _ listed => group (by simp [listed])) fun _ => ?_
  refine .bind (.forM _ fun _ listed => group (by simp [listed])) fun _ =>
    .bind (group (by simp)) fun _ => ?_
  have intervals :=
    adds_registerMapping shifts (own Builtin.intervalId (by simp [mappedIds])) interval
    (some (.interval (.inCatalog "interval")))
  have points := adds_registerMapping shifts (own Builtin.pointId (by simp [mappedIds])) point
    (some (.point (.inCatalog "point")))
  exact .bind intervals fun _ => points

end

end StandardTypes

/-! ### Row types -/

namespace Tables

/-- A row type has an id. -/
def Declares (setting : Setting) (id : TypeId) : Prop :=
  ∃ table ∈ setting.catalog.composites, table.id = id

section

variable {numbers : Equiv.Perm Nat} {ids : TypeId → Prop} {others : Registry} {total : Nat}
  {setting : Setting} (shifts : Shifts setting numbers ids others total)

include shifts

/-- **A row type is declared alike.** -/
theorem adds_declare {table : Descriptor} (own : ids table.id) :
    Adds numbers ids others total 2 (declare setting table) (declare setting table) := by
  unfold declare
  refine .counted ?_ (rfl : 1 + (1 + (0 + 0)) = 2)
  refine .bind (adds_make shifts fun _ => rfl) fun output => ?_
  refine .bind (adds_make shifts fun _ => rfl) fun input => ?_
  exact .bind (adds_registerOverride shifts own ⟨output, some input, none⟩ .fail) fun _ => .pure ()

end

end Tables

/-! ### Two plugins in a row -/

/-- A step makes a number of types and maps certain ids only. -/
def Build.Maps (setting : Setting) (ids : TypeId → Prop) (cost : Nat) (step : Build Unit) : Prop :=
  ∀ ⦃numbers others⦄, Shifts setting numbers ids others cost →
    Adds numbers ids others cost cost step step

theorem StandardTypes.maps_register (setting : Setting) :
    Build.Maps setting (· ∈ mappedIds setting) (cost setting) (register setting) :=
  fun _ _ shifts => adds_register shifts fun _ listed => listed

theorem Tables.maps_declare (setting : Setting) :
    Build.Maps setting (Declares setting) (loopCost (fun _ => 2) setting.catalog.composites)
      (setting.catalog.composites.forM (declare setting)) :=
  fun _ _ shifts => .forM _ fun table listed => adds_declare shifts ⟨table, listed, rfl⟩

namespace Build

/-- The standard scalars are those of a bridge: they may be null, and have the first numbers. -/
structure ScalarsStandard (setting : Setting) : Prop where
  nullable : setting.scalars.Nullable
  fixed : ∀ ⦃numbers : Equiv.Perm Nat⦄,
    (∀ serial < TypePool.initial.next, numbers serial = serial) →
    setting.scalars.Fixed numbers

theorem scalarsStandard_of (catalog : Catalog) (naming : Naming) (config : Config) :
    ScalarsStandard (.of catalog naming config) :=
  ⟨StandardScalars.nullable_make _, fun _ => StandardScalars.fixed_make _⟩

/-- Two steps fail, or leave workspaces that differ in the serial numbers only. -/
def EndRenumbered (setting : Setting) (step step' : Build Unit) : Prop :=
  Fails step .initial ∧ Fails step' .initial ∨
    ∃ numbers after after', setting.scalars.Fixed numbers ∧ Yields step .initial () after ∧
      Yields step' .initial () after' ∧ after.Corresponds numbers after'

variable {setting : Setting} {ids ids' : TypeId → Prop} {cost cost' : Nat}
  {first second : Build Unit} (standard : ScalarsStandard setting)
  (maps : Maps setting ids cost first)

/-- What a step does alone, it does after another one. -/
theorem Maps.together (maps : Maps setting ids cost first) {numbers : Equiv.Perm Nat}
    (others : Workspace) (shifts : Shifts setting numbers ids others.registry cost)
    (bare : others.registry.Bare)
    (fresh : others = { Workspace.initial with registry := others.registry }) :
    EndTogether (fun value value' => value' = renumber numbers value)
      (Workspace.Displaced numbers ids others.registry cost 0) (runIn first .initial)
      (runIn first others) := by
  have run := maps shifts 0
  rw [Nat.zero_add] at run
  exact run ⟨.start bare, rfl, fresh⟩

include standard

theorem EndRenumbered.refl (step : Build Unit) : EndRenumbered setting step step := by
  rcases fails_or_yields step .initial with fails | ⟨⟨⟩, after, ran⟩
  · exact .inl ⟨fails, fails⟩
  · exact .inr ⟨.refl Nat, after, after, standard.fixed fun _ _ => rfl, ran, ran, .refl after⟩

include maps

/-- What a step leaves that runs alone. -/
theorem Maps.alone {after : Workspace} (ran : Yields first .initial () after) :
    Workspace.Displaced (.refl Nat) ids .initial cost 0 after after := by
  have shifts : Shifts setting (.refl Nat) ids .initial cost :=
    ⟨standard.fixed fun _ _ => rfl, standard.nullable, fun _ _ => rfl, fun _ _ => rfl⟩
  have ended := maps.together .initial shifts ⟨rfl, rfl, rfl, rfl⟩ rfl
  obtain ⟨_, after', again, -, displaced⟩ := ran.together ended
  cases ran.symm.trans again
  exact displaced

/-- **After a step that maps other ids**, a step does what it does alone. -/
theorem Maps.after (maps' : Maps setting ids' cost' second) (apart : ∀ id, ids id → ¬ids' id)
    {between : Workspace} (ran : Yields second .initial () between) :
    EndTogether
      (fun value value' => value' = renumber (swapBlocks TypePool.initial.next cost cost') value)
      (Workspace.Displaced (swapBlocks TypePool.initial.next cost cost') ids between.registry
        cost 0)
      (runIn first .initial) (runIn first between) := by
  have alone := maps'.alone standard ran
  have next : between.registry.pool.next = TypePool.initial.next + cost' := alone.registry.next
  refine maps.together between ⟨standard.fixed ?_, standard.nullable, ?_, ?_⟩ alone.registry.bare
    alone.fresh
  · exact fun _ below => swapBlocks_below _ _ _ below
  · intro i inside
    rw [swapBlocks_first _ _ _ inside, next]
  · intro id own
    by_contra found
    exact apart id own (alone.registry.overrides.held id found)

/-- A step that fails alone fails after a step that maps other ids. -/
theorem Maps.fails_later (maps' : Maps setting ids' cost' second) (apart : ∀ id, ids id → ¬ids' id)
    (fails : Fails first .initial) : Fails (second >>= fun _ => first) .initial := by
  rcases fails_or_yields second .initial with fails' | ⟨⟨⟩, between, ran⟩
  · exact fails'.bind _
  · have later := fails.together (maps.after standard maps' apart ran)
    unfold Fails
    rwa [ran.runIn_bind]

/-- **Two steps that map different ids commute.** -/
theorem Maps.commute (maps' : Maps setting ids' cost' second) (apart : ∀ id, ids id → ¬ids' id) :
    EndRenumbered setting (first >>= fun _ => second) (second >>= fun _ => first) := by
  -- Each step alone, then each after the other: what it did alone says what it does there.
  have apart' (id : TypeId) (own : ids' id) : ¬ids id := fun other => apart id other own
  rcases fails_or_yields first .initial with fails | ⟨⟨⟩, between, ran⟩
  · exact .inl ⟨fails.bind _, maps.fails_later standard maps' apart fails⟩
  rcases fails_or_yields second .initial with fails | ⟨⟨⟩, between', ran'⟩
  · exact .inl ⟨maps'.fails_later standard maps apart' fails, fails.bind _⟩
  obtain ⟨⟨⟩, after, later, -, displaced⟩ := ran'.together (maps'.after standard maps apart' ran)
  obtain ⟨⟨⟩, after', later', -, displaced'⟩ := ran.together (maps.after standard maps' apart ran')
  refine .inr ⟨_, after, after', standard.fixed fun _ below => swapBlocks_below _ _ _ below,
    yields_bind_iff.2 ⟨(), between, ran, later⟩, yields_bind_iff.2 ⟨(), between', ran', later'⟩,
    displaced'.registry.meet displaced.registry apart, ?_, ?_⟩
  · rw [displaced.fresh', displaced'.fresh']
  · rw [displaced.fresh', displaced'.fresh']

end Build

end CatalogSchema
