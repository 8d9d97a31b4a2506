/-
**Serial numbers only tell types apart.**

Under other serial numbers a pool has the same types. What is gathered from it and what is printed
does not depend on the numbers.

* `Numbered`: values in which serial numbers occur, and the same values under other numbers.
* `SortedMap.Corresponds`, `SortedMap.Moved`, `TypePool.Corresponds`: maps and pools that differ in
  the numbers only.
* `collectNamed_corresponds`: the named types behind corresponding roots correspond.
* `printTypes_corresponds`: corresponding types are printed alike.
* `Tracks`: two steps that run side by side, their results and states alike but for the numbers.
-/

import CatalogSchema.Proofs.Lockstep
import CatalogSchema.Proofs.Schema.Collection
import Mathlib.Data.List.Basic
import Mathlib.Logic.Equiv.Defs

namespace CatalogSchema

/-! ### Values under other numbers -/

/-- Values in which serial numbers occur. -/
class Numbered (α : Type) where
  /-- The value with every serial number replaced. -/
  renumber : Equiv.Perm Nat → α → α
  renumber_refl : ∀ value, renumber (.refl Nat) value = value
  renumber_symm : ∀ numbers value, renumber numbers.symm (renumber numbers value) = value

export Numbered (renumber renumber_refl renumber_symm)

attribute [simp] renumber_refl renumber_symm

section Values

variable {α β : Type} [Numbered α] [Numbered β] (numbers : Equiv.Perm Nat)

theorem renumber_injective : Function.Injective (renumber numbers : α → α) :=
  Function.LeftInverse.injective (renumber_symm numbers)

/-- Renumbering is undone from either side. -/
theorem renumber_renumber_symm (value : α) :
    renumber numbers (renumber numbers.symm value) = value :=
  renumber_symm numbers.symm value

/-- Values without serial numbers. -/
@[reducible] def Numbered.none (α : Type) : Numbered α :=
  ⟨fun _ value => value, fun _ => rfl, fun _ _ => rfl⟩

instance : Numbered Unit := .none Unit

instance : Numbered Bool := .none Bool

instance : Numbered Codec := .none Codec

instance : Numbered (Option α) where
  renumber numbers := Option.map (renumber numbers)
  renumber_refl value := by cases value <;> simp
  renumber_symm numbers value := by cases value <;> simp

@[simp] theorem renumber_none : renumber numbers (none : Option α) = none := rfl

@[simp] theorem renumber_some (value : α) :
    renumber numbers (some value) = some (renumber numbers value) := rfl

instance : Numbered (List α) where
  renumber numbers := List.map (renumber numbers)
  renumber_refl values := by induction values <;> simp_all
  renumber_symm numbers values := by induction values <;> simp_all

@[simp] theorem renumber_nil : renumber numbers ([] : List α) = [] := rfl

@[simp] theorem renumber_cons (value : α) (values : List α) :
    renumber numbers (value :: values) = renumber numbers value :: renumber numbers values := rfl

theorem renumber_list (values : List α) :
    renumber numbers values = values.map (renumber numbers) := rfl

/-- What is read of each value alike is read of all of them alike. -/
theorem map_renumber (read : α → β)
    (alike : ∀ value, read (renumber numbers value) = renumber numbers (read value))
    (values : List α) :
    (renumber numbers values).map read = renumber numbers (values.map read) := by
  rw [renumber_list, renumber_list, List.map_map, List.map_map]
  exact List.map_congr_left fun value _ => alike value

@[simp] theorem renumber_append (first second : List α) :
    renumber numbers (first ++ second) = renumber numbers first ++ renumber numbers second :=
  List.map_append

instance : Numbered (α × β) where
  renumber numbers value := (renumber numbers value.1, renumber numbers value.2)
  renumber_refl value := by simp
  renumber_symm numbers value := by simp

@[simp] theorem renumber_pair (first : α) (second : β) :
    renumber numbers (first, second) = (renumber numbers first, renumber numbers second) := rfl

theorem renumber_getD (value : Option α) (default : α) :
    (renumber numbers value).getD (renumber numbers default) =
      renumber numbers (value.getD default) := by
  cases value <;> rfl

end Values

/-! ### Types and fields -/

namespace SchemaType

/-- A type, and the types it wraps, under other serial numbers. -/
def renumbered (numbers : Equiv.Perm Nat) : SchemaType → SchemaType
  | .scalar serial name description kind => .scalar (numbers serial) name description kind
  | .enumeration serial name description members =>
    .enumeration (numbers serial) name description members
  | .object serial name description => .object (numbers serial) name description
  | .inputObject serial name description => .inputObject (numbers serial) name description
  | .«alias» serial name description delegate =>
    .«alias» (numbers serial) name description (delegate.renumbered numbers)
  | .list serial inner => .list (numbers serial) (inner.renumbered numbers)
  | .nonNull serial inner => .nonNull (numbers serial) (inner.renumbered numbers)

instance : Numbered SchemaType where
  renumber := renumbered
  renumber_refl type := by induction type <;> simp_all [renumbered]
  renumber_symm numbers type := by induction type <;> simp_all [renumbered]

variable (numbers : Equiv.Perm Nat) (type : SchemaType)

@[simp] theorem name?_renumber : (renumber numbers type).name? = type.name? := by
  cases type <;> rfl

@[simp] theorem description?_renumber :
    (renumber numbers type).description? = type.description? := by
  cases type <;> rfl

@[simp] theorem text_renumber : (renumber numbers type).text = type.text := by
  induction type with
  | list serial inner ih => exact congrArg (fun text => "[" ++ text ++ "]") ih
  | nonNull serial inner ih => exact congrArg (· ++ "!") ih
  | _ => rfl

theorem unwrapAlias_renumber :
    (renumber numbers type).unwrapAlias = renumber numbers type.unwrapAlias := by
  induction type with
  | «alias» serial name description delegate ih => exact ih
  | _ => rfl

theorem inside_renumber : (renumber numbers type).inside = renumber numbers type.inside := by
  cases type <;> rfl

end SchemaType

instance : Numbered Field where
  renumber numbers field := { field with type := renumber numbers field.type }
  renumber_refl field := by simp
  renumber_symm numbers field := by simp

instance : Numbered InputField where
  renumber numbers field := { field with type := renumber numbers field.type }
  renumber_refl field := by simp
  renumber_symm numbers field := by simp

/-! ### Maps -/

namespace SortedMap

variable {κ α : Type} [LT κ] [DecidableEq κ] [Numbered α] {numbers : Equiv.Perm Nat}
  {map map' : SortedMap κ α}

/-- Two maps hold the same under each key, but for the serial numbers. -/
def Corresponds (numbers : Equiv.Perm Nat) (map map' : SortedMap κ α) : Prop :=
  ∀ key, map'.find? key = renumber numbers (map.find? key)

theorem Corresponds.contains (same : map.Corresponds numbers map') (key : κ) :
    map'.contains key = map.contains key := by
  unfold SortedMap.contains
  rw [same key]
  cases map.find? key <;> rfl

theorem Corresponds.refl (map : SortedMap κ α) : map.Corresponds (.refl Nat) map := fun _ =>
  (renumber_refl _).symm

theorem corresponds_empty : Corresponds numbers (empty : SortedMap κ α) empty := fun _ => rfl

variable [LE κ] [DecidableLT κ] [Std.LawfulOrderLT κ] [Std.IsLinearOrder κ]

theorem Corresponds.insert (same : map.Corresponds numbers map') (key : κ) (value : α) :
    (map.insert key value).Corresponds numbers (map'.insert key (renumber numbers value)) := by
  intro wanted
  by_cases here : wanted = key
  · subst here
    rw [find?_insert_self, find?_insert_self, renumber_some]
  · rw [find?_insert_of_ne _ here, find?_insert_of_ne _ here, same wanted]

theorem Corresponds.insertIfNew (same : map.Corresponds numbers map') (key : κ) (value : α) :
    (map.insertIfNew key value).Corresponds numbers
      (map'.insertIfNew key (renumber numbers value)) := by
  unfold SortedMap.insertIfNew
  rw [same.contains]
  split
  · exact same
  · exact same.insert key value

/-- The values come in the same order. -/
theorem Corresponds.values (same : map.Corresponds numbers map') :
    map'.values = renumber numbers map.values := by
  let image : SortedMap κ α :=
    ⟨map.entries.map fun entry => (entry.1, renumber numbers entry.2),
      List.pairwise_map.2 map.sorted⟩
  have find?_image (key : κ) : image.find? key = renumber numbers (map.find? key) :=
    lookup_map_of_injective Function.injective_id (renumber numbers) key map.entries
  have equal : map' = image := eq_of_find? fun key => (same key).trans (find?_image key).symm
  rw [equal]
  unfold SortedMap.values
  rw [List.map_map, renumber_list, List.map_map]
  rfl

section Moved

variable {map map' : SortedMap Nat α}

/-- Two maps by serial number hold the same, each value under its other number. -/
def Moved (numbers : Equiv.Perm Nat) (map map' : SortedMap Nat α) : Prop :=
  ∀ serial, map'.find? (numbers serial) = renumber numbers (map.find? serial)

theorem Moved.refl (map : SortedMap Nat α) : map.Moved (.refl Nat) map :=
  fun _ => (renumber_refl _).symm

theorem Moved.contains (moved : map.Moved numbers map') (serial : Nat) :
    map'.contains (numbers serial) = map.contains serial := by
  unfold SortedMap.contains
  rw [moved serial]
  cases map.find? serial <;> rfl

theorem Moved.insert (moved : map.Moved numbers map') (serial : Nat) (value : α) :
    (map.insert serial value).Moved numbers
      (map'.insert (numbers serial) (renumber numbers value)) := by
  intro wanted
  by_cases here : wanted = serial
  · subst here
    rw [find?_insert_self, find?_insert_self, renumber_some]
  · rw [find?_insert_of_ne _ here,
      find?_insert_of_ne _ fun equal => here (numbers.injective equal), moved wanted]

end Moved

end SortedMap

/-! ### Pools -/

namespace TypePool

/-- Two pools hold the same fields, but for the serial numbers; numbers not handed out yet stay what
they are. -/
structure Corresponds (numbers : Equiv.Perm Nat) (pool pool' : TypePool) : Prop where
  next : pool'.next = pool.next
  ahead : ∀ serial, pool.next ≤ serial → numbers serial = serial
  fields : pool.fields.Moved numbers pool'.fields
  inputFields : pool.inputFields.Moved numbers pool'.inputFields

variable {numbers : Equiv.Perm Nat} {pool pool' : TypePool}

namespace Corresponds

theorem refl (pool : TypePool) : pool.Corresponds (.refl Nat) pool :=
  ⟨rfl, fun _ _ => rfl, .refl _, .refl _⟩

/-- The number that is handed out next. -/
theorem numbers_next (same : pool.Corresponds numbers pool') : numbers pool.next = pool'.next :=
  (same.ahead pool.next (Nat.le_refl _)).trans same.next.symm

theorem fieldsOf (same : pool.Corresponds numbers pool') (type : SchemaType) :
    pool'.fieldsOf (renumber numbers type) = renumber numbers (pool.fieldsOf type) := by
  unfold TypePool.fieldsOf
  rw [SchemaType.unwrapAlias_renumber]
  cases type.unwrapAlias with
  | object serial name description =>
    show (pool'.fields.find? (numbers serial)).getD [] = _
    rw [same.fields serial]
    exact renumber_getD numbers _ []
  | _ => rfl

theorem inputFieldsOf (same : pool.Corresponds numbers pool') (type : SchemaType) :
    pool'.inputFieldsOf (renumber numbers type) = renumber numbers (pool.inputFieldsOf type) := by
  unfold TypePool.inputFieldsOf
  rw [SchemaType.unwrapAlias_renumber]
  cases type.unwrapAlias with
  | inputObject serial name description =>
    show (pool'.inputFields.find? (numbers serial)).getD [] = _
    rw [same.inputFields serial]
    exact renumber_getD numbers _ []
  | _ => rfl

/-! #### Making types -/

/-- The numbers that are ahead after one more was handed out. -/
theorem skip (same : pool.Corresponds numbers pool') :
    Corresponds numbers { pool with next := pool.next + 1 }
      { pool' with next := pool'.next + 1 } where
  next := congrArg (· + 1) same.next
  ahead serial free := same.ahead serial (Nat.le_of_succ_le free)
  fields := same.fields
  inputFields := same.inputFields

/-- A type that is made of its number. -/
theorem make (same : pool.Corresponds numbers pool') {type type' : Nat → SchemaType}
    (numbered : ∀ serial, type' (numbers serial) = renumber numbers (type serial)) :
    (pool'.make type').1 = renumber numbers (pool.make type).1 ∧
      (pool.make type).2.Corresponds numbers (pool'.make type').2 := by
  refine ⟨?_, same.skip⟩
  show type' pool'.next = renumber numbers (type pool.next)
  rw [← same.numbers_next, numbered]

theorem list (same : pool.Corresponds numbers pool') (inner : SchemaType) :
    (pool'.list (renumber numbers inner)).1 = renumber numbers (pool.list inner).1 ∧
      (pool.list inner).2.Corresponds numbers (pool'.list (renumber numbers inner)).2 :=
  same.make fun _ => rfl

theorem nonNull (same : pool.Corresponds numbers pool') (inner : SchemaType) :
    (pool'.nonNull (renumber numbers inner)).1 = renumber numbers (pool.nonNull inner).1 ∧
      (pool.nonNull inner).2.Corresponds numbers (pool'.nonNull (renumber numbers inner)).2 := by
  cases inner with
  | nonNull serial inner => exact ⟨rfl, same⟩
  | _ => exact same.make fun _ => rfl

/-- The fields of one more object. -/
theorem insertFields (same : pool.Corresponds numbers pool') (serial : Nat) (fields : List Field) :
    Corresponds numbers { pool with fields := pool.fields.insert serial fields }
      { pool' with fields := pool'.fields.insert (numbers serial) (renumber numbers fields) } where
  next := same.next
  ahead := same.ahead
  fields := same.fields.insert serial fields
  inputFields := same.inputFields

/-- The fields of one more input object. -/
theorem insertInputFields (same : pool.Corresponds numbers pool') (serial : Nat)
    (fields : List InputField) :
    Corresponds numbers { pool with inputFields := pool.inputFields.insert serial fields }
      { pool' with inputFields :=
        pool'.inputFields.insert (numbers serial) (renumber numbers fields) } where
  next := same.next
  ahead := same.ahead
  fields := same.fields
  inputFields := same.inputFields.insert serial fields

theorem object (same : pool.Corresponds numbers pool') (name : String) (description : Option String)
    (fields : List Field) :
    (pool'.object name description (renumber numbers fields)).1 =
        renumber numbers (pool.object name description fields).1 ∧
      (pool.object name description fields).2.Corresponds numbers
        (pool'.object name description (renumber numbers fields)).2 := by
  have inserted := same.skip.insertFields pool.next fields
  rw [same.numbers_next] at inserted
  refine ⟨?_, inserted⟩
  show SchemaType.object pool'.next name description = .object (numbers pool.next) name description
  rw [same.numbers_next]

theorem inputObject (same : pool.Corresponds numbers pool') (name : String)
    (description : Option String) (fields : List InputField) :
    (pool'.inputObject name description (renumber numbers fields)).1 =
        renumber numbers (pool.inputObject name description fields).1 ∧
      (pool.inputObject name description fields).2.Corresponds numbers
        (pool'.inputObject name description (renumber numbers fields)).2 := by
  have inserted := same.skip.insertInputFields pool.next fields
  rw [same.numbers_next] at inserted
  refine ⟨?_, inserted⟩
  show SchemaType.inputObject pool'.next name description =
      .inputObject (numbers pool.next) name description
  rw [same.numbers_next]

/-! #### Giving objects their fields -/

theorem setFields (same : pool.Corresponds numbers pool') (type : SchemaType)
    (fields : List Field) :
    Together (Corresponds numbers) (pool.setFields type fields)
      (pool'.setFields (renumber numbers type) (renumber numbers fields)) := by
  cases type with
  | object serial name description =>
    show Together _ (if _ then _ else _) (if pool'.fields.contains (numbers serial) then _ else _)
    rw [same.fields.contains]
    split
    · exact .error _
    · exact .ok (same.insertFields serial fields)
  | _ => exact .ok same

theorem setInputFields (same : pool.Corresponds numbers pool') (type : SchemaType)
    (fields : List InputField) :
    Together (Corresponds numbers) (pool.setInputFields type fields)
      (pool'.setInputFields (renumber numbers type) (renumber numbers fields)) := by
  cases type with
  | inputObject serial name description =>
    show Together _ (if _ then _ else _)
        (if pool'.inputFields.contains (numbers serial) then _ else _)
    rw [same.inputFields.contains]
    split
    · exact .error _
    · exact .ok (same.insertInputFields serial fields)
  | _ => exact .ok same

end Corresponds

end TypePool

/-! ### Gathering -/

/-- The owner of fields under another number. -/
def FieldOwner.renumbered (numbers : Equiv.Perm Nat) : FieldOwner → FieldOwner
  | .object serial => .object (numbers serial)
  | .inputObject serial => .inputObject (numbers serial)

instance : Numbered FieldOwner where
  renumber := FieldOwner.renumbered
  renumber_refl owner := by cases owner <;> rfl
  renumber_symm numbers owner := by cases owner <;> simp [FieldOwner.renumbered]

theorem SchemaType.fieldOwner?_renumber (numbers : Equiv.Perm Nat) (type : SchemaType) :
    (renumber numbers type).fieldOwner? = renumber numbers type.fieldOwner? := by
  cases type <;> rfl

namespace FieldTypes

/-- Two tables hold the same types of fields, but for the serial numbers. -/
def Corresponds (numbers : Equiv.Perm Nat) (fields fields' : FieldTypes) : Prop :=
  ∀ owner, fields'.lookup (renumber numbers owner) = renumber numbers (fields.lookup owner)

variable {numbers : Equiv.Perm Nat} {fields fields' : FieldTypes}

theorem Corresponds.typesOf (same : Corresponds numbers fields fields') (type : SchemaType) :
    fields'.typesOf (renumber numbers type) = renumber numbers (fields.typesOf type) := by
  unfold FieldTypes.typesOf
  rw [SchemaType.fieldOwner?_renumber]
  cases type.fieldOwner? with
  | none => rfl
  | some owner =>
    rw [renumber_some, Option.bind_some, Option.bind_some, same owner]
    exact renumber_getD numbers _ []

theorem Corresponds.leaving (same : Corresponds numbers fields fields') (type : SchemaType) :
    Corresponds numbers (fields.leaving type) (fields'.leaving (renumber numbers type)) := by
  unfold FieldTypes.leaving
  rw [SchemaType.fieldOwner?_renumber]
  cases type.fieldOwner? with
  | none => exact same
  | some taken =>
    intro owner
    show (fields'.without (renumber numbers taken)).lookup _ =
        renumber numbers ((fields.without taken).lookup _)
    rw [lookup_without, lookup_without]
    by_cases gone : owner = taken
    · rw [if_pos gone, if_pos (congrArg _ gone), renumber_none]
    · rw [if_neg gone, if_neg fun equal => gone (renumber_injective numbers equal), same owner]

end FieldTypes

/-- The types of the fields of an owner in a pool. -/
theorem TypePool.lookup_fieldTypes (pool : TypePool) (owner : FieldOwner) :
    pool.fieldTypes.lookup owner =
      match owner with
      | .object serial => (pool.fields.find? serial).map (List.map Field.type)
      | .inputObject serial => (pool.inputFields.find? serial).map (List.map InputField.type) := by
  have objects : Function.Injective FieldOwner.object := fun _ _ => FieldOwner.object.inj
  have inputs : Function.Injective FieldOwner.inputObject := fun _ _ => FieldOwner.inputObject.inj
  unfold TypePool.fieldTypes
  rw [List.lookup_append]
  cases owner with
  | object serial =>
    rw [lookup_map_of_injective objects, lookup_map_eq_none (by simp), Option.or_none]
    rfl
  | inputObject serial =>
    rw [lookup_map_eq_none (by simp), Option.none_or, lookup_map_of_injective inputs]
    rfl

/-- The types of the fields in corresponding pools. -/
theorem TypePool.Corresponds.fieldTypes {numbers : Equiv.Perm Nat} {pool pool' : TypePool}
    (same : pool.Corresponds numbers pool') :
    FieldTypes.Corresponds numbers pool.fieldTypes pool'.fieldTypes := by
  intro owner
  rw [TypePool.lookup_fieldTypes, TypePool.lookup_fieldTypes]
  cases owner with
  | object serial =>
    show (pool'.fields.find? (numbers serial)).map _ =
        renumber numbers ((pool.fields.find? serial).map _)
    rw [same.fields serial]
    cases pool.fields.find? serial with
    | none => rfl
    | some fields => exact congrArg some (map_renumber numbers Field.type (fun _ => rfl) fields)
  | inputObject serial =>
    show (pool'.inputFields.find? (numbers serial)).map _ =
      renumber numbers ((pool.inputFields.find? serial).map _)
    rw [same.inputFields serial]
    cases pool.inputFields.find? serial with
    | none => rfl
    | some fields =>
      exact congrArg some (map_renumber numbers InputField.type (fun _ => rfl) fields)

/-- **What is gathered corresponds**, and so does a clash of names. -/
theorem collectFrom_corresponds {numbers : Equiv.Perm Nat} {fields fields' : FieldTypes}
    {known known' : SortedMap String SchemaType} {pending : List SchemaType}
    (same : FieldTypes.Corresponds numbers fields fields')
    (sameKnown : known.Corresponds numbers known') :
    Together (SortedMap.Corresponds numbers) (collectFrom fields known pending)
      (collectFrom fields' known' (renumber numbers pending)) := by
  fun_induction collectFrom fields known pending generalizing fields' known' with
  | case1 fields known =>
    rw [renumber_nil, collectFrom]
    exact .ok sameKnown
  | case2 fields known type rest unnamed ih =>
    have step := ih same sameKnown
    rw [renumber_append, ← SchemaType.inside_renumber] at step
    rw [renumber_cons, collectFrom, SchemaType.name?_renumber, unnamed]
    exact step
  | case3 fields known rest name type found carried ih =>
    rw [renumber_cons, collectFrom, SchemaType.name?_renumber, carried]
    dsimp only
    rw [sameKnown name, found, renumber_some]
    dsimp only
    rw [if_pos rfl]
    exact ih same sameKnown
  | case4 fields known type rest name carried other found different =>
    rw [renumber_cons, collectFrom, SchemaType.name?_renumber, carried]
    dsimp only
    rw [sameKnown name, found, renumber_some]
    dsimp only
    rw [if_neg fun equal => different (renumber_injective numbers equal)]
    exact .error _
  | case5 fields known type rest name carried absent ih =>
    have step := ih (same.leaving type) (sameKnown.insert name type)
    rw [renumber_append, renumber_append, ← SchemaType.inside_renumber, ← same.typesOf] at step
    rw [renumber_cons, collectFrom, SchemaType.name?_renumber, carried]
    dsimp only
    rw [sameKnown name, absent, renumber_none]
    exact step

/-- **The named types behind corresponding roots correspond.** -/
theorem collectNamed_corresponds {numbers : Equiv.Perm Nat} {pool pool' : TypePool}
    (same : pool.Corresponds numbers pool') (roots : List SchemaType) :
    Together (SortedMap.Corresponds numbers) (collectNamed pool roots)
      (collectNamed pool' (renumber numbers roots)) :=
  collectFrom_corresponds same.fieldTypes SortedMap.corresponds_empty

/-! ### Printing -/

namespace Printer

variable {numbers : Equiv.Perm Nat} {pool pool' : TypePool}

/-- The lines of a field do not show the number of its type. -/
theorem fieldLines_renumber (name : String) (description : Option String) (type : SchemaType) :
    fieldLines name description (renumber numbers type) = fieldLines name description type := by
  unfold fieldLines
  rw [SchemaType.text_renumber]

theorem body_corresponds (same : pool.Corresponds numbers pool') (type : SchemaType) :
    body pool' (renumber numbers type) = body pool type := by
  cases type with
  | object serial name description =>
    show heading "type" name ++
        braces ((pool'.fieldsOf (renumber numbers (.object serial name description))).flatMap
      fun field => fieldLines field.name field.description field.type) = _
    rw [same.fieldsOf, renumber_list, List.flatMap_map]
    refine congrArg (fun lines => heading "type" name ++ braces lines)
      (List.flatMap_congr fun field _ => ?_)
    exact fieldLines_renumber ..
  | inputObject serial name description =>
    show heading "input" name ++
      braces ((pool'.inputFieldsOf
        (renumber numbers (.inputObject serial name description))).flatMap
        fun field => fieldLines field.name field.description field.type) = _
    rw [same.inputFieldsOf, renumber_list, List.flatMap_map]
    refine congrArg (fun lines => heading "input" name ++ braces lines)
      (List.flatMap_congr fun field _ => ?_)
    exact fieldLines_renumber ..
  | _ => rfl

theorem typeLines_corresponds (same : pool.Corresponds numbers pool') (type : SchemaType) :
    typeLines pool' (renumber numbers type) = typeLines pool type := by
  unfold typeLines
  rw [body_corresponds same, SchemaType.description?_renumber]

theorem namedInOrder_renumber (types : List SchemaType) :
    namedInOrder (renumber numbers types) = renumber numbers (namedInOrder types) := by
  have named : (fun type => (renumber numbers type : SchemaType).name?.isSome) =
      fun type => type.name?.isSome := by simp
  unfold namedInOrder
  rw [renumber_list, renumber_list, List.filter_map, Function.comp_def, named]
  exact (List.map_mergeSort fun type _ other _ => by simp).symm

end Printer

/-- **Corresponding types are printed alike.** -/
theorem printTypes_corresponds {numbers : Equiv.Perm Nat} {pool pool' : TypePool}
    (same : pool.Corresponds numbers pool') (types : List SchemaType) :
    printTypes pool' (renumber numbers types) = printTypes pool types := by
  unfold printTypes
  rw [Printer.namedInOrder_renumber, renumber_list, List.map_map]
  refine congrArg (fun lines => String.ofList (Text.join ['\n'] lines))
    (List.map_congr_left fun type _ => ?_)
  exact Printer.typeLines_corresponds same type

/-! ### Steps -/

/-- Two steps run side by side; results and states differ in the serial numbers only. -/
def Tracks {ε σ α : Type} [Numbered α] (numbers : Equiv.Perm Nat) (same : σ → σ → Prop)
    (step step' : ExceptT ε (StateM σ) α) : Prop :=
  InStep same (fun value value' => value' = renumber numbers value) same step step'

namespace Tracks

variable {ε ε' σ α β γ : Type} [Numbered α] [Numbered β] {numbers : Equiv.Perm Nat}
  {same : σ → σ → Prop} {step step' : ExceptT ε (StateM σ) α}

protected theorem pure (value : α) :
    Tracks numbers same (pure value : ExceptT ε (StateM σ) α) (pure (renumber numbers value)) :=
  InStep.pure rfl

protected theorem throw (error : ε) :
    Tracks numbers same (throw error : ExceptT ε (StateM σ) α) (throw error) :=
  InStep.throw error

protected theorem bind {next next' : α → ExceptT ε (StateM σ) β}
    (first : Tracks numbers same step step')
    (later : ∀ value, Tracks numbers same (next value) (next' (renumber numbers value))) :
    Tracks numbers same (step >>= next) (step' >>= next') :=
  InStep.bind first fun {value _} renumbered => renumbered ▸ later value

/-- After a step without serial numbers in its result. -/
theorem bind_plain {step step' : ExceptT ε (StateM σ) γ} {next next' : γ → ExceptT ε (StateM σ) β}
    (first : InStep same Eq same step step')
    (later : ∀ value, Tracks numbers same (next value) (next' value)) :
    Tracks numbers same (step >>= next) (step' >>= next') :=
  InStep.bind first fun {value _} equal => equal ▸ later value

/-- After reading the state. -/
theorem bind_get {next next' : σ → ExceptT ε (StateM σ) β}
    (later : ∀ {state state'}, same state state' →
      Tracks numbers same (next state) (next' state')) :
    Tracks numbers same (get >>= next) (get >>= next') :=
  InStep.bind InStep.get later

/-- After changing the state. -/
theorem bind_modify {change change' : σ → σ} {next next' : PUnit → ExceptT ε (StateM σ) β}
    (keeps : ∀ {state state'}, same state state' → same (change state) (change' state'))
    (later : Tracks numbers same (next ⟨⟩) (next' ⟨⟩)) :
    Tracks numbers same (modify change >>= next) (modify change' >>= next') :=
  InStep.bind (InStep.modify keeps) fun _ => later

theorem adapt (change : ε → ε') (run : Tracks numbers same step step') :
    Tracks numbers same (ExceptT.adapt change step) (ExceptT.adapt change step') :=
  InStep.adapt change run

theorem mapOption {each each' : α → ExceptT ε (StateM σ) β} (value : Option α)
    (step : ∀ value, Tracks numbers same (each value) (each' (renumber numbers value))) :
    Tracks numbers same (value.mapM each) ((renumber numbers value).mapM each') := by
  cases value with
  | none => exact .pure none
  | some value =>
    rw [renumber_some, Option.mapM_some, Option.mapM_some, map_eq_pure_bind, map_eq_pure_bind]
    exact (step value).bind fun found => .pure (some found)

/-- A loop over items without serial numbers. -/
theorem mapM {each each' : γ → ExceptT ε (StateM σ) β} (items : List γ)
    (step : ∀ item ∈ items, Tracks numbers same (each item) (each' item)) :
    Tracks numbers same (items.mapM each) (items.mapM each') := by
  induction items with
  | nil => exact .pure []
  | cons item items ih =>
    rw [List.mapM_cons, List.mapM_cons]
    refine (step item List.mem_cons_self).bind fun first => ?_
    exact (ih fun other listed => step other (.tail _ listed)).bind fun rest =>
      .pure (first :: rest)

end Tracks

end CatalogSchema
