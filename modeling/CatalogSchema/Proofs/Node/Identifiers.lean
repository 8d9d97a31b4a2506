/-
**Identifiers of rows come back.**

An identifier without a type behind its alias is the text of a JSON array in base64. The alias comes
back, and the key does if the numbers in it survive reading in steps. Which type an alias stands for
depends on the calls of `setAlias` so far: a type that is given another alias takes the entry of its
old alias with it, even if that alias is another type's by now.

* `decodeNodeId_encodeNodeId_iff`: when the alias and the key of an identifier come back.
* `find?_types_setAliases`: what an alias stands for after calls that do not mention it.
* `identifier_survives_iff`: when the type of an identifier comes back.
-/

import CatalogSchema.Node
import CatalogSchema.Proofs.Json.RoundTrip
import CatalogSchema.Proofs.Text.Base64

namespace CatalogSchema

open Text

/-! ### Alias and key -/

theorem fromUTF8?_toUTF8 (text : String) : String.fromUTF8? text.toUTF8 = some text := by
  unfold String.fromUTF8?
  rw [String.toUTF8_eq_toByteArray, dif_pos text.isValidUTF8]
  rfl

/-- A key that can be written into an identifier: there are parts, they are values of documents, and
each leaves room for the array around it. -/
structure IsWritable (key : List Json) : Prop where
  present : key ≠ []
  wellFormed : ∀ part ∈ key, part.WellFormed
  within : ∀ part ∈ key, part.nesting < Json.depthLimit

/-- A key that can stand in an identifier: moreover the numbers in it survive reading. -/
structure IsKey (key : List Json) : Prop extends IsWritable key where
  survives : ∀ part ∈ key, part.Survives Number.stepwise

theorem itemNesting_lt {items : List Json} {bound : Nat} (positive : 0 < bound)
    (each : ∀ item ∈ items, item.nesting < bound) : Json.itemNesting items < bound := by
  induction items with
  | nil => exact positive
  | cons item items ih =>
    obtain ⟨first, rest⟩ := List.forall_mem_cons.1 each
    exact Nat.max_lt.2 ⟨first, ih rest⟩

/-- What an identifier holds: the alias and the parts of the key. -/
def nodeContents (typeAlias : String) (key : List Json) : Json := .array (.string typeAlias :: key)

theorem IsWritable.contents_wellFormed {key : List Json} (writable : IsWritable key)
    (typeAlias : String) :
    (nodeContents typeAlias key).WellFormed :=
  ⟨trivial, Json.itemsWellFormed_iff.2 writable.wellFormed⟩

theorem IsWritable.contents_within {key : List Json} (writable : IsWritable key)
    (typeAlias : String) :
    (nodeContents typeAlias key).nesting ≤ Json.depthLimit := by
  have within : Json.itemNesting (.string typeAlias :: key) < Json.depthLimit :=
    itemNesting_lt (by decide) (List.forall_mem_cons.2 ⟨Nat.succ_pos 126, writable.within⟩)
  exact Nat.succ_le_of_lt within

/-- The alias and the parts of the key of what an identifier holds. -/
def splitContents : Option Json → Except ConversionError (String × List Json)
  | none => .error (.invalidNodeId .notJson)
  | some (.array (.string typeAlias :: part :: parts)) => .ok (typeAlias, part :: parts)
  | some (.array (_ :: _ :: _)) => .error (.invalidNodeId .aliasNotString)
  | some (.array _) => .error (.invalidNodeId .noKey)
  | some _ => .error (.invalidNodeId .notArray)

/-- A row of values is split into an alias and a key that are there. -/
theorem splitContents_eq_ok {contents : Option Json} {typeAlias : String} {key : List Json} :
    splitContents contents = .ok (typeAlias, key) ↔
      contents = some (nodeContents typeAlias key) ∧ key ≠ [] := by
  constructor
  · intro holds
    unfold splitContents at holds
    split at holds
    case h_2 =>
      cases holds
      exact ⟨rfl, List.cons_ne_nil _ _⟩
    all_goals cases holds
  · rintro ⟨rfl, present⟩
    obtain ⟨part, parts, rfl⟩ := List.exists_cons_of_ne_nil present
    rfl

/-- **What an identifier is decoded to**, blanks around it or not: its alias and key are those of
the text of its contents. -/
theorem decodeNodeId_eq (typeAlias : String) (key : List Json) {before after : List Char}
    (blank : ∀ c ∈ before ++ after, isBlank c = true) :
    decodeNodeId (String.ofList (before ++ ((encodeNodeId typeAlias key).toList ++ after))) =
      splitContents (Json.read? (nodeContents typeAlias key).text) := by
  unfold decodeNodeId encodeNodeId
  dsimp only
  rw [String.toList_ofList, String.toList_ofList, trim_between blank (Base64.encode_visible _),
    Base64.decode?_encode]
  dsimp only
  rw [Array.toArray_toList, fromUTF8?_toUTF8, Option.bind_some]
  rfl

/-- What an identifier is decoded to without blanks around it. -/
theorem decodeNodeId_alone (typeAlias : String) (key : List Json) :
    decodeNodeId (encodeNodeId typeAlias key) =
      splitContents (Json.read? (nodeContents typeAlias key).text) := by
  have between := @decodeNodeId_eq typeAlias key [] [] nofun
  rwa [List.append_nil, List.nil_append, String.ofList_toList] at between

/-- **When the alias and the key of an identifier come back**: the numbers in the key survive
reading. -/
theorem decodeNodeId_encodeNodeId_iff (typeAlias : String) {key : List Json}
    (writable : IsWritable key) :
    decodeNodeId (encodeNodeId typeAlias key) = .ok (typeAlias, key) ↔
      ∀ part ∈ key, part.Survives Number.stepwise := by
  have survives : (nodeContents typeAlias key).Survives Number.stepwise ↔
      ∀ part ∈ key, part.Survives Number.stepwise :=
    (and_iff_right trivial).trans (Json.itemsEveryNumber_iff _)
  rw [decodeNodeId_alone, splitContents_eq_ok, and_iff_left writable.present, ← survives]
  exact Json.readBy?_text_iff _ (writable.contents_wellFormed typeAlias)
    (writable.contents_within typeAlias)

/-- The alias and the key of an identifier come back. -/
theorem decodeNodeId_encodeNodeId (typeAlias : String) {key : List Json} (isKey : IsKey key) :
    decodeNodeId (encodeNodeId typeAlias key) = .ok (typeAlias, key) :=
  (decodeNodeId_encodeNodeId_iff typeAlias isKey.toIsWritable).2 isKey.survives

/-! ### Aliases -/

namespace NodeAliases

/-- An identifier of a type comes back with whatever type its alias stands for. -/
theorem decode_encode (known : NodeAliases) (typeName : String) {key : List Json}
    (isKey : IsKey key) :
    known.decode (known.encode typeName key) =
      .ok (known.typeOf (known.«alias» typeName), key) := by
  unfold decode encode
  rw [decodeNodeId_encodeNodeId _ isKey]
  rfl

/-- Gives types aliases, call after call. -/
def setAliases (known : NodeAliases) (calls : List (String × String)) : NodeAliases :=
  calls.foldl (fun known call => known.setAlias call.1 call.2) known

theorem setAliases_append (known : NodeAliases) (before after : List (String × String)) :
    known.setAliases (before ++ after) = (known.setAliases before).setAliases after :=
  List.foldl_append

theorem find?_aliases_setAlias_self (known : NodeAliases) (typeName typeAlias : String) :
    (known.setAlias typeName typeAlias).aliases.find? typeName = some typeAlias :=
  SortedMap.find?_insert_self ..

theorem find?_aliases_setAlias_of_ne (known : NodeAliases) {typeName wanted : String}
    (different : wanted ≠ typeName) (typeAlias : String) :
    (known.setAlias typeName typeAlias).aliases.find? wanted = known.aliases.find? wanted :=
  SortedMap.find?_insert_of_ne _ different _

/-- A new alias stands for its type. -/
theorem find?_types_setAlias_self (known : NodeAliases) (typeName typeAlias : String) :
    (known.setAlias typeName typeAlias).types.find? typeAlias = some typeName :=
  SortedMap.find?_insert_self ..

/-- Another alias is forgotten if the type had it, whatever it stood for. -/
theorem find?_types_setAlias_of_ne (known : NodeAliases) {typeAlias wanted : String}
    (different : wanted ≠ typeAlias) (typeName : String) :
    (known.setAlias typeName typeAlias).types.find? wanted =
      if known.aliases.find? typeName = some wanted then none else known.types.find? wanted := by
  unfold setAlias
  dsimp only
  rw [SortedMap.find?_insert_of_ne _ different]
  cases had : known.aliases.find? typeName with
  | none => rfl
  | some previous =>
    by_cases same : previous = wanted
    · subst same
      rw [if_pos rfl]
      exact SortedMap.find?_erase_self ..
    · rw [if_neg (by simpa using same)]
      exact SortedMap.find?_erase_of_ne _ (Ne.symm same)

/-- **What an alias stands for after calls that do not mention it.** Nothing if one of them gives
another alias to a type that has this one, and what it stood for otherwise. -/
theorem find?_types_setAliases (known : NodeAliases) {calls : List (String × String)}
    {typeAlias : String} (unmentioned : ∀ call ∈ calls, call.2 ≠ typeAlias) :
    (known.setAliases calls).types.find? typeAlias =
      if ∃ call ∈ calls, known.aliases.find? call.1 = some typeAlias then none
      else known.types.find? typeAlias := by
  induction calls generalizing known with
  | nil => simp [setAliases]
  | cons call calls ih =>
    obtain ⟨other, unmentioned⟩ := List.forall_mem_cons.1 unmentioned
    have stands := find?_types_setAlias_of_ne known (Ne.symm other) call.1
    change ((known.setAlias call.1 call.2).setAliases calls).types.find? typeAlias = _
    rw [ih _ unmentioned, stands]
    by_cases had : known.aliases.find? call.1 = some typeAlias
    · rw [if_pos had, ite_self, if_pos ⟨call, List.mem_cons_self, had⟩]
    · -- The call leaves the alias with whoever has it.
      have holders (later : String × String) :
          (known.setAlias call.1 call.2).aliases.find? later.1 = some typeAlias ↔
            known.aliases.find? later.1 = some typeAlias := by
        by_cases again : later.1 = call.1
        · rw [again, find?_aliases_setAlias_self]
          simp [other, had]
        · rw [find?_aliases_setAlias_of_ne known again]
      simp only [holders, List.mem_cons, exists_eq_or_imp, had, false_or, if_false]

/-- The alias of a type is the one it had or the one of a call. -/
theorem find?_aliases_setAliases (known : NodeAliases) (calls : List (String × String))
    (typeName : String) :
    ((∀ call ∈ calls, call.1 ≠ typeName) ∧
        (known.setAliases calls).aliases.find? typeName = known.aliases.find? typeName) ∨
      ∃ call ∈ calls, (known.setAliases calls).aliases.find? typeName = some call.2 := by
  induction calls generalizing known with
  | nil => exact .inl ⟨nofun, rfl⟩
  | cons call calls ih =>
    rcases ih (known.setAlias call.1 call.2) with ⟨others, kept⟩ | ⟨later, found, given⟩
    · by_cases here : call.1 = typeName
      · refine .inr ⟨call, List.mem_cons_self, kept.trans ?_⟩
        rw [here, find?_aliases_setAlias_self]
      · refine .inl ⟨List.forall_mem_cons.2 ⟨here, others⟩, kept.trans ?_⟩
        rw [find?_aliases_setAlias_of_ne known (Ne.symm here)]
    · exact .inr ⟨later, List.mem_cons_of_mem _ found, given⟩

/-- A type whose alias was not given away since its own call was not called again. -/
theorem unmentioned_of_current {known : NodeAliases} {after : List (String × String)}
    {typeName typeAlias : String} (last : ∀ call ∈ after, call.2 ≠ typeAlias)
    (current : (known.setAliases ((typeName, typeAlias) :: after)).«alias» typeName = typeAlias) :
    ∀ call ∈ after, call.1 ≠ typeName := by
  rcases find?_aliases_setAliases (known.setAlias typeName typeAlias) after typeName with
    ⟨others, -⟩ | ⟨call, found, given⟩
  · exact others
  · change (((known.setAlias typeName typeAlias).setAliases after).aliases.find? typeName).getD
      typeName = typeAlias at current
    rw [given] at current
    exact absurd current (last call found)

end NodeAliases

open NodeAliases in
/-- **When the type of an identifier comes back.** The call that gave the alias to the type is the
last that mentions the alias, and the type still has it. The alias stands for the type, and each
identifier of the type comes back, exactly if it is the type's own name or no type that had it
before that call was given another alias after it. -/
theorem identifier_survives_iff {before after : List (String × String)}
    {typeName typeAlias : String} {known : NodeAliases}
    (history : known = NodeAliases.empty.setAliases (before ++ (typeName, typeAlias) :: after))
    (last : ∀ call ∈ after, call.2 ≠ typeAlias) (current : known.«alias» typeName = typeAlias) :
    (known.typeOf typeAlias = typeName ↔ typeAlias = typeName ∨ ∀ call ∈ after,
        (NodeAliases.empty.setAliases before).aliases.find? call.1 ≠ some typeAlias) ∧
      ∀ key, IsKey key →
        (known.decode (known.encode typeName key) = .ok (typeName, key) ↔
          known.typeOf typeAlias = typeName) := by
  subst history
  rw [setAliases_append] at current ⊢
  generalize NodeAliases.empty.setAliases before = earlier at current ⊢
  refine ⟨?_, fun key isKey => ?_⟩
  · have others := unmentioned_of_current last current
    have stands := find?_types_setAliases (earlier.setAlias typeName typeAlias) last
    rw [find?_types_setAlias_self] at stands
    have holders (call : String × String) (found : call ∈ after) :
        (earlier.setAlias typeName typeAlias).aliases.find? call.1 = earlier.aliases.find? call.1 :=
      find?_aliases_setAlias_of_ne earlier (others call found) typeAlias
    change (((earlier.setAlias typeName typeAlias).setAliases after).types.find? typeAlias).getD
      typeAlias = typeName ↔ _
    rw [stands]
    by_cases taken : ∃ call ∈ after, earlier.aliases.find? call.1 = some typeAlias
    · obtain ⟨call, found, had⟩ := taken
      rw [if_pos ⟨call, found, (holders call found).trans had⟩]
      exact ⟨.inl, fun either => either.resolve_right fun never => never call found had⟩
    · rw [if_neg fun ⟨call, found, had⟩ => taken ⟨call, found, (holders call found).symm.trans had⟩]
      exact ⟨fun _ => .inr fun call found had => taken ⟨call, found, had⟩, fun _ => rfl⟩
  · rw [decode_encode _ typeName isKey, current]
    exact ⟨fun same => (Prod.mk.inj (Except.ok.inj same)).1,
      fun same => congrArg (fun name => Except.ok (name, key)) same⟩

theorem isKey_one : IsKey [.ofInt 1] where
  present := List.cons_ne_nil _ _
  wellFormed := List.forall_mem_singleton.2
    (by unfold Json.ofInt Json.WellFormed JsonNumber.InRange; decide)
  within := List.forall_mem_singleton.2 (by decide)
  survives := List.forall_mem_singleton.2 (Json.survives_stepwise (by
    unfold Json.ofInt Json.EveryNumber JsonNumber.IsShort JsonNumber.InRange; decide))

/-- The alias of another type, which never was the author's, may be given away. -/
theorem identifier_survives_iff_writer :
    let known := NodeAliases.empty.setAliases
      [("Person", "User"), ("Author", "Writer"), ("Person", "Member")]
    (∀ call ∈ [("Person", "Member")], call.2 ≠ "Writer") ∧ known.«alias» "Author" = "Writer" ∧
      IsKey [.ofInt 1] ∧ known.decode (known.encode "Author" [.ofInt 1]) =
        .ok ("Author", [.ofInt 1]) := by
  intro known
  have last : ∀ call ∈ [("Person", "Member")], call.2 ≠ "Writer" := by decide
  have current : known.«alias» "Author" = "Writer" := by decide +kernel
  have never : ∀ call ∈ [("Person", "Member")],
      (NodeAliases.empty.setAliases [("Person", "User")]).aliases.find? call.1 ≠ some "Writer" := by
    decide +kernel
  obtain ⟨stands, comes⟩ :=
    @identifier_survives_iff [("Person", "User")] [("Person", "Member")] "Author"
    "Writer" known rfl last current
  exact ⟨last, current, isKey_one, (comes _ isKey_one).2 (stands.2 (.inr never))⟩

/-- An alias that one type takes over from another is lost when the other is given a new one: the
author's identifiers, under the alias of its own call, come back as those of no type. -/
theorem identifier_lost :
    let known := NodeAliases.empty.setAliases
      ([("Person", "User")] ++ ("Author", "User") :: [("Person", "Member")])
    (∀ call ∈ [("Person", "Member")], call.2 ≠ "User") ∧ known.«alias» "Author" = "User" ∧
      known.typeOf "User" ≠ "Author" ∧
      known.decode (known.encode "Author" [.ofInt 1]) = .ok ("User", [.ofInt 1]) := by
  intro known
  have current : known.«alias» "Author" = "User" := by decide +kernel
  have stands : known.typeOf "User" = "User" := by decide +kernel
  have back := known.decode_encode "Author" isKey_one
  rw [current, stands] at back
  exact ⟨by decide, current, by rw [stands]; decide, back⟩

end CatalogSchema
