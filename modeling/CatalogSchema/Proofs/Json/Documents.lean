/-
**What is read is well formed, and what is written is read.**

The numbers of a document are in the range of integers or are finite, its objects list their members
by increasing key, and it is not nested deeper than the reader goes. The text of such a value is a
document again: none of its numbers overflows when it is read in steps.

* `readValue?_inRange`: the numbers of a tree that was read are in range.
* `toJson?_wellFormed`: what such a tree stands for is well formed and not nested too deep.
* `Json.wellFormed_of_read?`: so is every value that was read.
* `JsonNumber.isSome_reread?`: no number overflows when its text is read in steps.
* `Json.exists_read?_text`: the text of a well-formed value is a document.
* `Json.readBy?_number`: a number alone is a document.
-/

import CatalogSchema.Proofs.Json.RoundTrip
import CatalogSchema.Proofs.Number.Overflow

namespace CatalogSchema

open Number

/-! ### Members of objects -/

theorem SortedMap.mem_entries_insertMany {κ : Type} {α : Type} [LT κ] [LE κ] [DecidableLT κ]
    [Std.LawfulOrderLT κ] [Std.IsLinearOrder κ] [DecidableEq κ] {map : SortedMap κ α}
    {entry : κ × α} :
    {entries : List (κ × α)} → entry ∈ (map.insertMany entries).entries →
      entry ∈ map.entries ∨ entry ∈ entries
  | [], found => .inl found
  | first :: entries, found => by
    have found : entry ∈ ((map.insert first.1 first.2).insertMany entries).entries := found
    rcases mem_entries_insertMany found with before | later
    · rcases mem_insertEntry before with rfl | kept
      · exact .inr List.mem_cons_self
      · exact .inl kept
    · exact .inr (List.mem_cons_of_mem _ later)

namespace Json

theorem membersWellFormed_iff {members : List (String × Json)} :
    MembersWellFormed members ↔ ∀ member ∈ members, member.2.WellFormed := by
  induction members with
  | nil => exact ⟨fun _ => nofun, fun _ => trivial⟩
  | cons member members ih =>
    rw [List.forall_mem_cons, ← ih]
    exact Iff.rfl

theorem memberNesting_le_iff {members : List (String × Json)} {depth : Nat} :
    memberNesting members ≤ depth ↔ ∀ member ∈ members, member.2.nesting ≤ depth := by
  induction members with
  | nil => exact ⟨fun _ => nofun, fun _ => Nat.zero_le depth⟩
  | cons member members ih =>
    rw [List.forall_mem_cons, ← ih]
    exact Nat.max_le

/-- The members of an object are among those it was made of. -/
theorem ofMembers_wellFormed {members : List (String × Json)} {depth : Nat}
    (wellFormed : MembersWellFormed members) (within : memberNesting members ≤ depth) :
    (ofMembers members).WellFormed ∧ (ofMembers members).nesting ≤ depth + 1 := by
  have among : ∀ member ∈ (SortedMap.ofList members).entries, member ∈ members :=
    fun member found =>
    (SortedMap.mem_entries_insertMany found).resolve_left nofun
  refine ⟨⟨(SortedMap.ofList members).sorted, membersWellFormed_iff.2 fun member found => ?_⟩,
    Nat.succ_le_succ (memberNesting_le_iff.2 fun member found => ?_)⟩
  · exact membersWellFormed_iff.1 wellFormed member (among member found)
  · exact memberNesting_le_iff.1 within member (among member found)

end Json

namespace JsonTree

/-! ### Numbers that were read -/

mutual

/-- The numbers of a tree are those of documents, at every depth. -/
def InRange : JsonTree → Prop
  | .number value => ∀ number ∈ value, number.InRange
  | .array items => ItemsInRange items
  | .object members => MembersInRange members
  | _ => True

/-- The numbers of the items are those of documents. -/
def ItemsInRange : List JsonTree → Prop
  | [] => True
  | item :: rest => InRange item ∧ ItemsInRange rest

/-- The numbers of the members are those of documents. -/
def MembersInRange : List (Option String × JsonTree) → Prop
  | [] => True
  | (_, tree) :: rest => InRange tree ∧ MembersInRange rest

end

variable {rule : DecimalRule}

theorem floatNumber?_inRange {negative : Bool} {whole fraction : List Char} {exponent : Int} :
    ∀ number ∈ floatNumber? rule negative whole fraction exponent, number.InRange := by
  intro number read
  obtain ⟨_, _, rfl⟩ := Option.map_eq_some_iff.1 read
  trivial

theorem wholeNumber?_inRange {negative : Bool} {digits : List Char} :
    ∀ number ∈ wholeNumber? rule negative digits, number.InRange := by
  unfold wholeNumber?
  dsimp only
  split
  · split
    · rename_i fits
      rintro _ ⟨⟩
      unfold JsonNumber.InRange
      omega
    · exact floatNumber?_inRange
  · split
    · rename_i fits
      rintro _ ⟨⟩
      unfold JsonNumber.InRange
      omega
    · exact floatNumber?_inRange

theorem readUnsigned?_inRange {negative : Bool} {text rest : List Char} {value : Option JsonNumber}
    (read : readUnsigned? rule negative text = some (value, rest)) :
    ∀ number ∈ value, number.InRange := by
  unfold readUnsigned? at read
  dsimp only at read
  split at read
  · cases read
  · obtain ⟨⟨fraction, afterFraction⟩, -, read⟩ := Option.bind_eq_some_iff.1 read
    obtain ⟨⟨power, afterPower⟩, -, read⟩ := Option.bind_eq_some_iff.1 read
    dsimp only at read
    split at read
    · cases read
      exact wholeNumber?_inRange
    · cases read
      exact floatNumber?_inRange

theorem readNumber?_inRange {text rest : List Char} {value : Option JsonNumber}
    (read : readNumber? rule text = some (value, rest)) : ∀ number ∈ value, number.InRange := by
  unfold readNumber? at read
  split at read
  · exact readUnsigned?_inRange read
  · exact readUnsigned?_inRange read

mutual

/-- **The numbers of a tree that was read are in range.** -/
theorem readValue?_inRange : (fuel : Nat) → {text rest : List Char} → {tree : JsonTree} →
    readValue? rule fuel text = some (tree, rest) → tree.InRange
  | 0, _, _, _, read => nomatch read
  | fuel + 1, text, rest, tree, read => by
    rw [readValue?] at read
    split at read
    · cases read
      trivial
    · cases read
      trivial
    · cases read
      trivial
    · obtain ⟨⟨value, after⟩, -, read⟩ := Option.bind_eq_some_iff.1 read
      cases read
      trivial
    · split at read
      · cases read
        trivial
      · obtain ⟨⟨items, after⟩, readItems, read⟩ := Option.bind_eq_some_iff.1 read
        cases read
        exact readItems?_inRange fuel readItems
    · split at read
      · cases read
        trivial
      · obtain ⟨⟨members, after⟩, readMembers, read⟩ := Option.bind_eq_some_iff.1 read
        cases read
        exact readMembers?_inRange fuel readMembers
    · obtain ⟨⟨value, after⟩, readNumber, read⟩ := Option.bind_eq_some_iff.1 read
      cases read
      exact readNumber?_inRange readNumber

/-- The numbers of items that were read are in range. -/
theorem readItems?_inRange : (fuel : Nat) → {text rest : List Char} → {items : List JsonTree} →
    readItems? rule fuel text = some (items, rest) → ItemsInRange items
  | 0, _, _, _, read => nomatch read
  | fuel + 1, text, rest, items, read => by
    rw [readItems?] at read
    obtain ⟨⟨item, after⟩, readFirst, read⟩ := Option.bind_eq_some_iff.1 read
    have first := readValue?_inRange fuel readFirst
    dsimp only at read
    split at read
    · cases read
      exact ⟨first, trivial⟩
    · obtain ⟨⟨others, last⟩, readOthers, read⟩ := Option.bind_eq_some_iff.1 read
      cases read
      exact ⟨first, readItems?_inRange fuel readOthers⟩
    · cases read

/-- The numbers of members that were read are in range. -/
theorem readMembers?_inRange : (fuel : Nat) → {text rest : List Char} →
    {members : List (Option String × JsonTree)} →
      readMembers? rule fuel text = some (members, rest) → MembersInRange members
  | 0, _, _, _, read => nomatch read
  | fuel + 1, text, rest, members, read => by
    rw [readMembers?] at read
    split at read
    · obtain ⟨⟨key, afterKey⟩, -, read⟩ := Option.bind_eq_some_iff.1 read
      dsimp only at read
      split at read
      · obtain ⟨⟨value, afterValue⟩, readFirst, read⟩ := Option.bind_eq_some_iff.1 read
        have first := readValue?_inRange fuel readFirst
        dsimp only at read
        split at read
        · cases read
          exact ⟨first, trivial⟩
        · obtain ⟨⟨others, last⟩, readOthers, read⟩ := Option.bind_eq_some_iff.1 read
          cases read
          exact ⟨first, readMembers?_inRange fuel readOthers⟩
        · cases read
      · cases read
    · cases read

end

/-! ### Values that were read -/

mutual

/-- **What a tree with numbers in range stands for is well formed**, and not nested too deep. -/
theorem toJson?_wellFormed : (depth : Nat) → (tree : JsonTree) → tree.InRange → {value : Json} →
    toJson? depth tree = some value → value.WellFormed ∧ value.nesting ≤ depth
  | depth, .null, _, _, read => by
    cases depth <;> cases read <;> exact ⟨trivial, Nat.zero_le _⟩
  | depth, .bool _, _, _, read => by
    cases depth <;> cases read <;> exact ⟨trivial, Nat.zero_le _⟩
  | depth, .number found, inRange, _, read => by
    have step : toJson? depth (.number found) = found.map .number := by cases depth <;> rfl
    obtain ⟨number, found, rfl⟩ := Option.map_eq_some_iff.1 (step.symm.trans read)
    exact ⟨inRange number found, Nat.zero_le _⟩
  | depth, .string found, _, _, read => by
    have step : toJson? depth (.string found) = found.map .string := by cases depth <;> rfl
    obtain ⟨text, -, rfl⟩ := Option.map_eq_some_iff.1 (step.symm.trans read)
    exact ⟨trivial, Nat.zero_le _⟩
  | depth + 1, .array items, inRange, _, read => by
    obtain ⟨values, readItems, rfl⟩ := Option.map_eq_some_iff.1 read
    obtain ⟨wellFormed, within⟩ := toItems?_wellFormed depth items inRange readItems
    exact ⟨wellFormed, Nat.succ_le_succ within⟩
  | depth + 1, .object members, inRange, _, read => by
    obtain ⟨values, readMembers, rfl⟩ := Option.map_eq_some_iff.1 read
    obtain ⟨wellFormed, within⟩ := toMembers?_wellFormed depth members inRange readMembers
    exact Json.ofMembers_wellFormed wellFormed within

/-- What the items of a tree stand for is well formed. -/
theorem toItems?_wellFormed : (depth : Nat) → (items : List JsonTree) → ItemsInRange items →
    {values : List Json} → toItems? depth items = some values →
      Json.ItemsWellFormed values ∧ Json.itemNesting values ≤ depth
  | depth, [], _, _, read => by
    cases read
    exact ⟨trivial, Nat.zero_le _⟩
  | depth, item :: items, ⟨first, others⟩, _, read => by
    rw [toItems?] at read
    obtain ⟨value, readFirst, read⟩ := Option.bind_eq_some_iff.1 read
    obtain ⟨values, readOthers, read⟩ := Option.bind_eq_some_iff.1 read
    cases read
    have head := toJson?_wellFormed depth item first readFirst
    have tail := toItems?_wellFormed depth items others readOthers
    exact ⟨⟨head.1, tail.1⟩, Nat.max_le.2 ⟨head.2, tail.2⟩⟩

/-- What the members of a tree stand for is well formed. -/
theorem toMembers?_wellFormed : (depth : Nat) → (members : List (Option String × JsonTree)) →
    MembersInRange members → {values : List (String × Json)} →
      toMembers? depth members = some values →
      Json.MembersWellFormed values ∧ Json.memberNesting values ≤ depth
  | depth, [], _, _, read => by
    cases read
    exact ⟨trivial, Nat.zero_le _⟩
  | depth, (key, tree) :: members, ⟨first, others⟩, _, read => by
    rw [toMembers?] at read
    obtain ⟨key, -, read⟩ := Option.bind_eq_some_iff.1 read
    obtain ⟨value, readFirst, read⟩ := Option.bind_eq_some_iff.1 read
    obtain ⟨values, readOthers, read⟩ := Option.bind_eq_some_iff.1 read
    cases read
    have head := toJson?_wellFormed depth tree first readFirst
    have tail := toMembers?_wellFormed depth members others readOthers
    exact ⟨⟨head.1, tail.1⟩, Nat.max_le.2 ⟨head.2, tail.2⟩⟩

end

end JsonTree

/-- **Every value that was read is well formed** and not nested deeper than the reader goes. -/
theorem Json.wellFormed_of_readBy? {rule : DecimalRule} {text : String} {value : Json}
    (read : readBy? rule text = some value) : value.WellFormed ∧ value.nesting ≤ depthLimit := by
  obtain ⟨tree, readTree, found⟩ := Option.bind_eq_some_iff.1 read
  obtain ⟨⟨tree', rest⟩, readValue, ends⟩ := Option.bind_eq_some_iff.1 readTree
  dsimp only at ends
  split at ends
  · cases ends
    exact JsonTree.toJson?_wellFormed depthLimit tree
      (JsonTree.readValue?_inRange _ readValue) found
  · cases ends

/-! ### Texts of values -/

namespace JsonNumber

open JsonTree

theorem reread_largest : ∀ negative below,
    ((JsonNumber.float (largest negative below)).reread? stepwise).isSome = true := by
  decide +kernel

/-- **No number overflows when its text is read in steps.** -/
theorem isSome_reread? {number : JsonNumber} (inRange : number.InRange) :
    (number.reread? stepwise).isSome = true := by
  cases number with
  | integer value =>
    rw [survives_integer stepwise inRange]
    rfl
  | float value =>
    by_cases hasRoom : value.HasRoom
    · obtain ⟨spelling, proper, floating, text, reads⟩ := jsonLayout.text_spelling value
      obtain ⟨result, finite⟩ := exists_stepwise_finite hasRoom reads
      have text : (JsonNumber.float value).chars =
          if value.negative then '-' :: spelling.text else spelling.text := text
      rw [reread?_of_spelling stepwise proper text, numberOf?_floating stepwise (floating rfl),
        floatNumber?, finite]
      rfl
    · obtain ⟨below, same⟩ := eq_largest_of_not_hasRoom hasRoom
      rw [same]
      exact reread_largest value.negative below

end JsonNumber

namespace JsonTree

variable {rule : DecimalRule}

mutual

/-- **The tree of a value stands for a value** if no number overflows and it is not nested too
deep. -/
theorem exists_toJson?_rereadTree : (value : Json) →
    (value.EveryNumber fun number => (number.reread? rule).isSome = true) → (depth : Nat) →
      value.nesting ≤ depth → ∃ again, toJson? depth (value.rereadTree rule) = some again
  | .null, _, depth, _ => by cases depth <;> exact ⟨_, rfl⟩
  | .bool _, _, depth, _ => by cases depth <;> exact ⟨_, rfl⟩
  | .string _, _, depth, _ => by cases depth <;> exact ⟨_, rfl⟩
  | .number value, finite, depth, _ => by
    obtain ⟨number, read⟩ := Option.isSome_iff_exists.1 finite
    have step : toJson? depth ((Json.number value).rereadTree rule) =
        (value.reread? rule).map .number := by
      cases depth <;> rfl
    rw [step, read]
    exact ⟨_, rfl⟩
  | .array items, finite, depth + 1, within => by
    obtain ⟨values, read⟩ :=
      exists_toItems?_rereadItems items finite depth (Nat.le_of_succ_le_succ within)
    exact ⟨_, Option.map_eq_some_iff.2 ⟨values, read, rfl⟩⟩
  | .object members, finite, depth + 1, within => by
    obtain ⟨values, read⟩ :=
      exists_toMembers?_rereadMembers members finite depth (Nat.le_of_succ_le_succ within)
    exact ⟨_, Option.map_eq_some_iff.2 ⟨values, read, rfl⟩⟩

theorem exists_toItems?_rereadItems : (items : List Json) →
    (Json.ItemsEveryNumber (fun number => (number.reread? rule).isSome = true) items) →
      (depth : Nat) →
      Json.itemNesting items ≤ depth →
        ∃ again, toItems? depth (Json.rereadItems rule items) = some again
  | [], _, _, _ => ⟨_, rfl⟩
  | item :: items, ⟨finite, others⟩, depth, within => by
    obtain ⟨first, rest⟩ := Nat.max_le.1 within
    obtain ⟨value, head⟩ := exists_toJson?_rereadTree item finite depth first
    obtain ⟨values, tail⟩ := exists_toItems?_rereadItems items others depth rest
    rw [Json.rereadItems, toItems?, head, tail]
    exact ⟨_, rfl⟩

theorem exists_toMembers?_rereadMembers : (members : List (String × Json)) →
    (Json.MembersEveryNumber (fun number => (number.reread? rule).isSome = true) members) →
      (depth : Nat) → Json.memberNesting members ≤ depth →
        ∃ again, toMembers? depth (Json.rereadMembers rule members) = some again
  | [], _, _, _ => ⟨_, rfl⟩
  | (key, value) :: members, ⟨finite, others⟩, depth, within => by
    obtain ⟨first, rest⟩ := Nat.max_le.1 within
    obtain ⟨value, head⟩ := exists_toJson?_rereadTree value finite depth first
    obtain ⟨values, tail⟩ := exists_toMembers?_rereadMembers members others depth rest
    rw [Json.rereadMembers, toMembers?, head, tail]
    exact ⟨_, rfl⟩

end

end JsonTree

/-- **The text of a well-formed value is a document**, if the value is not nested too deep. -/
theorem Json.exists_read?_text {value : Json} (wellFormed : value.WellFormed)
    (within : value.nesting ≤ depthLimit) : ∃ again, read? value.text = some again := by
  have finite : value.EveryNumber fun number => (number.reread? stepwise).isSome = true :=
    EveryNumber.imp (fun _ => JsonNumber.isSome_reread?) value
      (WellFormed.everyNumber value wellFormed)
  unfold read?
  rw [readBy?_text]
  exact JsonTree.exists_toJson?_rereadTree value finite depthLimit within

/-- A text that is one number is a document for it. -/
theorem Json.readBy?_number {rule : DecimalRule} {text : String} {c : Char} {more : List Char}
    {number : JsonNumber} (shape : text.toList = c :: more) (opens : c = '-' ∨ c.isDigit = true)
    (read : JsonTree.readNumber? rule (c :: more) = some (some number, [])) :
    readBy? rule text = some (.number number) := by
  have tree : JsonTree.readBy? rule text.toList = some (.number (some number)) := by
    unfold JsonTree.readBy?
    rw [shape, JsonTree.readValue?_number rule opens read]
    rfl
  unfold readBy?
  rw [tree]
  rfl

end CatalogSchema
