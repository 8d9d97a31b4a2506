/-
**What is written as a document reads back.**

The reader is given the text of a value and whatever follows it, with one call for each character of
the text. It finds the tree of the value, with each number as its own text is read. `toJson?` makes
the value again exactly if all numbers survive; the value must be well formed and not nested too
deep.

* `readValue?_chars`: the text of a value gives its tree, whatever the rule for decimal numbers.
* `toJson?_rereadTree_iff`: the tree of a well-formed value gives the value if all numbers survive.
* `Json.readBy?_text_iff`: the text of a value is read as the value if all numbers survive.
* `Json.text_injective`: different values have different texts.
-/

import CatalogSchema.Proofs.Json.Tokens

namespace CatalogSchema

open Number

/-! ### Values that survive -/

namespace Json

variable (rule : DecimalRule)

mutual

/-- The tree of the text of a value: each number is what its own text is read as. -/
def rereadTree : Json → JsonTree
  | .null => .null
  | .bool value => .bool value
  | .number value => .number (value.reread? rule)
  | .string value => .string (some value)
  | .array items => .array (rereadItems items)
  | .object members => .object (rereadMembers members)

/-- The trees of the items of an array. -/
def rereadItems : List Json → List JsonTree
  | [] => []
  | item :: rest => rereadTree item :: rereadItems rest

/-- The trees of the members of an object. -/
def rereadMembers : List (String × Json) → List (Option String × JsonTree)
  | [] => []
  | (key, value) :: rest => (some key, rereadTree value) :: rereadMembers rest

end

/-- Every number in the value survives the rule. -/
def Survives (value : Json) : Prop := value.EveryNumber (JsonNumber.Survives rule)

section Numbers

variable {holds weaker : JsonNumber → Prop}

mutual

/-- A property of every number may be weakened. -/
theorem EveryNumber.imp (weakens : ∀ number, holds number → weaker number) :
    (value : Json) → value.EveryNumber holds → value.EveryNumber weaker
  | .null, _ => trivial
  | .bool _, _ => trivial
  | .string _, _ => trivial
  | .number value, every => weakens value every
  | .array items, every => itemsEveryNumber_imp weakens items every
  | .object members, every => membersEveryNumber_imp weakens members every

theorem itemsEveryNumber_imp (weakens : ∀ number, holds number → weaker number) :
    (items : List Json) → ItemsEveryNumber holds items → ItemsEveryNumber weaker items
  | [], _ => trivial
  | item :: items, ⟨every, others⟩ =>
    ⟨EveryNumber.imp weakens item every, itemsEveryNumber_imp weakens items others⟩

theorem membersEveryNumber_imp (weakens : ∀ number, holds number → weaker number) :
    (members : List (String × Json)) → MembersEveryNumber holds members →
      MembersEveryNumber weaker members
  | [], _ => trivial
  | (_, value) :: members, ⟨every, others⟩ =>
    ⟨EveryNumber.imp weakens value every, membersEveryNumber_imp weakens members others⟩

end

mutual

/-- The numbers of a well-formed value are numbers of documents. -/
theorem WellFormed.everyNumber :
    (value : Json) → value.WellFormed → value.EveryNumber JsonNumber.InRange
  | .null, _ => trivial
  | .bool _, _ => trivial
  | .string _, _ => trivial
  | .number _, inRange => inRange
  | .array items, wellFormed => itemsWellFormed_everyNumber items wellFormed
  | .object members, wellFormed => membersWellFormed_everyNumber members wellFormed.2

theorem itemsWellFormed_everyNumber :
    (items : List Json) → ItemsWellFormed items → ItemsEveryNumber JsonNumber.InRange items
  | [], _ => trivial
  | item :: items, ⟨wellFormed, others⟩ =>
    ⟨WellFormed.everyNumber item wellFormed, itemsWellFormed_everyNumber items others⟩

theorem membersWellFormed_everyNumber : (members : List (String × Json)) →
    MembersWellFormed members → MembersEveryNumber JsonNumber.InRange members
  | [], _ => trivial
  | (_, value) :: members, ⟨wellFormed, others⟩ =>
    ⟨WellFormed.everyNumber value wellFormed, membersWellFormed_everyNumber members others⟩

end

end Numbers

/-- **Every well-formed value survives the rule that rounds once.** -/
theorem survives_roundedOnce {value : Json} (wellFormed : value.WellFormed) :
    value.Survives roundedOnce :=
  EveryNumber.imp (fun _ => JsonNumber.survives_roundedOnce) value
    (WellFormed.everyNumber value wellFormed)

/-- **Integers and numbers of few digits survive reading in steps.** -/
theorem survives_stepwise {value : Json} (short : value.EveryNumber JsonNumber.IsShort) :
    value.Survives stepwise :=
  EveryNumber.imp (fun _ => JsonNumber.survives_stepwise) value short

end Json

namespace JsonTree

variable (rule : DecimalRule)

/-! ### Trees -/

theorem skipSpace_cons {c : Char} (visible : isSpace c = false) (rest : List Char) :
    skipSpace (c :: rest) = c :: rest := by
  unfold skipSpace
  rw [List.dropWhile_cons_of_neg (by simp [visible])]

theorem isSpace_of_isDigit {c : Char} (digit : c.isDigit = true) : isSpace c = false := by
  simp only [isSpace, Bool.or_eq_false_iff, decide_eq_false_iff_not]
  refine ⟨⟨⟨?_, ?_⟩, ?_⟩, ?_⟩ <;> rintro rfl <;> cases digit

/-- The text of a value begins with no blank and with no closing bracket. -/
theorem chars_eq_cons (value : Json) :
    ∃ c more, value.chars = c :: more ∧ isSpace c = false ∧ c ≠ ']' := by
  cases value with
  | null => exact ⟨_, _, rfl, rfl, by decide⟩
  | bool value => cases value <;> exact ⟨_, _, rfl, rfl, by decide⟩
  | string value => exact ⟨_, _, rfl, rfl, by decide⟩
  | array items => exact ⟨_, _, rfl, rfl, by decide⟩
  | object members => exact ⟨_, _, rfl, rfl, by decide⟩
  | number number =>
    obtain ⟨c, more, shape, opens⟩ := number.chars_eq_cons
    refine ⟨c, more, shape, ?_⟩
    rcases opens with rfl | digit
    · exact ⟨rfl, by decide⟩
    · exact ⟨isSpace_of_isDigit digit, by rintro rfl; cases digit⟩

/-- A text that begins with a minus or a digit is read as a number. -/
theorem readValue?_number {c : Char} (opens : c = '-' ∨ c.isDigit = true) {text rest : List Char}
    {value : Option JsonNumber} (read : readNumber? rule (c :: text) = some (value, rest))
    (fuel : Nat) :
    readValue? rule (fuel + 1) (c :: text) = some (.number value, rest) := by
  have visible : isSpace c = false := by
    rcases opens with rfl | digit
    · rfl
    · exact isSpace_of_isDigit digit
  have others : c ≠ 'n' ∧ c ≠ 't' ∧ c ≠ 'f' ∧ c ≠ '"' ∧ c ≠ '[' ∧ c ≠ '\x7b' := by
    rcases opens with rfl | digit
    · decide
    · refine ⟨?_, ?_, ?_, ?_, ?_, ?_⟩ <;> rintro rfl <;> cases digit
  rw [readValue?, skipSpace_cons visible]
  obtain ⟨notNull, notTrue, notFalse, notString, notArray, notObject⟩ := others
  split <;> rename_i same
  · cases same; exact absurd rfl notNull
  · cases same; exact absurd rfl notTrue
  · cases same; exact absurd rfl notFalse
  · cases same; exact absurd rfl notString
  · cases same; exact absurd rfl notArray
  · cases same; exact absurd rfl notObject
  · rw [read]
    rfl

theorem readValue?_string {text rest : List Char} {value : Option String}
    (read : readString? text = some (value, rest)) (fuel : Nat) :
    readValue? rule (fuel + 1) ('"' :: text) = some (.string value, rest) := by
  change ((readString? text).bind fun read => some (JsonTree.string read.1, read.2)) = _
  rw [read]
  rfl

theorem readValue?_array {c : Char} (visible : isSpace c = false) (notClosing : c ≠ ']')
    {text rest : List Char} {items : List JsonTree} {fuel : Nat}
    (read : readItems? rule fuel (c :: text) = some (items, rest)) :
    readValue? rule (fuel + 1) ('[' :: c :: text) = some (.array items, rest) := by
  rw [readValue?, skipSpace_cons rfl]
  simp only [skipSpace_cons visible]
  split
  · rename_i same
    cases same
    exact absurd rfl notClosing
  · rw [read]
    rfl

theorem readValue?_object {text rest : List Char} {members : List (Option String × JsonTree)}
    {fuel : Nat} (read : readMembers? rule fuel ('"' :: text) = some (members, rest)) :
    readValue? rule (fuel + 1) ('\x7b' :: '"' :: text) = some (.object members, rest) := by
  change ((readMembers? rule fuel ('"' :: text)).bind
    fun read => some (JsonTree.object read.1, read.2)) = _
  rw [read]
  rfl

theorem readItems?_last {text rest : List Char} {item : JsonTree} {fuel : Nat}
    (read : readValue? rule fuel text = some (item, ']' :: rest)) :
    readItems? rule (fuel + 1) text = some ([item], rest) := by
  rw [readItems?, read]
  rfl

theorem readItems?_more {text next rest : List Char} {item : JsonTree} {items : List JsonTree}
    {fuel : Nat} (read : readValue? rule fuel text = some (item, ',' :: next))
    (readNext : readItems? rule fuel next = some (items, rest)) :
    readItems? rule (fuel + 1) text = some (item :: items, rest) := by
  rw [readItems?, read]
  change ((readItems? rule fuel next).bind fun read => some (item :: read.1, read.2)) = _
  rw [readNext]
  rfl

theorem readMembers?_last {text next rest : List Char} {key : Option String} {value : JsonTree}
    {fuel : Nat} (readKey : readString? text = some (key, ':' :: next))
    (read : readValue? rule fuel next = some (value, '\x7d' :: rest)) :
    readMembers? rule (fuel + 1) ('"' :: text) = some ([(key, value)], rest) := by
  rw [readMembers?, skipSpace_cons rfl]
  simp only [readKey, Option.bind_eq_bind, Option.bind_some, skipSpace_cons (c := ':') rfl, read,
    skipSpace_cons (c := '\x7d') rfl]

theorem readMembers?_more {text next others rest : List Char} {key : Option String}
    {value : JsonTree} {members : List (Option String × JsonTree)} {fuel : Nat}
    (readKey : readString? text = some (key, ':' :: next))
    (read : readValue? rule fuel next = some (value, ',' :: others))
    (readOthers : readMembers? rule fuel others = some (members, rest)) :
    readMembers? rule (fuel + 1) ('"' :: text) = some ((key, value) :: members, rest) := by
  rw [readMembers?, skipSpace_cons rfl]
  simp only [readKey, Option.bind_eq_bind, Option.bind_some, skipSpace_cons (c := ':') rfl, read,
    skipSpace_cons (c := ',') rfl, readOthers]

/-! ### Values -/

theorem endsNumber_separator {c : Char} (separator : c = ',' ∨ c = ']' ∨ c = '\x7d')
    (rest : List Char) :
    EndsNumber (c :: rest) := by
  rcases separator with rfl | rfl | rfl <;> exact endsNumber_cons rfl (by decide) rest

theorem itemChars_cons (item : Json) {items : List Json} (more : items ≠ []) :
    Json.itemChars (item :: items) = item.chars ++ ',' :: Json.itemChars items := by
  rw [Json.itemChars]
  exact more

theorem memberChars_single (key : String) (value : Json) :
    Json.memberChars [(key, value)] =
      '"' :: (key.toList.flatMap Json.escapeChar ++ '"' :: ':' :: (value.chars ++ ['\x7d'])) := by
  simp [Json.memberChars, Json.quote]

theorem memberChars_cons (key : String) (value : Json) {members : List (String × Json)}
    (more : members ≠ []) :
    Json.memberChars ((key, value) :: members) =
      '"' :: (key.toList.flatMap Json.escapeChar ++
        '"' :: ':' :: (value.chars ++ ',' :: Json.memberChars members)) := by
  rw [Json.memberChars]
  · simp [Json.quote]
  · exact more

theorem memberChars_eq_cons {members : List (String × Json)} (present : members ≠ []) :
    ∃ more, Json.memberChars members = '"' :: more := by
  obtain ⟨⟨key, value⟩, others, rfl⟩ := List.exists_cons_of_ne_nil present
  by_cases last : others = []
  · subst last
    exact ⟨_, memberChars_single key value⟩
  · exact ⟨_, memberChars_cons key value last⟩

theorem itemChars_eq_cons {items : List Json} (present : items ≠ []) :
    ∃ c more, Json.itemChars items = c :: more ∧ isSpace c = false ∧ c ≠ ']' := by
  obtain ⟨item, others, rfl⟩ := List.exists_cons_of_ne_nil present
  obtain ⟨c, more, shape, opens⟩ := chars_eq_cons item
  by_cases last : others = []
  · subst last
    exact ⟨c, more ++ [']'], by rw [Json.itemChars, shape, List.cons_append], opens⟩
  · rw [itemChars_cons item last, shape]
    exact ⟨c, _, rfl, opens⟩

mutual

/-- **The text of a value gives its tree**, and what follows it is left. -/
theorem readValue?_chars : (value : Json) → (fuel : Nat) → value.chars.length < fuel →
    (rest : List Char) → EndsNumber rest →
      readValue? rule fuel (value.chars ++ rest) = some (value.rereadTree rule, rest)
  | .null, fuel + 1, _, rest, _ => rfl
  | .bool true, fuel + 1, _, rest, _ => rfl
  | .bool false, fuel + 1, _, rest, _ => rfl
  | .number value, fuel + 1, _, rest, ends => by
    obtain ⟨c, more, shape, opens⟩ := value.chars_eq_cons
    have read := JsonNumber.readNumber?_chars rule value ends
    rw [shape] at read
    rw [Json.chars, shape]
    exact readValue?_number rule opens read fuel
  | .string text, fuel + 1, _, rest, _ => by
    have read := readValue?_string rule (readString?_chars text rest) fuel
    simpa [Json.chars, Json.quote, Json.rereadTree] using read
  | .array items, fuel + 1, enough, rest, _ => by
    by_cases empty : items = []
    · subst empty
      rfl
    obtain ⟨c, more, shape, visible, notClosing⟩ := itemChars_eq_cons empty
    have read := readItems?_chars items empty fuel (Nat.lt_of_succ_lt_succ enough) rest
    rw [shape, List.cons_append] at read
    rw [Json.chars, shape]
    exact readValue?_array rule visible notClosing read
  | .object members, fuel + 1, enough, rest, _ => by
    by_cases empty : members = []
    · subst empty
      rfl
    obtain ⟨more, shape⟩ := memberChars_eq_cons empty
    have read := readMembers?_chars members empty fuel (Nat.lt_of_succ_lt_succ enough) rest
    rw [shape, List.cons_append] at read
    rw [Json.chars, shape]
    exact readValue?_object rule read

/-- The text of the items of an array gives their trees. -/
theorem readItems?_chars : (items : List Json) → items ≠ [] →
    (fuel : Nat) → (Json.itemChars items).length < fuel → (rest : List Char) →
      readItems? rule fuel (Json.itemChars items ++ rest) = some (Json.rereadItems rule items, rest)
  | item :: items, _, fuel + 1, enough, rest => by
    by_cases last : items = []
    · subst last
      rw [Json.itemChars, List.length_append, List.length_singleton] at enough
      rw [Json.itemChars, List.append_assoc]
      exact readItems?_last rule (readValue?_chars item fuel (by omega) _
        (endsNumber_separator (by simp) rest))
    · rw [itemChars_cons item last, List.length_append, List.length_cons] at enough
      rw [itemChars_cons item last, List.append_assoc]
      exact readItems?_more rule
        (readValue?_chars item fuel (by omega) _ (endsNumber_separator (by simp) _))
        (readItems?_chars items last fuel (by omega) rest)

/-- The text of the members of an object gives their trees. -/
theorem readMembers?_chars : (members : List (String × Json)) → members ≠ [] →
    (fuel : Nat) → (Json.memberChars members).length < fuel → (rest : List Char) →
      readMembers? rule fuel (Json.memberChars members ++ rest) =
        some (Json.rereadMembers rule members, rest)
  | (key, value) :: members, _, fuel + 1, enough, rest => by
    by_cases last : members = []
    · subst last
      rw [memberChars_single] at enough ⊢
      simp only [List.length_cons, List.length_append] at enough
      have read := readValue?_chars value fuel (by omega) _
        (endsNumber_separator (c := '\x7d') (by simp) rest)
      simp only [List.cons_append, List.append_assoc, List.nil_append]
      exact readMembers?_last rule (readString?_chars key _) read
    · rw [memberChars_cons key value last] at enough ⊢
      simp only [List.length_cons, List.length_append] at enough
      have read := readValue?_chars value fuel (by omega) _
        (endsNumber_separator (c := ',') (by simp) (Json.memberChars members ++ rest))
      simp only [List.cons_append, List.append_assoc]
      exact readMembers?_more rule (readString?_chars key _) read
        (readMembers?_chars members last fuel (by omega) rest)

end

/-- The members of an object keep their keys. -/
theorem keys_toMembers? {depth : Nat} {members : List (String × Json)}
    {again : List (String × Json)}
    (read : toMembers? depth (Json.rereadMembers rule members) = some again) :
    again.map Prod.fst = members.map Prod.fst := by
  induction members generalizing again with
  | nil =>
    cases read
    rfl
  | cons member members ih =>
    obtain ⟨value, -, read⟩ := Option.bind_eq_some_iff.1 read
    obtain ⟨others, readOthers, read⟩ := Option.bind_eq_some_iff.1 read
    cases read
    rw [List.map_cons, List.map_cons, ih readOthers]

mutual

/-- **The tree of a well-formed value gives the value exactly if all numbers survive**, if the value
is not nested too deep. -/
theorem toJson?_rereadTree_iff : (value : Json) → value.WellFormed → (depth : Nat) →
    value.nesting ≤ depth →
      (toJson? depth (value.rereadTree rule) = some value ↔ value.Survives rule)
  | .null, _, depth, _ => by cases depth <;> exact iff_of_true rfl trivial
  | .bool _, _, depth, _ => by cases depth <;> exact iff_of_true rfl trivial
  | .string _, _, depth, _ => by cases depth <;> exact iff_of_true rfl trivial
  | .number value, _, depth, _ => by
    have step : toJson? depth ((Json.number value).rereadTree rule) =
        (value.reread? rule).map .number := by
      cases depth <;> rfl
    rw [step]
    exact Option.map_eq_some_iff.trans ⟨fun ⟨_, read, same⟩ => Json.number.inj same ▸ read,
      fun survives => ⟨value, survives, rfl⟩⟩
  | .array items, wellFormed, depth + 1, within => by
    have each := toItems?_rereadItems_iff items wellFormed depth (Nat.le_of_succ_le_succ within)
    exact Option.map_eq_some_iff.trans ⟨fun ⟨_, read, same⟩ => each.1 (Json.array.inj same ▸ read),
      fun survive => ⟨items, each.2 survive, rfl⟩⟩
  | .object members, ⟨sorted, wellFormed⟩, depth + 1, within => by
    have each := toMembers?_rereadMembers_iff members wellFormed depth
      (Nat.le_of_succ_le_succ within)
    refine Option.map_eq_some_iff.trans ⟨fun ⟨again, read, same⟩ => each.1 ?_,
      fun survive => ⟨members, each.2 survive, ?_⟩⟩
    · -- The members that were read have the same keys, so that they are in order as well.
      have sortedAgain : again.Pairwise fun a b => a.1 < b.1 := by
        have keys := List.pairwise_map.2 sorted
        rw [← keys_toMembers? rule read] at keys
        exact List.pairwise_map.1 keys
      rw [Json.ofMembers, SortedMap.entries_ofList_of_sorted sortedAgain] at same
      exact Json.object.inj same ▸ read
    · rw [Json.ofMembers, SortedMap.entries_ofList_of_sorted sorted]

theorem toItems?_rereadItems_iff :
    (items : List Json) → Json.ItemsWellFormed items → (depth : Nat) →
    Json.itemNesting items ≤ depth →
      (toItems? depth (Json.rereadItems rule items) = some items ↔
        Json.ItemsEveryNumber (JsonNumber.Survives rule) items)
  | [], _, _, _ => iff_of_true rfl trivial
  | item :: items, ⟨wellFormed, others⟩, depth, within => by
    obtain ⟨first, rest⟩ := Nat.max_le.1 within
    have head := toJson?_rereadTree_iff item wellFormed depth first
    have tail := toItems?_rereadItems_iff items others depth rest
    refine Iff.trans ?_ (and_congr head tail)
    rw [Json.rereadItems, toItems?]
    simp [Option.bind_eq_some_iff]

theorem toMembers?_rereadMembers_iff : (members : List (String × Json)) →
    Json.MembersWellFormed members → (depth : Nat) → Json.memberNesting members ≤ depth →
      (toMembers? depth (Json.rereadMembers rule members) = some members ↔
        Json.MembersEveryNumber (JsonNumber.Survives rule) members)
  | [], _, _, _ => iff_of_true rfl trivial
  | (key, value) :: members, ⟨wellFormed, others⟩, depth, within => by
    obtain ⟨first, rest⟩ := Nat.max_le.1 within
    have head := toJson?_rereadTree_iff value wellFormed depth first
    have tail := toMembers?_rereadMembers_iff members others depth rest
    refine Iff.trans ?_ (and_congr head tail)
    rw [Json.rereadMembers, toMembers?]
    simp [Option.bind_eq_some_iff]

end

end JsonTree

namespace Json

variable (rule : DecimalRule)

/-- **What the text of a value is read as.** -/
theorem readBy?_text (value : Json) :
    readBy? rule value.text = JsonTree.toJson? depthLimit (value.rereadTree rule) := by
  have tree : JsonTree.readBy? rule value.chars = some (value.rereadTree rule) := by
    have read := JsonTree.readValue?_chars rule value (2 * value.chars.length + 2) (by omega) []
      JsonTree.endsNumber_nil
    rw [List.append_nil] at read
    unfold JsonTree.readBy?
    rw [read]
    rfl
  unfold readBy? text
  rw [String.toList_ofList, tree]
  rfl

/-- **The text of a well-formed value is read as the value exactly if all numbers survive**, if the
value is not nested too deep. -/
theorem readBy?_text_iff {value : Json} (wellFormed : value.WellFormed)
    (within : value.nesting ≤ depthLimit) :
    readBy? rule value.text = some value ↔ value.Survives rule := by
  rw [readBy?_text]
  exact JsonTree.toJson?_rereadTree_iff rule value wellFormed depthLimit within

/-- **Different values have different texts**: a reader that rounds once tells them apart. -/
theorem text_injective {first second : Json} (wellFormed : first.WellFormed)
    (wellFormed' : second.WellFormed) (within : first.nesting ≤ depthLimit)
    (within' : second.nesting ≤ depthLimit) (same : first.text = second.text) : first = second := by
  have readFirst := (readBy?_text_iff _ wellFormed within).2 (survives_roundedOnce wellFormed)
  have readSecond := (readBy?_text_iff _ wellFormed' within').2 (survives_roundedOnce wellFormed')
  rw [same] at readFirst
  exact Option.some.inj (readFirst.symm.trans readSecond)

end Json

end CatalogSchema
