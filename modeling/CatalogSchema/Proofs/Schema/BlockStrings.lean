/-
**Descriptions in printed types.**

A block string ends at the first three quotes in a row that are not escaped. The printer escapes
every three quotes in a row, so nothing inside a description ends its block string early. What a
description ends in can run into the closing quotes: a backslash escapes them, and quotes that are
left over close the string too soon.

* `splitBlock?`: where a block string ends, by the rule above.
* `unescapeBlock_escapeBlock`: undoing the escapes gives every text back.
* `EndsClear`: a text that ends in no backslash and in no quotes that are left over.
* `splitBlock?_escapeBlock_iff`: the string ends at its closing quotes exactly after such a text.
* `description_ends_iff`: the same for every description in printed types.
-/

import CatalogSchema.Proofs.Text.Blank
import CatalogSchema.Schema.Printer
import Mathlib.Data.List.Infix
import Mathlib.Data.List.TakeWhile

namespace CatalogSchema

namespace Printer

/-! ### Reading block strings -/

/-- The content before the first three quotes that are not escaped, and what comes after these. -/
def splitBlock? : List Char → Option (List Char × List Char)
  | [] => none
  | '\\' :: '"' :: '"' :: '"' :: rest =>
    (splitBlock? rest).map fun (content, after) => ('\\' :: '"' :: '"' :: '"' :: content, after)
  | '"' :: '"' :: '"' :: rest => some ([], rest)
  | c :: rest => (splitBlock? rest).map fun (content, after) => (c :: content, after)

/-- The content of a block string, and what comes after it. -/
def readBlock? : List Char → Option (List Char × List Char)
  | '"' :: '"' :: '"' :: rest => splitBlock? rest
  | _ => none

/-- Undoes the escapes of a content. -/
def unescapeBlock : List Char → List Char
  | [] => []
  | '\\' :: '"' :: '"' :: '"' :: rest => '"' :: '"' :: '"' :: unescapeBlock rest
  | c :: rest => c :: unescapeBlock rest

/-! ### Escaped texts -/

/-- A character with which no three quotes start stays as it is. -/
theorem escapeBlock_cons {c : Char} {rest : List Char}
    (single : ∀ tail, c = '"' → rest = '"' :: '"' :: tail → False) :
    escapeBlock (c :: rest) = c :: escapeBlock rest := by
  rw [escapeBlock]
  exact single

/-- An escaped text begins with a quote only if the text does, and then not with three. -/
theorem exists_of_starts_with_quote {text after tail : List Char} (present : text ≠ [])
    (same : escapeBlock text ++ after = '"' :: tail) :
    ∃ rest, text = '"' :: rest ∧ escapeBlock rest ++ after = tail ∧
      ∀ others, rest ≠ '"' :: '"' :: others := by
  fun_cases escapeBlock text with
  | case1 => exact absurd rfl present
  | case2 rest =>
    rw [escapeBlock] at same
    cases same
  | case3 c rest single =>
    rw [escapeBlock_cons single] at same
    obtain ⟨rfl, following⟩ := List.cons.inj same
    exact ⟨rest, rfl, following, fun others starts => single others rfl starts⟩

/-- An escaped text with something after it begins with two quotes only if the text does, or ends
before. -/
theorem starts_with_two {text after tail : List Char}
    (same : escapeBlock text ++ after = '"' :: '"' :: tail) :
    text = [] ∨ text = ['"'] ∨ ∃ rest, text = '"' :: '"' :: rest := by
  by_cases empty : text = []
  · exact .inl empty
  obtain ⟨rest, rfl, following, -⟩ := exists_of_starts_with_quote empty same
  by_cases one : rest = []
  · exact .inr (.inl (by rw [one]))
  obtain ⟨others, rfl, -, -⟩ := exists_of_starts_with_quote one following
  exact .inr (.inr ⟨others, rfl⟩)

/-- An escaped text with something after it begins with three quotes only if the text ends before
them. -/
theorem starts_with_three {text after tail : List Char}
    (same : escapeBlock text ++ after = '"' :: '"' :: '"' :: tail) :
    text = [] ∨ text = ['"'] ∨ text = ['"', '"'] := by
  by_cases empty : text = []
  · exact .inl empty
  obtain ⟨rest, rfl, following, notThree⟩ := exists_of_starts_with_quote empty same
  rcases starts_with_two following with rfl | rfl | ⟨others, rfl⟩
  · exact .inr (.inl rfl)
  · exact .inr (.inr rfl)
  · exact absurd rfl (notThree others)

/-- **Undoing the escapes** gives every text back. -/
theorem unescapeBlock_escapeBlock (text : List Char) : unescapeBlock (escapeBlock text) = text := by
  fun_induction escapeBlock text with
  | case1 => rfl
  | case2 rest ih => rw [unescapeBlock, ih]
  | case3 c rest single ih =>
    -- A backslash of the text is not taken for an escape: no three quotes of an escaped text follow
    -- it.
    have notEscape : ∀ tail, c = '\\' → escapeBlock rest = '"' :: '"' :: '"' :: tail → False := by
      intro tail _ same
      have starts : escapeBlock rest ++ [] = '"' :: '"' :: '"' :: tail :=
        (List.append_nil _).trans same
      rcases starts_with_three starts with rfl | rfl | rfl <;> cases same
    rw [unescapeBlock, ih]
    exact notEscape

/-! ### Where a block string ends -/

/-- The number of quotes at the end of a text. -/
def finalQuotes (text : List Char) : Nat := (text.reverse.takeWhile (· = '"')).length

/-- A text ends in no backslash, and the quotes at its end are all escaped, three by three. -/
def EndsClear (text : List Char) : Prop := text.getLast? ≠ some '\\' ∧ 3 ∣ finalQuotes text

instance (text : List Char) : Decidable (EndsClear text) := inferInstanceAs (Decidable (_ ∧ _))

/-- Quotes alone. -/
theorem finalQuotes_of_quotes {text : List Char} (quotes : ∀ c ∈ text, c = '"') :
    finalQuotes text = text.length := by
  unfold finalQuotes
  rw [List.takeWhile_eq_self_iff.2 (by simpa using quotes), List.length_reverse]

/-- What comes before another character than a quote does not count. -/
theorem finalQuotes_append {text : List Char} (other : ∃ c ∈ text, c ≠ '"') (front : List Char) :
    finalQuotes (front ++ text) = finalQuotes text := by
  obtain ⟨c, listed, noQuote⟩ := other
  have short : (text.reverse.takeWhile (· = '"')).length ≠ text.reverse.length := by
    intro same
    have all := List.takeWhile_eq_self_iff.1 ((List.takeWhile_prefix _).eq_of_length same)
    exact noQuote (by simpa using all c (List.mem_reverse.2 listed))
  unfold finalQuotes
  rw [List.reverse_append, List.takeWhile_append, if_neg short]

theorem finalQuotes_cons_of_ne {c : Char} (noQuote : c ≠ '"') (rest : List Char) :
    finalQuotes (c :: rest) = finalQuotes rest := by
  unfold finalQuotes
  rw [List.reverse_cons, List.takeWhile_append]
  split
  · rename_i all
    have same := (List.takeWhile_prefix (l := rest.reverse) (· = '"')).eq_of_length all
    rw [same]
    simp [noQuote]
  · rfl

/-- Three quotes more or less leave as many over. -/
theorem three_dvd_finalQuotes_iff (rest : List Char) :
    3 ∣ finalQuotes ('"' :: '"' :: '"' :: rest) ↔ 3 ∣ finalQuotes rest := by
  by_cases quotes : ∀ c ∈ rest, c = '"'
  · have all : ∀ c ∈ '"' :: '"' :: '"' :: rest, c = '"' := by simpa using quotes
    rw [finalQuotes_of_quotes all, finalQuotes_of_quotes quotes]
    exact (Nat.dvd_add_iff_left (Nat.dvd_refl 3)).symm
  · simp only [not_forall] at quotes
    obtain ⟨c, listed, noQuote⟩ := quotes
    rw [← finalQuotes_append ⟨c, listed, noQuote⟩ ['"', '"', '"']]
    rfl

/-- Three quotes in front of a text change nothing about its end. -/
theorem endsClear_quotes_iff (rest : List Char) :
    EndsClear ('"' :: '"' :: '"' :: rest) ↔ EndsClear rest := by
  unfold EndsClear
  rw [three_dvd_finalQuotes_iff]
  refine and_congr_left fun _ => not_congr ?_
  cases rest with
  | nil => simp
  | cons c rest => simp [List.getLast?_cons_cons]

/-- A character that runs into the closing quotes: a quote that ends the string too soon, or a
backslash that escapes them, with at most the quotes in between that are left over. -/
def MeetsEnd (c : Char) (rest : List Char) : Prop :=
  c = '"' ∧ (rest = [] ∨ rest = ['"']) ∨ c = '\\' ∧ (rest = [] ∨ rest = ['"'] ∨ rest = ['"', '"'])

/-- A quote with which no three quotes start has another character after it, or runs into the
closing quotes. -/
theorem exists_ne_quote {rest : List Char} (single : ∀ tail, rest ≠ '"' :: '"' :: tail)
    (inside : ¬MeetsEnd '"' rest) : ∃ c ∈ rest, c ≠ '"' := by
  rcases rest with _ | ⟨first, rest⟩
  · exact absurd (.inl ⟨rfl, .inl rfl⟩) inside
  by_cases quote : first = '"'
  · subst quote
    rcases rest with _ | ⟨second, rest⟩
    · exact absurd (.inl ⟨rfl, .inr rfl⟩) inside
    · refine ⟨second, by simp, ?_⟩
      rintro rfl
      exact single rest rfl
  · exact ⟨first, List.mem_cons_self, quote⟩

/-- Any other character in front of a text changes nothing about its end. -/
theorem endsClear_cons_iff {c : Char} {rest : List Char}
    (single : ∀ tail, c = '"' → rest = '"' :: '"' :: tail → False) (inside : ¬MeetsEnd c rest) :
    EndsClear (c :: rest) ↔ EndsClear rest := by
  have same : finalQuotes (c :: rest) = finalQuotes rest := by
    by_cases quote : c = '"'
    · subst quote
      have other := exists_ne_quote (fun tail starts => single tail rfl starts) inside
      exact finalQuotes_append other ['"']
    · exact finalQuotes_cons_of_ne quote rest
  unfold EndsClear
  rw [same]
  refine and_congr_left fun _ => not_congr ?_
  cases rest with
  | nil =>
    have noBackslash : c ≠ '\\' := fun backslash => inside (.inr ⟨backslash, .inl rfl⟩)
    simp [noBackslash]
  | cons d rest => rw [List.getLast?_cons_cons]

/-- A character that runs into the closing quotes does not end a text clear. -/
theorem MeetsEnd.not_endsClear {c : Char} {rest : List Char} (meets : MeetsEnd c rest) :
    ¬EndsClear (c :: rest) := by
  rcases meets with ⟨rfl, rfl | rfl⟩ | ⟨rfl, rfl | rfl | rfl⟩ <;> decide

/-! ### Escaped texts between quotes -/

/-- What is read after a character that is read on its own. -/
theorem splitBlock?_cons {c : Char} {rest : List Char}
    (noEscape : ∀ tail, c = '\\' → rest = '"' :: '"' :: '"' :: tail → False)
    (noEnd : ∀ tail, c = '"' → rest = '"' :: '"' :: tail → False) :
    splitBlock? (c :: rest) = (splitBlock? rest).map fun (content, after) =>
      (c :: content, after) := by
  rw [splitBlock?]
  · exact noEscape
  · exact noEnd

/-- The closing quotes of a text that does not run into them are not read with its first
character. -/
theorem splitBlock?_escapeBlock_cons {c : Char} {rest : List Char}
    (single : ∀ tail, c = '"' → rest = '"' :: '"' :: tail → False) (inside : ¬MeetsEnd c rest)
    (after : List Char) :
    splitBlock? (c :: escapeBlock rest ++ '"' :: '"' :: '"' :: after) =
      (splitBlock? (escapeBlock rest ++ '"' :: '"' :: '"' :: after)).map
        fun (content, after) => (c :: content, after) := by
  refine splitBlock?_cons (fun tail backslash starts => ?_) fun tail quote starts => ?_
  · exact inside (.inr ⟨backslash, starts_with_three starts⟩)
  · rcases starts_with_two starts with empty | one | ⟨others, two⟩
    · exact inside (.inl ⟨quote, .inl empty⟩)
    · exact inside (.inl ⟨quote, .inr one⟩)
    · exact single others quote two

/-- A text that runs into the closing quotes is not what is read. -/
theorem MeetsEnd.splitBlock?_ne {c : Char} {rest : List Char} (meets : MeetsEnd c rest)
    (after : List Char) :
    splitBlock? (c :: escapeBlock rest ++ '"' :: '"' :: '"' :: after) ≠
      some (c :: escapeBlock rest, after) := by
  intro read
  rcases meets with ⟨rfl, quotes⟩ | ⟨rfl, quotes⟩
  · -- The content that is read has no quote.
    rcases quotes with rfl | rfl <;> cases read
  · -- The content that is read has three quotes after the backslash.
    rcases quotes with rfl | rfl | rfl <;>
    · change Option.map _ (splitBlock? _) = _ at read
      obtain ⟨_, -, same⟩ := Option.map_eq_some_iff.1 read
      cases same

/-- Something in front of a content is read before it. -/
theorem map_some_iff (front : List Char) {read : Option (List Char × List Char)}
    {content after : List Char} :
    (read.map fun (content, after) => (front ++ content, after)) = some (front ++ content, after) ↔
      read = some (content, after) := by
  rcases read with _ | ⟨content', after'⟩
  · simp
  · simp

/-- **Where a block string ends**: at its closing quotes exactly if the text ends clear of them. -/
theorem splitBlock?_escapeBlock_iff (text after : List Char) :
    splitBlock? (escapeBlock text ++ '"' :: '"' :: '"' :: after) = some (escapeBlock text, after) ↔
      EndsClear text := by
  -- Along the escaper. A character that meets the closing quotes fails both sides; any other leaves
  -- both as they are.
  fun_induction escapeBlock text with
  | case1 => exact ⟨fun _ => by decide, fun _ => rfl⟩
  | case2 rest ih =>
    rw [endsClear_quotes_iff, ← ih]
    exact map_some_iff ['\\', '"', '"', '"']
  | case3 c rest single ih =>
    by_cases meets : MeetsEnd c rest
    · exact iff_of_false (meets.splitBlock?_ne after) meets.not_endsClear
    · rw [endsClear_cons_iff single meets, ← ih, splitBlock?_escapeBlock_cons single meets]
      exact map_some_iff [c]

/-! ### Descriptions in printed types -/

/-- A description that is printed with a type: its own, or that of one of its fields. -/
inductive Describes (pool : TypePool) : SchemaType → String → Prop
  | own {type : SchemaType} {description : String}
      (described : type.description? = some description) :
      Describes pool type description
  | field {serial : Nat} {name description : String} {own : Option String} {field : Field}
      (listed : field ∈ pool.fieldsOf (.object serial name own))
      (described : field.description = some description) :
      Describes pool (.object serial name own) description
  | inputField {serial : Nat} {name description : String} {own : Option String} {field : InputField}
      (listed : field ∈ pool.inputFieldsOf (.inputObject serial name own))
      (described : field.description = some description) :
      Describes pool (.inputObject serial name own) description

/-- Only named types have descriptions. -/
theorem Describes.named {pool : TypePool} {type : SchemaType} {description : String}
    (describes : Describes pool type description) : type.name?.isSome := by
  cases describes with
  | own described =>
    cases type with
    | list | nonNull => cases described
    | _ => rfl
  | field => rfl
  | inputField => rfl

theorem blockString_infix_descriptionLine (indent : List Char) (description : String) :
    blockString description.toList ++ ['\n'] <:+: descriptionLine indent (some description) :=
  ⟨indent, [], by rw [List.append_nil, ← List.append_assoc, descriptionLine]⟩

theorem blockString_infix_fieldLines (name description : String) (type : SchemaType) :
    blockString description.toList ++ ['\n'] <:+: fieldLines name (some description) type := by
  have first := blockString_infix_descriptionLine [' ', ' '] description
  unfold fieldLines
  simp only [List.append_assoc]
  exact first.trans (List.prefix_append _ _).isInfix

/-- What stands in the lines of a field stands in the block of the fields. -/
theorem infix_block {α : Type} (keyword name : String) {field : α} {fields : List α}
    (lines : α → List Char) (listed : field ∈ fields) {part : List Char}
    (inField : part <:+: lines field) :
    part <:+: heading keyword name ++ braces (fields.flatMap lines) := by
  have inFields : part <:+: fields.flatMap lines :=
    inField.trans (List.infix_of_mem_flatten (List.mem_map_of_mem listed))
  refine inFields.trans ⟨heading keyword name ++ [' ', '\x7b', '\n'], ['\x7d', '\n'], ?_⟩
  simp only [braces, List.append_assoc]

/-- The description line of a type is among its lines. -/
theorem Describes.blockString_infix {pool : TypePool} {type : SchemaType} {description : String}
    (describes : Describes pool type description) :
    blockString description.toList ++ ['\n'] <:+: typeLines pool type := by
  unfold typeLines
  cases describes with
  | own described =>
    rw [described]
    exact (blockString_infix_descriptionLine [] description).trans (List.prefix_append _ _).isInfix
  | @field serial name description own field listed described =>
    have inField := blockString_infix_fieldLines field.name description field.type
    rw [← described] at inField
    exact (infix_block "type" name _ listed inField).trans (List.suffix_append _ _).isInfix
  | @inputField serial name description own field listed described =>
    have inField := blockString_infix_fieldLines field.name description field.type
    rw [← described] at inField
    exact (infix_block "input" name _ listed inField).trans (List.suffix_append _ _).isInfix

theorem mem_namedInOrder {types : List SchemaType} {type : SchemaType} (listed : type ∈ types)
    (named : type.name?.isSome) : type ∈ namedInOrder types :=
  List.mem_mergeSort.2 (List.mem_filter.2 ⟨listed, named⟩)

/-- The lines of a named type are among the printed lines. -/
theorem typeLines_infix_printTypes (pool : TypePool) {types : List SchemaType} {type : SchemaType}
    (listed : type ∈ types) (named : type.name?.isSome) :
    typeLines pool type <:+: (printTypes pool types).toList := by
  unfold printTypes
  rw [String.toList_ofList]
  exact Text.infix_join_of_mem (List.mem_map_of_mem (mem_namedInOrder listed named))

end Printer

open Printer in
/-- **Where the block string of a description ends.** Among the printed lines every description of a
named type stands as a block string on a line of its own. It is read back up to the closing quotes,
no less and no more, exactly if the description ends clear of them; undoing the escapes always gives
the description. -/
theorem description_ends_iff (pool : TypePool) {types : List SchemaType} {type : SchemaType}
    (listed : type ∈ types) {description : String} (describes : Describes pool type description) :
    ∃ before after, (printTypes pool types).toList = before ++ blockString description.toList ++
      '\n' :: after ∧
      (readBlock? (blockString description.toList ++ '\n' :: after) =
          some (escapeBlock description.toList, '\n' :: after) ↔ EndsClear description.toList) ∧
      unescapeBlock (escapeBlock description.toList) = description.toList := by
  have printedWith := typeLines_infix_printTypes pool listed describes.named
  obtain ⟨before, after, printed⟩ := describes.blockString_infix.trans printedWith
  refine ⟨before, after, ?_, ?_, unescapeBlock_escapeBlock _⟩
  · rw [← printed]
    simp only [List.append_assoc, List.singleton_append]
  · rw [← splitBlock?_escapeBlock_iff description.toList ('\n' :: after)]
    simp only [blockString, readBlock?, List.append_assoc, List.cons_append, List.nil_append]

open Printer in
/-- Quotes in the middle of a field's description do no harm, and neither do three at its end. -/
theorem description_ends_iff_motto :
    let note : SchemaType := .object 0 "Note" none
    let motto := "say \"\" and \"\"\"\"hi\"\"\""
    let pool : TypePool := {
      next := 2
      fields := .ofList
        [(0, [⟨"motto", some motto, .scalar 1 "String" none .string, .property "motto"⟩])]
      inputFields := .empty }
    note ∈ [note] ∧ Describes pool note motto ∧ EndsClear motto.toList ∧
      ∃ before after, (printTypes pool [note]).toList = before ++ blockString motto.toList ++
        '\n' :: after ∧
        readBlock? (blockString motto.toList ++ '\n' :: after) =
          some (escapeBlock motto.toList, '\n' :: after) ∧
        unescapeBlock (escapeBlock motto.toList) = motto.toList := by
  intro note motto pool
  have listed : note ∈ [note] := List.mem_singleton_self note
  have inNote : ⟨"motto", some motto, .scalar 1 "String" none .string, .property "motto"⟩ ∈
      pool.fieldsOf note :=
    List.mem_singleton_self _
  have describes : Describes pool note motto := .field inNote rfl
  have clear : EndsClear motto.toList := by decide
  obtain ⟨before, after, printed, ends, undone⟩ := description_ends_iff pool listed describes
  exact ⟨listed, describes, clear, before, after, printed, ends.2 clear, undone⟩

open Printer in
/-- A quote at the end of a description closes its block string one character too soon, and a
backslash keeps the block string from ever closing. -/
theorem description_runs_into_quotes :
    let pool : TypePool := ⟨1, .empty, .empty⟩
    let word (description : String) : SchemaType := .scalar 0 "Word" (some description) .string
    (printTypes pool [word "say \"hi\""]).toList =
        blockString "say \"hi\"".toList ++ "\nscalar Word\n".toList ∧
      readBlock? (printTypes pool [word "say \"hi\""]).toList =
        some ("say \"hi".toList, "\"\nscalar Word\n".toList) ∧
      readBlock? (printTypes pool [word "C:\\"]).toList = none := by
  decide +kernel

end CatalogSchema
