/-
**Range literals as the server writes them.**

The server writes a missing bound as nothing, a bound without special characters as it is, and any
other bound in quotes, with quotes and backslashes doubled.

* `Range.Prints`: how a bound is written.
* `splitBounds?_printed`: the comma behind a written bound is the one at which the literal is cut.
* `boundText?_printed`: what was written is undone.
* `decode_printed_range`: so a literal is decoded to its two bounds.
-/

import CatalogSchema.Proofs.Conversion.Decoding

namespace CatalogSchema

open Text

namespace Range

/-! ### Writing a bound -/

/-- Holds of the characters for which a bound is put in quotes. -/
def isSpecial (c : Char) : Bool :=
  c = '"' || c = '\\' || c = '(' || c = ')' || c = '[' || c = ']' || c = ',' || isBlank c

/-- A character inside quotes. -/
def doubled (c : Char) : List Char := if c = '"' ∨ c = '\\' then [c, c] else [c]

/-- A text in quotes. -/
def inQuotes (text : List Char) : List Char := '"' :: (text.flatMap doubled ++ ['"'])

/-- The server writes a bound, if there is one, as a text. -/
inductive Prints : Option (List Char) → List Char → Prop
  | missing : Prints none []
  | raw {text : List Char} (present : text ≠ []) (plain : ∀ c ∈ text, isSpecial c = false) :
      Prints (some text) text
  | quoted (text : List Char) : Prints (some text) (inQuotes text)

/-- The bracket before the first bound. -/
def opening (inclusive : Bool) : Char := if inclusive then '[' else '('

/-- The bracket behind the last bound. -/
def closing (inclusive : Bool) : Char := if inclusive then ']' else ')'

/-- The literal of two written bounds. -/
def literalOf (startInclusive stopInclusive : Bool) (start stop : List Char) : List Char :=
  opening startInclusive :: (start ++ ',' :: stop) ++ [closing stopInclusive]

/-! ### Cutting a literal -/

/-- Puts characters in front of the first of two pieces. -/
def behind (front : List Char) (pieces : List Char × List Char) : List Char × List Char :=
  (front ++ pieces.1, pieces.2)

theorem behind_comp (first second : List Char) :
    behind first ∘ behind second = behind (first ++ second) :=
  funext fun pieces => by simp [behind]

/-- Outside quotes, a character that is neither a quote nor a backslash nor a comma is passed
over. -/
theorem splitBounds?_cons {c : Char} (plain : c ≠ '"' ∧ c ≠ '\\' ∧ c ≠ ',') (rest : List Char) :
    splitBounds? false false (c :: rest) = (splitBounds? false false rest).map (behind [c]) := by
  obtain ⟨noQuote, noBackslash, noComma⟩ := plain
  rw [splitBounds?]
  simp only [Bool.false_eq_true, if_false, noQuote, noBackslash, noComma, false_and]
  rfl

/-- Inside quotes, a character that is written there is passed over: two quotes end the quoted text
and start it again, and the second of two backslashes is hidden by the first. -/
theorem splitBounds?_doubled (c : Char) (rest : List Char) :
    splitBounds? true false (doubled c ++ rest) =
      (splitBounds? true false rest).map (behind (doubled c)) := by
  unfold doubled
  by_cases quote : c = '"'
  · subst quote
    simp only [splitBounds?, true_or, if_true, List.cons_append, List.nil_append]
    exact Option.map_map ..
  · by_cases backslash : c = '\\'
    · subst backslash
      simp only [splitBounds?, or_true, if_true, List.cons_append, List.nil_append]
      exact Option.map_map ..
    · simp only [splitBounds?, quote, backslash, or_self, if_false, List.cons_append,
        List.nil_append, Bool.true_eq_false, Bool.false_eq_true, and_false]
      rfl

/-- **A quoted text is passed over.** -/
theorem splitBounds?_inQuotes (text rest : List Char) :
    splitBounds? false false (inQuotes text ++ rest) =
      (splitBounds? false false rest).map (behind (inQuotes text)) := by
  have inside : splitBounds? true false (text.flatMap doubled ++ '"' :: rest) =
      (splitBounds? false false rest).map (behind (text.flatMap doubled ++ ['"'])) := by
    induction text with
    | nil => rfl
    | cons c text ih =>
      rw [List.flatMap_cons, List.append_assoc, splitBounds?_doubled, ih,
        Option.map_map, behind_comp, List.append_assoc]
  have opened : splitBounds? false false (inQuotes text ++ rest) =
      (splitBounds? true false (text.flatMap doubled ++ '"' :: rest)).map (behind ['"']) := by
    unfold inQuotes
    rw [List.cons_append, List.append_assoc]
    rfl
  rw [opened, inside, Option.map_map, behind_comp]
  rfl

/-- **The comma behind a written bound** is the first one outside quotes. -/
theorem splitBounds?_printed {bound : Option (List Char)} {printed : List Char}
    (prints : Prints bound printed) (rest : List Char) :
    splitBounds? false false (printed ++ ',' :: rest) = some (printed, rest) := by
  cases prints with
  | missing => rfl
  | quoted text =>
    rw [splitBounds?_inQuotes]
    simp [splitBounds?, behind]
  | raw present plain =>
    clear present
    induction printed with
    | nil => rfl
    | cons c text ih =>
      have special := plain c List.mem_cons_self
      have passed : c ≠ '"' ∧ c ≠ '\\' ∧ c ≠ ',' := by
        refine ⟨?_, ?_, ?_⟩ <;> rintro rfl <;> cases special
      rw [List.cons_append, splitBounds?_cons passed, ih fun other listed =>
          plain other (.tail _ listed)]
      rfl

/-! ### Reading a bound -/

theorem unescape_doubled (c : Char) (rest : List Char) :
    unescape (doubled c ++ rest) = c :: unescape rest := by
  unfold doubled
  by_cases quote : c = '"'
  · subst quote
    simp [unescape]
  · by_cases backslash : c = '\\'
    · subst backslash
      simp [unescape]
    · simp [unescape, quote, backslash]

/-- **Undoing what stands in quotes** gives the text that was put there. -/
theorem unescape_flatMap_doubled (text : List Char) : unescape (text.flatMap doubled) = text := by
  induction text with
  | nil => rfl
  | cons c text ih => rw [List.flatMap_cons, unescape_doubled, ih]

theorem unquote_inQuotes (text : List Char) : unquote (inQuotes text) = text := by
  show (if (text.flatMap doubled ++ ['"']).getLast? = some '"' then
    unescape (text.flatMap doubled ++ ['"']).dropLast else inQuotes text) = text
  rw [List.getLast?_concat, if_pos rfl, List.dropLast_concat, unescape_flatMap_doubled]

/-- **A written bound is read as the bound.** -/
theorem boundText?_printed {bound : Option (List Char)} {printed : List Char}
    (prints : Prints bound printed) :
    boundText? printed = bound := by
  cases prints with
  | missing => rfl
  | quoted text => exact congrArg some (unquote_inQuotes text)
  | raw present plain =>
    obtain ⟨c, text, rfl⟩ := List.exists_cons_of_ne_nil present
    have noQuote : c ≠ '"' := by
      rintro rfl
      cases plain '"' List.mem_cons_self
    show some (unquote (c :: text)) = _
    simp [unquote, noQuote]

theorem openBound_printed {bound : Option (List Char)} {printed : List Char}
    (prints : Prints bound printed) (inclusive : Bool) :
    openBound (opening inclusive :: printed) = .ok ⟨inclusive, bound⟩ := by
  rw [← boundText?_printed prints]
  cases inclusive <;> rfl

theorem closeBound_printed {bound : Option (List Char)} {printed : List Char}
    (prints : Prints bound printed) (inclusive : Bool) :
    closeBound (printed ++ [closing inclusive]) = .ok ⟨inclusive, bound⟩ := by
  unfold closeBound
  rw [List.getLast?_concat, List.dropLast_concat, boundText?_printed prints]
  cases inclusive <;> rfl

section Literal

variable {first last : Option (List Char)} {start stop : List Char}
  (startInclusive stopInclusive : Bool)

/-- A literal is not that of the empty range: it starts with a bracket. -/
theorem isEmptyLiteral_literalOf :
    isEmptyLiteral (literalOf startInclusive stopInclusive start stop) = false := by
  have bracket : (opening startInclusive).toLower ≠ 'e' := by cases startInclusive <;> decide
  refine decide_eq_false fun empty => bracket ?_
  exact (List.cons.inj empty).1

/-- **A literal is cut into its two bounds.** -/
theorem readLiteral_literalOf (printsFirst : Prints first start) (printsLast : Prints last stop) :
    readLiteral (literalOf startInclusive stopInclusive start stop) =
      .ok (⟨startInclusive, first⟩, ⟨stopInclusive, last⟩) := by
  have bracket : opening startInclusive ≠ '"' ∧ opening startInclusive ≠ '\\' ∧
      opening startInclusive ≠ ',' := by cases startInclusive <;> decide
  have split : splitBounds? false false (literalOf startInclusive stopInclusive start stop) =
      some (opening startInclusive :: start, stop ++ [closing stopInclusive]) := by
    unfold literalOf
    rw [List.cons_append, List.append_assoc, List.cons_append, splitBounds?_cons bracket,
      splitBounds?_printed printsFirst]
    rfl
  unfold readLiteral
  rw [split]
  dsimp only
  rw [openBound_printed printsFirst, closeBound_printed printsLast]
  rfl

/-- Trimming leaves a literal of the blanks around it. -/
theorem trim_literalOf {before after : List Char}
    (blank : ∀ c ∈ before ++ after, isBlank c = true) :
    trim (before ++ (literalOf startInclusive stopInclusive start stop ++ after)) =
      literalOf startInclusive stopInclusive start stop := by
  have first : ∀ c ∈ (literalOf startInclusive stopInclusive start stop).head?,
      isBlank c = false := by
    rintro _ ⟨⟩
    cases startInclusive <;> rfl
  have last : ∀ c ∈ (literalOf startInclusive stopInclusive start stop).getLast?,
      isBlank c = false := by
    unfold literalOf
    rw [List.getLast?_concat]
    rintro _ ⟨⟩
    cases stopInclusive <;> rfl
  exact trim_around blank first last

end Literal

end Range

namespace Codec

/-- **A range is decoded as the server has written it.** Between the brackets stand the two bounds,
each missing, raw or in quotes; there may be blanks around the literal. The object has null for a
missing bound, and for another one what the codec of the subtype decodes its text to, with the flag
of the bracket. Only the codec of the subtype can fail, and the error is that of the first bound if
it fails there. -/
theorem decode_printed_range (constructor : QualifiedName) (sub : Codec)
    {first last : Option (List Char)} {start stop before after : List Char}
    (printsFirst : Range.Prints first start) (printsLast : Range.Prints last stop)
    (blank : ∀ c ∈ before ++ after, isBlank c = true) (startInclusive stopInclusive : Bool) :
    (Codec.range constructor sub).decode
        (.string (String.ofList
          (before ++ (Range.literalOf startInclusive stopInclusive start stop ++ after)))) =
      (do
        let start ← sub.decodeEdge ⟨startInclusive, first⟩
        let stop ← sub.decodeEdge ⟨stopInclusive, last⟩
        return Range.toObject start stop) := by
  have literal : trim (String.ofList
      (before ++ (Range.literalOf startInclusive stopInclusive start stop ++ after))).toList =
        Range.literalOf startInclusive stopInclusive start stop := by
    rw [String.toList_ofList]
    exact Range.trim_literalOf startInclusive stopInclusive blank
  have notEmpty :
      Range.isEmptyLiteral (Range.literalOf startInclusive stopInclusive start stop) = false :=
    Range.isEmptyLiteral_literalOf startInclusive stopInclusive
  unfold decode
  rw [decodeWith, literal, decodeRange, if_neg (by simp [notEmpty]),
    Range.readLiteral_literalOf startInclusive stopInclusive printsFirst printsLast]
  simp only [run_bind, run_decodeBound]
  rfl

/-- A bound with a quote, a backslash, a comma and a bracket, and one without, between blanks. If
both texts are refused by the codec of the subtype, the error is that of the first. -/
theorem decode_printed_range_sample :
    Range.Prints (some ['a', '"', '\\', ',', ']']) ['"', 'a', '"', '"', '\\', '\\', ',', ']', '"'] ∧
    Range.Prints (some ['z']) ['z'] ∧ (∀ c ∈ [' ', '\n'] ++ ['\t'], isBlank c = true) ∧
    (Codec.range ⟨"app", "spans"⟩ (.identity ⟨"app", "label"⟩)).decode
        (.string " \n[\"a\"\"\\\\,]\",z)\t") =
      .ok (Range.toObject (Range.boundObject (.string "a\"\\,]") true)
        (Range.boundObject (.string "z") false)) ∧
    (Codec.range ⟨"app", "spans"⟩ (.integer ⟨"app", "count"⟩)).decode
        (.string " \n[\"a\"\"\\\\,]\",z)\t") = .error (.malformedNumber "a\"\\,]") := by
  have first : Range.Prints (some ['a', '"', '\\', ',', ']'])
      ['"', 'a', '"', '"', '\\', '\\', ',', ']', '"'] := .quoted _
  have last : Range.Prints (some ['z']) ['z'] := .raw nofun (List.forall_mem_singleton.2 rfl)
  have blank : ∀ c ∈ [' ', '\n'] ++ ['\t'], isBlank c = true := List.all_eq_true.1 rfl
  exact ⟨first, last, blank, decode_printed_range _ _ first last blank true false,
    decode_printed_range _ _ first last blank true false⟩

end Codec

end CatalogSchema
