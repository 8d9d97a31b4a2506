/-
**Which texts pass as numbers of any size.**

A text passes if it is made of the characters of numbers, whatever their order. So every decimal
number passes, and with them the garbled texts, whose characters make up no number.

* `looksNumeric_iff`: the texts that look like numbers are those of numbers and the garbled ones.
* `readTrimmed?_of_isGarbled`: no garbled text is read as a number.
* `big_number_texts`: what the conversion of big numbers takes and passes on.
-/

import CatalogSchema.Proofs.Conversion.Decoding
import CatalogSchema.Proofs.Number.Decimals

namespace CatalogSchema

open Number Text

/-! ### Texts of numbers -/

/-- **The text of a number** of any size: between blanks, the name of a special value or a decimal
number. -/
def IsNumberText (text : String) : Prop :=
  trim text.toList ∈ ["NaN".toList, "Infinity".toList, "-Infinity".toList] ∨
    IsDecimal (trim text.toList)

/-- Characters of numbers that make up no number between the blanks: signs, points, digits and marks
of exponents are out of order, too many or too few. -/
structure IsGarbled (text : String) : Prop where
  present : trim text.toList ≠ []
  numeral : ∀ c ∈ trim text.toList, isNumeralChar c = true
  unordered : ¬ IsDecimal (trim text.toList)

theorem isNumeralChar_of_isSign {sign : List Char} (signed : IsSign sign) :
    ∀ c ∈ sign, isNumeralChar c = true := by
  cases signed with
  | none => exact List.forall_mem_nil _
  | minus => exact List.forall_mem_singleton.2 rfl
  | plus => exact List.forall_mem_singleton.2 rfl

/-- A decimal number is made of the characters of numbers. -/
theorem isNumeralChar_of_isDecimal {text : List Char} (decimal : IsDecimal text) :
    ∀ c ∈ text, isNumeralChar c = true := by
  have digits {row : List Char} (isDigits : ∀ c ∈ row, c.isDigit = true) :
      ∀ c ∈ row, isNumeralChar c = true :=
    fun c listed => isNumeralChar_of_isDigit (isDigits c listed)
  obtain ⟨signed, valued, scaled⟩ := decimal
  refine List.forall_mem_append.2
    ⟨isNumeralChar_of_isSign signed, List.forall_mem_append.2 ⟨?_, ?_⟩⟩
  · cases valued with
    | whole present row => exact digits row
    | pointed present rowWhole rowFraction =>
      exact List.forall_mem_append.2
        ⟨digits rowWhole, List.forall_mem_cons.2 ⟨rfl, digits rowFraction⟩⟩
  · cases scaled with
    | none => exact List.forall_mem_nil _
    | power marked signed row =>
      refine List.forall_mem_cons.2 ⟨?_, List.forall_mem_append.2
        ⟨isNumeralChar_of_isSign signed, digits (isDigitRow_iff.1 row).2⟩⟩
      rcases marked with rfl | rfl <;> rfl

variable {text : String}

/-- **The texts that look like numbers** are those of numbers and the garbled ones. -/
theorem looksNumeric_iff : looksNumeric text = true ↔ IsNumberText text ∨ IsGarbled text := by
  have look : looksNumeric text = true ↔
      trim text.toList ∈ ["NaN".toList, "Infinity".toList, "-Infinity".toList] ∨
        trim text.toList ≠ [] ∧ ∀ c ∈ trim text.toList, isNumeralChar c = true := by
    unfold looksNumeric
    dsimp only
    generalize trim text.toList = trimmed
    simp only [Bool.or_eq_true, Bool.and_eq_true, decide_eq_true_eq, List.all_eq_true,
      List.mem_cons, List.not_mem_nil, or_false, or_assoc, Bool.not_eq_true',
      List.isEmpty_eq_false_iff]
  rw [look]
  unfold IsNumberText
  constructor
  · rintro (special | ⟨present, numeral⟩)
    · exact .inl (.inl special)
    · by_cases decimal : IsDecimal (trim text.toList)
      · exact .inl (.inr decimal)
      · exact .inr ⟨present, numeral, decimal⟩
  · rintro ((special | decimal) | garbled)
    · exact .inl special
    · exact .inr ⟨decimal.ne_nil, isNumeralChar_of_isDecimal decimal⟩
    · exact .inr ⟨garbled.present, garbled.numeral⟩

/-- **No garbled text is read as a number.** -/
theorem readTrimmed?_of_isGarbled (garbled : IsGarbled text) : readTrimmed? text = none := by
  by_contra read
  rcases readBinary64?_ne_none_iff.1 read with decimal | special
  · exact garbled.unordered decimal
  · obtain ⟨c, listed, rfl | rfl⟩ := special.exists_letter
    · exact absurd (garbled.numeral _ listed) Bool.false_ne_true
    · exact absurd (garbled.numeral _ listed) Bool.false_ne_true

/-- Every number is printed as the text of a number. -/
theorem isNumberText_text (number : JsonNumber) : IsNumberText number.text := by
  have visible : ∀ c ∈ number.chars, isBlank c = false :=
    fun c found => isBlank_of_isNumeralChar (isNumeralChar_of_mem_chars found)
  obtain ⟨negative, spelling, proper, shape⟩ := number.exists_spelling
  right
  unfold JsonNumber.text
  rw [String.toList_ofList, trim_of_no_blank visible, shape]
  exact isDecimal_of_proper proper negative

/-! ### The conversion -/

namespace Codec

/-- A text is shown and sent as it stands. -/
structure TakesNumber (type : QualifiedName) (text : String) : Prop where
  shown : (Codec.bigNumber type).decode (.string text) = .ok (.string text)
  sent : (Codec.bigNumber type).encode (.string text) = .ok (.cast (.value (.string text)) type)

theorem decode_bigNumber_string (type : QualifiedName) (text : String) :
    (Codec.bigNumber type).decode (.string text) =
      if looksNumeric text then .ok (.string text) else .error (.malformedNumber text) := by
  change Json.string <$> readBigNumber (.string text) = _
  rw [readBigNumber]
  split <;> rfl

theorem encode_bigNumber_string (type : QualifiedName) (text : String) :
    (Codec.bigNumber type).encode (.string text) =
      if looksNumeric text then .ok (.cast (.value (.string text)) type)
        else .error (.malformedNumber text) := by
  change (fun text => Fragment.cast (.value (.string text)) type) <$>
      readBigNumber (.string text) = _
  rw [readBigNumber]
  split <;> rfl

/-- **Which texts are taken as big numbers.** A text is shown and sent exactly if it is the text of
a number or a garbled one, which no reader of numbers reads; it passes unchanged then. Every number
is taken, and printed as the text of a number. -/
theorem big_number_texts (type : QualifiedName) (text : String) (number : JsonNumber) :
    ((∃ shown, (Codec.bigNumber type).decode (.string text) = .ok shown) ↔
      IsNumberText text ∨ IsGarbled text) ∧
    ((∃ sent, (Codec.bigNumber type).encode (.string text) = .ok sent) ↔
      IsNumberText text ∨ IsGarbled text) ∧
    (IsNumberText text ∨ IsGarbled text → TakesNumber type text) ∧
    (IsGarbled text → readTrimmed? text = none) ∧
    (Codec.bigNumber type).decode (.number number) = .ok (.string number.text) ∧
    (Codec.bigNumber type).encode (.number number) =
      .ok (.cast (.value (.string number.text)) type) ∧
    IsNumberText number.text ∧ TakesNumber type number.text := by
  have takes {text : String} (looks : looksNumeric text = true) : TakesNumber type text := by
    refine ⟨?_, ?_⟩
    · rw [decode_bigNumber_string, if_pos looks]
    · rw [encode_bigNumber_string, if_pos looks]
  have printed := isNumberText_text number
  refine ⟨⟨?_, fun looks => ⟨_, (takes (looksNumeric_iff.2 looks)).shown⟩⟩,
    ⟨?_, fun looks => ⟨_, (takes (looksNumeric_iff.2 looks)).sent⟩⟩,
    fun looks => takes (looksNumeric_iff.2 looks), readTrimmed?_of_isGarbled, rfl, rfl, printed,
    takes (looksNumeric_iff.2 (.inl printed))⟩
  · rintro ⟨shown, decoded⟩
    rw [decode_bigNumber_string] at decoded
    split at decoded
    · rename_i looks
      exact looksNumeric_iff.1 looks
    · cases decoded
  · rintro ⟨sent, encoded⟩
    rw [encode_bigNumber_string] at encoded
    split at encoded
    · rename_i looks
      exact looksNumeric_iff.1 looks
    · cases encoded

/-- The text `1-2` is garbled: it has two runs of digits and a sign between them. -/
theorem isGarbled_twoRuns : IsGarbled "1-2" where
  present := by decide +kernel
  numeral := by
    have text : trim "1-2".toList = ['1', '-', '2'] := by decide +kernel
    rw [text]
    exact List.all_eq_true.1 rfl
  unordered decimal := readBinary64?_ne_none_iff.2 (.inl decimal) (by decide +kernel)

/-- A garbled text and a number beyond 53 bits. -/
theorem big_number_texts_garbled :
    IsGarbled "1-2" ∧ TakesNumber (.inCatalog "int8") "1-2" ∧ readTrimmed? "1-2" = none ∧
      TakesNumber (.inCatalog "int8") "9007199254740993" := by
  obtain ⟨-, -, taken, unread, -, -, -, printed⟩ :=
    big_number_texts (.inCatalog "int8") "1-2" (.integer 9007199254740993)
  exact ⟨isGarbled_twoRuns, taken (.inr isGarbled_twoRuns), unread isGarbled_twoRuns, printed⟩

/-- **A text that is no number is taken as one.** -/
theorem garbled_text_taken :
    (Codec.bigNumber (.inCatalog "int8")).decode (.string "1-2") = .ok (.string "1-2") ∧
      ¬ IsNumberText "1-2" := by
  refine ⟨?_, ?_⟩
  · rw [decode_bigNumber_string, if_pos (looksNumeric_iff.2 (.inr isGarbled_twoRuns))]
  · rintro (special | decimal)
    · revert special
      decide +kernel
    · exact isGarbled_twoRuns.unordered decimal

end Codec

end CatalogSchema
