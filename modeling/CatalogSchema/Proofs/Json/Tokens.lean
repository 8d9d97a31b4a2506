/-
**The tokens of a document read back.**

A reader is given a written token and whatever follows it, and leaves what follows. After a number
this must be something that does not go on with the number (`EndsNumber`). What a floating point
number is read as depends on the rule that the reader has for decimal numbers: a number survives a
rule if its own text is read as the number (`JsonNumber.Survives`).

* `readString?_chars`: the text of a string.
* `readUnsigned?_text`: proper spellings of numbers.
* `readNumber?_chars`: what follows the text of a number does not change how it is read.
* `survives_integer`: integers survive every rule.
* `survives_roundedOnce`: every number survives the rule that rounds once.
* `survives_stepwise`: numbers of few digits survive reading in steps.
-/

import CatalogSchema.Json.Reader
import CatalogSchema.Json.Writer
import CatalogSchema.Proofs.Number.Spelling
import CatalogSchema.Proofs.Number.Stepwise

namespace CatalogSchema

open Number

namespace JsonTree

/-! ### Strings -/

theorem hexValue?_hexDigit {value : Nat} (small : value < 16) :
    hexValue? (hexDigit value) = some value := by
  have all : ∀ value : Fin 16, hexValue? (hexDigit value) = some value.val := by decide
  exact all ⟨value, small⟩

theorem readCodes?_plain {c : Char} (notQuote : c ≠ '"') (notBackslash : c ≠ '\\')
    (visible : ¬ c.toNat < 0x20) (rest : List Char) :
    readCodes? (c :: rest) = (readCodes? rest).map fun (codes, rest) =>
      (c.toNat :: codes, rest) := by
  rw [readCodes?]
  · rw [if_neg (by simp [notBackslash, visible])]
    cases readCodes? rest <;> rfl
  · exact notQuote
  · exact fun _ _ _ _ _ same => absurd same notBackslash
  · exact fun _ _ same => absurd same notBackslash

theorem readCodes?_simple {c : Char} {code : Nat} (simple : simpleEscape? c = some code)
    (rest : List Char) :
    readCodes? ('\\' :: c :: rest) =
      (readCodes? rest).map fun (codes, rest) => (code :: codes, rest) := by
  rw [readCodes?]
  · rw [simple]
    cases readCodes? rest <;> rfl
  · rintro _ _ _ _ _ rfl
    cases simple

theorem readCodes?_hex {a b c d : Char} {code : Nat} (value : hexValue4? a b c d = some code)
    (rest : List Char) :
    readCodes? ('\\' :: 'u' :: a :: b :: c :: d :: rest) =
      (readCodes? rest).map fun (codes, rest) => (code :: codes, rest) := by
  rw [readCodes?, value]
  cases readCodes? rest <;> rfl

/-- The code of a character comes back from the way it is written. -/
theorem readCodes?_escapeChar (c : Char) (rest : List Char) :
    readCodes? (Json.escapeChar c ++ rest) =
      (readCodes? rest).map fun (codes, rest) => (c.toNat :: codes, rest) := by
  have simple {written : Char} (escape : simpleEscape? written = some c.toNat) :=
    readCodes?_simple escape rest
  unfold Json.escapeChar
  by_cases quote : c = '"'
  · subst quote
    exact simple rfl
  by_cases backslash : c = '\\'
  · subst backslash
    exact simple rfl
  by_cases newline : c = '\n'
  · subst newline
    exact simple rfl
  by_cases carriage : c = '\r'
  · subst carriage
    exact simple rfl
  by_cases tab : c = '\t'
  · subst tab
    exact simple rfl
  by_cases backspace : c = '\x08'
  · subst backspace
    exact simple rfl
  by_cases feed : c = '\x0c'
  · subst feed
    exact simple rfl
  simp only [if_neg quote, if_neg backslash, if_neg newline, if_neg carriage, if_neg tab,
    if_neg backspace, if_neg feed]
  by_cases control : c.toNat < 0x20
  · rw [if_pos control]
    have value : hexValue4? '0' '0' (hexDigit (c.toNat / 16)) (hexDigit (c.toNat % 16)) =
        some c.toNat := by
      have zero : hexValue? '0' = some 0 := rfl
      have whole : ((0 * 16 + 0) * 16 + c.toNat / 16) * 16 + c.toNat % 16 = c.toNat := by omega
      unfold hexValue4?
      rw [zero, hexValue?_hexDigit (by omega), hexValue?_hexDigit (by omega)]
      exact congrArg some whole
    exact readCodes?_hex value rest
  · rw [if_neg control]
    exact readCodes?_plain quote backslash control rest

theorem readCodes?_escaped (text rest : List Char) :
    readCodes? (text.flatMap Json.escapeChar ++ '"' :: rest) =
      some (text.map Char.toNat, rest) := by
  induction text with
  | nil => rfl
  | cons c text ih =>
    rw [List.flatMap_cons, List.append_assoc, readCodes?_escapeChar, ih]
    rfl

/-- A character is no surrogate. -/
theorem not_surrogate (c : Char) :
    isLeadSurrogate c.toNat = false ∧ isTrailSurrogate c.toNat = false := by
  have valid : c.toNat < 0xD800 ∨ (0xDFFF < c.toNat ∧ c.toNat < 0x110000) := c.valid
  unfold isLeadSurrogate isTrailSurrogate
  constructor <;> simp <;> omega

theorem joinSurrogates?_codes (text : List Char) :
    joinSurrogates? (text.map Char.toNat) = some text := by
  induction text with
  | nil => rfl
  | cons c text ih =>
    obtain ⟨notLead, notTrail⟩ := not_surrogate c
    cases text with
    | nil => simp [joinSurrogates?, notLead, notTrail]
    | cons next text =>
      rw [List.map_cons] at ih ⊢
      rw [List.map_cons, joinSurrogates?, notLead, notTrail, ih]
      simp

/-- **The text of a string reads back**, its opening quote aside. -/
theorem readString?_chars (text : String) (rest : List Char) :
    readString? (text.toList.flatMap Json.escapeChar ++ '"' :: rest) = some (some text, rest) := by
  unfold readString?
  rw [readCodes?_escaped]
  simp [joinSurrogates?_codes]

/-! ### Numbers -/

/-- What follows a number and does not go on with it. -/
def EndsNumber (rest : List Char) : Prop :=
  ∀ c ∈ rest.head?, c.isDigit = false ∧ c ≠ '.' ∧ c ≠ 'e' ∧ c ≠ 'E'

theorem endsNumber_nil : EndsNumber [] := nofun

theorem endsNumber_cons {c : Char} (noDigit : c.isDigit = false)
    (others : c ≠ '.' ∧ c ≠ 'e' ∧ c ≠ 'E') (rest : List Char) : EndsNumber (c :: rest) := by
  rintro _ ⟨⟩
  exact ⟨noDigit, others⟩

theorem readPower?_text (power : Option Int) {rest : List Char} (ends : EndsNumber rest) :
    readPower? (Spelling.powerText power ++ rest) = some (power, rest) := by
  cases power with
  | none =>
    cases rest with
    | nil => rfl
    | cons c rest =>
      obtain ⟨-, -, small, large⟩ := ends c rfl
      exact if_neg (not_or.2 ⟨small, large⟩)
  | some power =>
    have digits : spanDigits (digitsOfNat power.natAbs ++ rest) =
        (digitsOfNat power.natAbs, rest) :=
      spanDigits_append (fun c => isDigit_of_mem_digitsOfNat) fun c first => (ends c first).1
    have some? : (digitsOfNat power.natAbs).isEmpty = false :=
      List.isEmpty_eq_false_iff.2 (digitsOfNat_ne_nil _)
    by_cases minus : power < 0
    · have value : -(power.natAbs : Int) = power := by omega
      simp only [Spelling.powerText, if_pos minus, List.cons_append, readPower?, true_or,
        if_true, splitSign, digits, some?, Bool.false_eq_true, if_false,
        natOfDigits_digitsOfNat, value]
    · have value : (power.natAbs : Int) = power := by omega
      simp only [Spelling.powerText, if_neg minus, List.cons_append, readPower?, true_or,
        if_true, splitSign, digits, some?, Bool.false_eq_true, if_false,
        natOfDigits_digitsOfNat, value]

theorem readFraction?_text {fraction : Option (List Char)}
    (present : ∀ digits ∈ fraction, digits ≠ [])
    (isDigits : ∀ digits ∈ fraction, ∀ c ∈ digits, c.isDigit = true) {rest : List Char}
    (ends : ∀ c ∈ rest.head?, c.isDigit = false ∧ c ≠ '.') :
    readFraction? (Spelling.fractionText fraction ++ rest) = some (fraction, rest) := by
  cases fraction with
  | none =>
    change readFraction? rest = _
    rw [readFraction?]
    rintro _ rfl
    exact (ends '.' rfl).2 rfl
  | some digits =>
    have split := spanDigits_append (isDigits digits rfl) fun c first => (ends c first).1
    simp [Spelling.fractionText, readFraction?, split, present digits rfl]

/-- What follows the digits of a fraction. -/
theorem powerText_ends (power : Option Int) {rest : List Char} (ends : EndsNumber rest) :
    ∀ c ∈ (Spelling.powerText power ++ rest).head?, c.isDigit = false ∧ c ≠ '.' := by
  cases power with
  | none => exact fun c first => ⟨(ends c first).1, (ends c first).2.1⟩
  | some power =>
    rintro _ ⟨⟩
    exact ⟨rfl, by decide⟩

/-- What follows the digits before the point. -/
theorem fractionText_ends (fraction : Option (List Char)) {rest : List Char}
    (ends : ∀ c ∈ rest.head?, c.isDigit = false) :
    ∀ c ∈ (Spelling.fractionText fraction ++ rest).head?, c.isDigit = false := by
  cases fraction with
  | none => exact ends
  | some digits =>
    rintro _ ⟨⟩
    rfl

/-- What a spelling stands for in a document: an integer has neither a point nor a power of ten. -/
def numberOf? (rule : DecimalRule) (spelling : Spelling) (negative : Bool) : Option JsonNumber :=
  match spelling.fraction, spelling.power with
  | none, none => wholeNumber? rule negative spelling.whole
  | fraction, power => floatNumber? rule negative spelling.whole (fraction.getD []) (power.getD 0)

theorem numberOf?_floating (rule : DecimalRule) {spelling : Spelling} (floating : spelling.Floating)
    (negative : Bool) :
    numberOf? rule spelling negative =
      floatNumber? rule negative spelling.whole (spelling.fraction.getD [])
        (spelling.power.getD 0) := by
  obtain ⟨whole, fraction, power⟩ := spelling
  cases fraction with
  | some digits => rfl
  | none =>
    cases power with
    | some power => rfl
    | none => exact absurd rfl (floating.resolve_left (· rfl))

/-- **The number of a proper spelling is read.** -/
theorem readUnsigned?_text (rule : DecimalRule) {spelling : Spelling} (proper : spelling.Proper)
    (negative : Bool) {rest : List Char} (ends : EndsNumber rest) :
    readUnsigned? rule negative (spelling.text ++ rest) =
      some (numberOf? rule spelling negative, rest) := by
  obtain ⟨whole, fraction, power⟩ := spelling
  have afterFraction := powerText_ends power ends
  have split := spanDigits_append proper.whole_digits
    (fractionText_ends fraction fun c first => (afterFraction c first).1)
  have single : (whole.isEmpty || (whole.head? = some '0' && whole.length > 1)) = false := by
    by_cases zero : whole.head? = some '0'
    · simp [proper.whole_ne_nil, proper.no_leading_zero zero]
    · simp [proper.whole_ne_nil, zero]
  unfold readUnsigned? Spelling.text
  dsimp only at split ⊢
  rw [List.append_assoc, List.append_assoc, split]
  dsimp only
  rw [single, readFraction?_text proper.fraction_ne_nil proper.fraction_digits afterFraction]
  simp only [Bool.false_eq_true, if_false, Option.bind_eq_bind, Option.bind_some,
    readPower?_text power ends]
  cases fraction <;> cases power <;> rfl

/-- **The number of a proper spelling is read after its sign.** -/
theorem readNumber?_text (rule : DecimalRule) {spelling : Spelling} (proper : spelling.Proper)
    (negative : Bool) {rest : List Char} (ends : EndsNumber rest) :
    readNumber? rule ((if negative then '-' :: spelling.text else spelling.text) ++ rest) =
      some (numberOf? rule spelling negative, rest) := by
  have read := readUnsigned?_text rule proper negative ends
  cases negative with
  | true => exact read
  | false =>
    obtain ⟨c, more, shape, digit⟩ := proper.text_eq_cons
    rw [if_neg Bool.false_ne_true]
    rw [shape, List.cons_append] at read ⊢
    rw [readNumber?, read]
    rintro rest ⟨rfl, -⟩
    exact absurd digit (by decide)

end JsonTree

namespace JsonNumber

open JsonTree

/-- An integer is written as its digits after its sign. -/
theorem text_integer (value : Int) : (JsonNumber.integer value).chars =
    if decide (value < 0) then '-' :: (Spelling.mk (digitsOfNat value.natAbs) none none).text
    else (Spelling.mk (digitsOfNat value.natAbs) none none).text := by
  simp [chars, textOfInt, Spelling.text, Spelling.fractionText, Spelling.powerText]

/-- The text of a number is a proper spelling after its sign. -/
theorem exists_spelling (number : JsonNumber) :
    ∃ (negative : Bool) (spelling : Spelling), spelling.Proper ∧
    number.chars = if negative then '-' :: spelling.text else spelling.text := by
  cases number with
  | integer value =>
    exact ⟨value < 0, _, Spelling.proper_digitsOfNat value.natAbs, text_integer value⟩
  | float value =>
    obtain ⟨spelling, proper, -, text, -⟩ := jsonLayout.text_spelling value
    exact ⟨value.negative, spelling, proper, text⟩

/-! ### Numbers that survive -/

/-- What the text of a number is read as by a rule; nothing if the rule makes it overflow. -/
def reread? (rule : DecimalRule) (number : JsonNumber) : Option JsonNumber :=
  (readNumber? rule number.chars).bind Prod.fst

/-- The text of the number is read as the number. -/
def Survives (rule : DecimalRule) (number : JsonNumber) : Prop := number.reread? rule = some number

/-- **What follows the text of a number does not change how it is read.** -/
theorem readNumber?_chars (rule : DecimalRule) (number : JsonNumber) {rest : List Char}
    (ends : EndsNumber rest) :
    readNumber? rule (number.chars ++ rest) = some (number.reread? rule, rest) := by
  obtain ⟨negative, spelling, proper, text⟩ := number.exists_spelling
  have alone := readNumber?_text rule proper negative endsNumber_nil
  rw [List.append_nil, ← text] at alone
  unfold reread?
  rw [alone, text]
  exact readNumber?_text rule proper negative ends

theorem reread?_of_spelling (rule : DecimalRule) {number : JsonNumber} {spelling : Spelling}
    (proper : spelling.Proper) {negative : Bool}
    (text : number.chars = if negative then '-' :: spelling.text else spelling.text) :
    number.reread? rule = numberOf? rule spelling negative := by
  have read := readNumber?_text rule proper negative endsNumber_nil
  rw [List.append_nil, ← text] at read
  unfold reread?
  rw [read]
  rfl

/-- **The integers of documents survive every rule.** -/
theorem survives_integer (rule : DecimalRule) {value : Int}
    (inRange : (JsonNumber.integer value).InRange) :
    (JsonNumber.integer value).Survives rule := by
  obtain ⟨least, most⟩ := inRange
  have read := reread?_of_spelling rule (Spelling.proper_digitsOfNat value.natAbs)
    (text_integer value)
  unfold Survives
  rw [read]
  by_cases minus : value < 0
  · have size : 0 < value.natAbs ∧ value.natAbs ≤ Nat.pow 2 63 := by omega
    have same : -(value.natAbs : Int) = value := by omega
    simp only [numberOf?, wholeNumber?, natOfDigits_digitsOfNat, if_pos size,
      same, minus, decide_true, if_true]
  · have size : value.natAbs < Nat.pow 2 64 := by omega
    have same : (value.natAbs : Int) = value := by omega
    simp [numberOf?, wholeNumber?, size, same, minus]

/-- A floating point number survives a rule by which its spelling denotes it. -/
theorem survives_of_spelling {rule : DecimalRule} {value : Finite} {spelling : Spelling}
    (proper : spelling.Proper) (floating : spelling.Floating)
    (text : (JsonNumber.float value).chars =
      if value.negative then '-' :: spelling.text else spelling.text)
    (reads : rule value.negative spelling.whole (spelling.fraction.getD [])
      (spelling.power.getD 0) = .finite value) : (JsonNumber.float value).Survives rule := by
  unfold Survives
  rw [reread?_of_spelling rule proper text, numberOf?_floating rule floating, floatNumber?, reads]
  rfl

/-- **Every number survives the rule that rounds once**, if it is a number of documents. -/
theorem survives_roundedOnce {number : JsonNumber} (inRange : number.InRange) :
    number.Survives roundedOnce := by
  cases number with
  | integer value => exact survives_integer roundedOnce inRange
  | float value =>
    obtain ⟨spelling, proper, floating, text, reads⟩ := jsonLayout.text_spelling value
    exact survives_of_spelling proper (floating rfl) text reads

/-- An integer of documents, or a floating point number whose text has no power of ten and at most
sixteen characters, the point among them. -/
def IsShort : JsonNumber → Prop
  | .integer value => (JsonNumber.integer value).InRange
  | .float value =>
    'e' ∉ (JsonNumber.float value).chars ∧ (JsonNumber.float value).chars.length ≤ 16

/-- A spelling of few characters without a power of ten is a numeral that is rounded once. -/
theorem isShort_numeral {spelling : Spelling} (proper : spelling.Proper)
    (floating : spelling.Floating) (plain : 'e' ∉ spelling.text) (short : spelling.text.length ≤ 16)
    (negative : Bool) :
    (spelling.numeral negative).IsShort := by
  obtain ⟨whole, fraction, power⟩ := spelling
  cases power with
  | some power => exact absurd (by simp [Spelling.text, Spelling.powerText]) plain
  | none =>
    obtain ⟨digits, rfl⟩ : ∃ digits, fraction = some digits :=
      Option.ne_none_iff_exists'.1 (floating.resolve_right (· rfl))
    have count : (whole ++ digits).length ≤ 15 := by
      simp only [Spelling.text, Spelling.fractionText, Spelling.powerText, List.length_append,
        List.length_cons, List.length_nil] at short ⊢
      omega
    have isDigits : ∀ c ∈ whole ++ digits, c.isDigit = true :=
      List.forall_mem_append.2 ⟨proper.whole_digits, proper.fraction_digits digits rfl⟩
    have bound := natOfDigits_lt isDigits
    have within : 10 ^ (whole ++ digits).length ≤ 10 ^ 15 := Nat.pow_le_pow_right (by omega) count
    refine ⟨Nat.le_trans (Nat.le_of_lt bound) (Nat.le_trans within (by decide)), ?_⟩
    rw [List.length_append] at count
    simp only [Spelling.numeral, Numeral.ofParts, Option.getD_some, Option.getD_none]
    omega

/-- **Integers and numbers of few digits survive reading in steps.** -/
theorem survives_stepwise {number : JsonNumber} (short : number.IsShort) :
    number.Survives stepwise := by
  cases number with
  | integer value => exact survives_integer stepwise short
  | float value =>
    obtain ⟨spelling, proper, floating, text, reads⟩ := jsonLayout.text_spelling value
    obtain ⟨plain, short⟩ := short
    have text : (JsonNumber.float value).chars =
        if value.negative then '-' :: spelling.text else spelling.text := text
    have kept : 'e' ∉ spelling.text ∧ spelling.text.length ≤ 16 := by
      rw [text] at plain short
      by_cases sign : value.negative = true
      · rw [if_pos sign] at plain short
        exact ⟨fun found => plain (List.mem_cons_of_mem _ found), Nat.le_of_succ_le short⟩
      · rw [if_neg sign] at plain short
        exact ⟨plain, short⟩
    have once := stepwise_eq_roundedOnce
      (isShort_numeral proper (floating rfl) kept.1 kept.2 value.negative)
    exact survives_of_spelling proper (floating rfl) text (once.trans reads)

/-! ### The text of a number -/

/-- The text of a number begins with a minus or a digit. -/
theorem chars_eq_cons (number : JsonNumber) :
    ∃ c more, number.chars = c :: more ∧ (c = '-' ∨ c.isDigit = true) := by
  obtain ⟨negative, spelling, proper, text⟩ := number.exists_spelling
  obtain ⟨c, more, shape, digit⟩ := proper.text_eq_cons
  rw [text]
  cases negative with
  | true => exact ⟨'-', _, rfl, .inl rfl⟩
  | false => exact ⟨c, more, shape, .inr digit⟩

/-- The characters of the text of a number are those of numerals. -/
theorem mem_chars {number : JsonNumber} {c : Char} (found : c ∈ number.chars) :
    c.isDigit = true ∨ c = '.' ∨ c = 'e' ∨ c = '+' ∨ c = '-' := by
  obtain ⟨negative, spelling, proper, text⟩ := number.exists_spelling
  rw [text] at found
  cases negative with
  | false => exact proper.mem_text found
  | true =>
    rcases List.mem_cons.1 found with rfl | found
    · simp
    · exact proper.mem_text found

end JsonNumber

/-! ### Samples -/

/-- A number with few bits, `mantissa · 2 ^ (shift - 1074)`. -/
def dyadic (mantissa shift : Nat) (small : mantissa ≤ Nat.pow 2 53)
    (inRange : mantissa * Nat.pow 2 shift < unitsLimit) : Finite :=
  ⟨false, mantissa * Nat.pow 2 shift, inRange, spacing_dvd_mul_two_pow small⟩

/-- One half. -/
def half : Finite := dyadic 1 1073 (by decide) (by decide +kernel)

theorem isShort_half : (JsonNumber.float half).IsShort := by
  unfold JsonNumber.IsShort
  decide +kernel

/-- The number `100.78399658203125`, of seventeen digits. -/
def longNumber : Finite := dyadic 7092043272683520 1028 (by decide) (by decide +kernel)

/-- Its neighbour below, `100.78399658203124`. -/
def longNeighbour : Finite := dyadic 7092043272683519 1028 (by decide) (by decide +kernel)

/-- **A number of seventeen digits need not survive**: this one is read as its neighbour. -/
theorem reread_longNumber :
    (JsonNumber.float longNumber).reread? stepwise = some (.float longNeighbour) := by
  decide +kernel

end CatalogSchema
