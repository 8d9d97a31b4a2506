/-
**Numbers in normal form read back.**

* `readFinite_ofNumber`: the normal form of a number denotes a number of this normal form.
* `readBinary64?_ofNumber`: so does its text.
* `exists_readFinite`: a number of documents is a finite number.
* `readInteger_ofInt`: an integer that was read is read again.
* `looksNumeric_text`: the text of a number has the look of one.
-/

import CatalogSchema.Conversion.Numeric
import CatalogSchema.Proofs.Json.Tokens
import CatalogSchema.Proofs.Number.FreeText
import CatalogSchema.Proofs.Text.Base64

namespace CatalogSchema

open Number Text

/-! ### Finite numbers -/

namespace Number.Finite

theorem plainZero_of_nonzero {value : Finite} (nonzero : value.isZero = false) :
    value.plainZero = value := by
  unfold plainZero
  rw [nonzero, Bool.not_false, Bool.and_true]

/-- Zero without its sign. -/
theorem plainZero_of_isZero {value : Finite} (zero : value.isZero = true) :
    value.plainZero = .zero false := by
  obtain ⟨negative, units, inRange, aligned⟩ := value
  obtain rfl : units = 0 := of_decide_eq_true zero
  cases negative <;> rfl

theorem truncate_plainZero (value : Finite) : value.plainZero.truncate = value.truncate := by
  by_cases zero : value.isZero = true
  · obtain ⟨negative, units, inRange, aligned⟩ := value
    obtain rfl : units = 0 := of_decide_eq_true zero
    unfold truncate plainZero
    dsimp only
    rw [Nat.zero_div]
    cases negative <;> rfl
  · rw [plainZero_of_nonzero (Bool.eq_false_iff.2 zero)]

/-- Holds of the numbers that are integers in normal form. -/
def IsInteger (value : Finite) : Prop :=
  value.isWhole = true ∧ value.units < Nat.pow 2 63 * unitsPerOne

theorem isInteger_of_isZero {value : Finite} (zero : value.isZero = true) : value.IsInteger := by
  have units : value.units = 0 := of_decide_eq_true zero
  refine ⟨?_, ?_⟩
  · unfold isWhole
    rw [units, Nat.zero_mod]
    rfl
  · rw [units]
    exact Nat.mul_pos (by decide) unitsPerOne_pos

end Number.Finite

namespace Json

theorem ofNumber_of_isInteger {value : Finite} (integer : value.IsInteger) :
    ofNumber value = .ofInt value.truncate := if_pos integer

theorem ofNumber_of_not_isInteger {value : Finite} (fractional : ¬ value.IsInteger) :
    ofNumber value = .ofFinite value := if_neg fractional

/-- The normal form does not tell the two zeros apart. -/
theorem ofNumber_plainZero (value : Finite) : ofNumber value.plainZero = ofNumber value := by
  by_cases zero : value.isZero = true
  · have integer := Finite.isInteger_of_isZero zero
    have plain : ofNumber value.plainZero = .ofInt value.plainZero.truncate :=
      ofNumber_of_isInteger integer
    rw [plain, ofNumber_of_isInteger integer, Finite.truncate_plainZero]
  · rw [Finite.plainZero_of_nonzero (Bool.eq_false_iff.2 zero)]

/-- The number that a normal form denotes: zero has lost its sign. -/
theorem ofNumber_cases (value : Finite) :
    (∃ integer, ofNumber value = .ofInt integer ∧
      Binary64.ofInt integer = .finite value.plainZero) ∨
      ofNumber value = .ofFinite value := by
  by_cases integer : value.IsInteger
  · exact .inl ⟨_, ofNumber_of_isInteger integer, Finite.ofInt_truncate integer.1⟩
  · exact .inr (ofNumber_of_not_isInteger integer)

end Json

theorem readFinite_integer {integer : Int} {rounded : Finite}
    (rounds : Binary64.ofInt integer = .finite rounded) :
    readFinite (.number (.integer integer)) = .ok rounded := by
  rw [readFinite, rounds]
  rfl

/-- **The normal form of a number denotes a number of this normal form.** -/
theorem readFinite_ofNumber (value : Finite) :
    ∃ again, readFinite (Json.ofNumber value) = .ok again ∧
      Json.ofNumber again = Json.ofNumber value := by
  rcases Json.ofNumber_cases value with ⟨integer, form, reads⟩ | form
  · refine ⟨value.plainZero, ?_, Json.ofNumber_plainZero value⟩
    rw [form]
    exact readFinite_integer reads
  · refine ⟨value, ?_, rfl⟩
    rw [form]
    rfl

/-- An integer in normal form has at most 19 digits. -/
theorem Number.Finite.IsInteger.length_le {value : Finite} (integer : value.IsInteger) :
    (digitsOfNat value.truncate.natAbs).length ≤ 19 := by
  have room : Nat.pow 2 63 < 10 ^ 19 := by decide
  have small : value.truncate.natAbs < Nat.pow 2 63 := by
    rw [value.natAbs_truncate, Nat.div_lt_iff_lt_mul unitsPerOne_pos]
    exact integer.2
  exact length_digitsOfNat_le (Nat.lt_trans small room) (by omega)

/-- **The text of a normal form is read as a number of this normal form.** -/
theorem readBinary64?_ofNumber (value : Finite) :
    ∃ number again, Json.ofNumber value = .number number ∧
      readBinary64? number.chars = some (.finite again) ∧
      Json.ofNumber again = Json.ofNumber value := by
  by_cases integer : value.IsInteger
  · refine ⟨.integer value.truncate, value.plainZero, Json.ofNumber_of_isInteger integer, ?_,
      Json.ofNumber_plainZero value⟩
    rw [JsonNumber.chars, readBinary64?_textOfInt (Nat.le_trans integer.length_le (by omega)),
      Finite.ofInt_truncate integer.1]
  · exact ⟨.float value, value, Json.ofNumber_of_not_isInteger integer,
      readBinary64?_layout jsonLayout value, rfl⟩

/-- A number of documents is a finite number. -/
theorem exists_readFinite {number : JsonNumber} (inRange : number.InRange) :
    ∃ value, readFinite (.number number) = .ok value := by
  cases number with
  | integer value =>
    obtain ⟨least, most⟩ := inRange
    have half : Nat.pow 2 63 ≤ Nat.pow 2 64 := by decide
    have small : value.natAbs ≤ Nat.pow 2 64 := by omega
    obtain ⟨rounded, rounds⟩ := Binary64.exists_ofInt small
    exact ⟨rounded, readFinite_integer rounds⟩
  | float value => exact ⟨value, rfl⟩

/-! ### Integers -/

namespace Number

theorem int64?_self {value result : Int} (fits : int64? value = some result) :
    int64? result = some result := by
  unfold int64? at fits ⊢
  split at fits
  · rename_i range
    cases fits
    exact if_pos range
  · cases fits

theorem int64?_of_readInt64? {text : List Char} {value : Int}
    (read : readInt64? text = some value) :
    int64? value = some value := by
  unfold readInt64? at read
  dsimp only at read
  split at read
  · exact int64?_self read
  · cases read

end Number

/-- An integer that was read is a 64-bit integer. -/
theorem int64?_of_readInteger {value : Json} {integer : Int}
    (read : readInteger value = .ok integer) :
    int64? integer = some integer := by
  unfold readInteger at read
  split at read
  · split at read <;> cases read
    rename_i fits
    exact int64?_self fits
  · cases read
  · split at read <;> cases read
    rename_i fits
    exact int64?_of_readInt64? fits
  · cases read

theorem readInteger_ofInt {integer : Int} (fits : int64? integer = some integer) :
    readInteger (.ofInt integer) = .ok integer := by
  unfold Json.ofInt readInteger
  dsimp only
  rw [fits]

/-! ### Texts of numbers -/

theorem isNumeralChar_of_isDigit {c : Char} (digit : c.isDigit = true) :
    isNumeralChar c = true := by
  simp [isNumeralChar, digit]

theorem isNumeralChar_of_mem_chars {number : JsonNumber} {c : Char} (found : c ∈ number.chars) :
    isNumeralChar c = true := by
  rcases JsonNumber.mem_chars found with digit | rfl | rfl | rfl | rfl
  · exact isNumeralChar_of_isDigit digit
  all_goals rfl

/-- No character of a numeral is a blank. -/
theorem isBlank_of_isNumeralChar {c : Char} (numeral : isNumeralChar c = true) :
    isBlank c = false := by
  by_cases digit : c.isDigit = true
  · obtain ⟨least, most⟩ := Char.isDigit_iff_toNat.1 digit
    change 48 ≤ c.toNat at least
    change c.toNat ≤ 57 at most
    unfold isBlank
    generalize c.toNat = code at least most
    simp only [Bool.or_eq_false_iff, Bool.and_eq_false_iff, decide_eq_false_iff_not]
    omega
  · have mark : c = '-' ∨ c = '+' ∨ c = '.' ∨ c = 'e' ∨ c = 'E' := by
      simpa [isNumeralChar, digit, or_assoc] using numeral
    rcases mark with rfl | rfl | rfl | rfl | rfl <;> rfl

/-- **The text of a number has the look of a number.** -/
theorem looksNumeric_text (number : JsonNumber) : looksNumeric number.text = true := by
  have visible : ∀ c ∈ number.chars, isBlank c = false :=
    fun c found => isBlank_of_isNumeralChar (isNumeralChar_of_mem_chars found)
  obtain ⟨c, more, shape, -⟩ := number.chars_eq_cons
  have numeral : number.chars.all isNumeralChar = true :=
    List.all_eq_true.2 fun c found => isNumeralChar_of_mem_chars found
  unfold looksNumeric JsonNumber.text
  rw [String.toList_ofList, trim_of_no_blank visible]
  have some? : number.chars.isEmpty = false := by rw [shape]; rfl
  simp only [numeral, some?, Bool.not_false, Bool.and_true, Bool.or_true]

/-- A text of a number of any size is read as it stands. -/
theorem readBigNumber_of_read {value : Json} {text : String}
    (read : readBigNumber value = .ok text) :
    readBigNumber (.string text) = .ok text := by
  unfold readBigNumber at read
  split at read
  · cases read
    exact if_pos (looksNumeric_text _)
  · rename_i given
    by_cases numeric : looksNumeric given = true
    · rw [if_pos numeric] at read
      cases read
      exact if_pos numeric
    · rw [if_neg numeric] at read
      cases read
  · cases read

end CatalogSchema
