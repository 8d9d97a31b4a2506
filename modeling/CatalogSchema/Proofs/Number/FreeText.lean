/-
**Numbers in free text read back.**

* `readBinary64?_text`: a proper spelling is read as the number nearest to what it denotes.
* `readBinary64?_layout`: so the text of a finite number is read as the number, in every layout.
* `ofSmall`: the integers of at most 53 bits are floating point numbers.
* `readBinary64?_textOfInt`: the text of an integer is read as the number nearest to it.
-/

import CatalogSchema.Proofs.Number.Spelling

namespace CatalogSchema.Number

/-! ### Spellings -/

theorem isDigitRow_iff {text : List Char} :
    isDigitRow text = true ↔ text ≠ [] ∧ ∀ c ∈ text, c.isDigit = true := by
  simp [isDigitRow]

theorem isDigitRow_digitsOfNat (value : Nat) : isDigitRow (digitsOfNat value) = true :=
  isDigitRow_iff.2 ⟨digitsOfNat_ne_nil value, fun _ => isDigit_of_mem_digitsOfNat⟩

theorem readExponent?_powerText (power : Option Int) :
    readExponent? (Spelling.powerText power) = some (power.getD 0) := by
  cases power with
  | none => rfl
  | some power =>
    have row := isDigitRow_digitsOfNat power.natAbs
    by_cases minus : power < 0
    · have value : -(power.natAbs : Int) = power := by omega
      simp only [Spelling.powerText, if_pos minus, readExponent?, true_or, if_true, splitSign, row,
        natOfDigits_digitsOfNat, value, Option.getD_some]
    · have value : (power.natAbs : Int) = power := by omega
      simp only [Spelling.powerText, if_neg minus, readExponent?, true_or, if_true, splitSign, row,
        Bool.false_eq_true, if_false, natOfDigits_digitsOfNat, value, Option.getD_some]

/-- What follows the digits before the point is no digit. -/
theorem head?_fractionText_powerText (fraction : Option (List Char)) (power : Option Int) :
    ∀ c ∈ (Spelling.fractionText fraction ++ Spelling.powerText power).head?,
      c.isDigit = false := by
  cases fraction with
  | some digits =>
    rintro _ ⟨⟩
    rfl
  | none =>
    cases power with
    | none => exact nofun
    | some power =>
      rintro _ ⟨⟩
      rfl

/-- **The numeral of a proper spelling is read.** -/
theorem readMagnitude?_text {spelling : Spelling} (proper : spelling.Proper) (negative : Bool) :
    readMagnitude? negative spelling.text = some (spelling.numeral negative) := by
  obtain ⟨whole, fraction, power⟩ := spelling
  have split := spanDigits_append proper.whole_digits (head?_fractionText_powerText fraction power)
  have present : whole.isEmpty = false := List.isEmpty_eq_false_iff.2 proper.whole_ne_nil
  dsimp only at split
  unfold readMagnitude? Spelling.text
  simp only [split, present, Bool.false_and, if_neg Bool.false_ne_true]
  cases fraction with
  | some digits =>
    have after : spanDigits (digits ++ Spelling.powerText power) =
        (digits, Spelling.powerText power) :=
      spanDigits_append (proper.fraction_digits digits rfl)
        (head?_fractionText_powerText none power)
    simp only [Spelling.fractionText, List.cons_append, after, readExponent?_powerText]
    rfl
  | none =>
    cases power with
    | none => rfl
    | some power =>
      show Option.map (Numeral.ofParts negative whole [])
          (readExponent? (Spelling.powerText (some power))) = _
      rw [readExponent?_powerText]
      rfl

/-- A text that begins with a digit is not the name of a value. -/
theorem readNamed?_of_isDigit (negative : Bool) {c : Char} (digit : c.isDigit = true)
    (more : List Char) :
    readNamed? negative (c :: more) = none := by
  have start : c.toLower ≠ 'i' ∧ c.toLower ≠ 'n' := by
    have lower : c.toLower = c := by
      have bounds : '0'.val ≤ c.val ∧ c.val ≤ '9'.val := by simpa [Char.isDigit] using digit
      delta Char.toLower
      exact dif_neg fun upper => absurd (UInt32.le_trans upper.1 bounds.2) (by decide)
    rw [lower]
    constructor <;> rintro rfl <;> revert digit <;> decide
  have name {word : String} {first : Char} {others : List Char}
      (spelled : word.toList = first :: others)
      (different : c.toLower ≠ first) : String.ofList ((c :: more).map Char.toLower) ≠ word := by
    rintro rfl
    rw [String.toList_ofList, List.map_cons] at spelled
    exact different (List.cons.inj spelled).1
  unfold readNamed?
  dsimp only
  rw [if_neg (not_or.2 ⟨name rfl start.1, name rfl start.1⟩), if_neg (name rfl start.2)]

/-- **A proper spelling after its sign is read** as the number nearest to what it denotes. -/
theorem readBinary64?_text {spelling : Spelling} (proper : spelling.Proper) (negative : Bool) :
    readBinary64? (if negative then '-' :: spelling.text else spelling.text) =
      some (spelling.numeral negative).toBinary64 := by
  obtain ⟨c, more, shape, digit⟩ := proper.text_eq_cons
  have sign : splitSign (if negative then '-' :: spelling.text else spelling.text) =
      (negative, spelling.text) := by
    cases negative with
    | true => rfl
    | false =>
      rw [if_neg Bool.false_ne_true, shape]
      unfold splitSign
      split
      · rename_i same
        cases same
        cases digit
      · rename_i same
        cases same
        cases digit
      · rfl
  have noName : readNamed? negative spelling.text = none := by
    rw [shape]
    exact readNamed?_of_isDigit negative digit more
  unfold readBinary64?
  rw [sign]
  dsimp only
  rw [noName, readMagnitude?_text proper]
  rfl

/-- **The text of a finite number is read as the number.** -/
theorem readBinary64?_layout (layout : Layout) (value : Finite) :
    readBinary64? (layout.text value) = some (.finite value) := by
  obtain ⟨spelling, proper, -, text, reads⟩ := layout.text_spelling value
  rw [text, readBinary64?_text proper, reads]

/-! ### Integers -/

namespace Finite

/-- An integer of at most 53 bits. -/
def ofSmall (value : Int) (small : value.natAbs ≤ Nat.pow 2 53) : Finite where
  negative := value < 0
  units := value.natAbs * unitsPerOne
  inRange := by
    have room : Nat.pow 2 53 * unitsPerOne < unitsLimit := by decide +kernel
    exact Nat.lt_of_le_of_lt (Nat.mul_le_mul_right _ small) room
  aligned := by
    unfold unitsPerOne
    generalize 1074 = shift
    exact spacing_dvd_mul_two_pow small

variable {value : Int} (small : value.natAbs ≤ Nat.pow 2 53)

theorem isWhole_ofSmall : (ofSmall value small).isWhole = true := by
  unfold isWhole ofSmall
  dsimp only
  rw [Nat.mul_mod_left]
  rfl

theorem truncate_ofSmall : (ofSmall value small).truncate = value := by
  have magnitude : value.natAbs * unitsPerOne / unitsPerOne = value.natAbs :=
    Nat.mul_div_cancel _ unitsPerOne_pos
  unfold truncate ofSmall
  simp only [magnitude]
  by_cases minus : value < 0
  · rw [if_pos (decide_eq_true minus)]
    omega
  · rw [if_neg (by simp [minus])]
    omega

/-- Such an integer is exact as a floating point number. -/
theorem ofInt_eq_ofSmall : Binary64.ofInt value = .finite (ofSmall value small) :=
  Binary64.ofQuotient_exact (ofSmall value small) Nat.one_pos (Nat.mul_one _).symm

/-- It is a whole number, and its whole part. -/
theorem ofInt_of_small (small : value.natAbs ≤ Nat.pow 2 53) : ∃ number : Finite,
    Binary64.ofInt value = .finite number ∧ number.isWhole = true ∧ number.truncate = value :=
  ⟨ofSmall value small, ofInt_eq_ofSmall small, isWhole_ofSmall small, truncate_ofSmall small⟩

omit small in
/-- The digits of an integer denote it, unless there are so many that they overflow. -/
theorem toBinary64_digits (few : (digitsOfNat value.natAbs).length ≤ 310) :
    (Numeral.mk (value < 0) value.natAbs 0).toBinary64 = .ofInt value := by
  unfold Numeral.toBinary64
  dsimp only
  by_cases zero : value.natAbs = 0
  · obtain rfl : value = 0 := Int.natAbs_eq_zero.1 zero
    have small : (0 : Int).natAbs ≤ Nat.pow 2 53 := by decide
    rw [if_pos zero, ofInt_eq_ofSmall small]
    simp [Finite.zero, ofSmall]
  · have position :
        (Numeral.mk (value < 0) value.natAbs 0).position = (digitsOfNat value.natAbs).length := by
      simp [Numeral.position]
    have whole : Nat.pow 10 (0 : Int).toNat = 1 := rfl
    have none : Nat.pow 10 (-0 : Int).toNat = 1 := rfl
    rw [if_neg zero, position, if_neg (by omega), if_neg (by omega), whole, none, Nat.mul_one]
    rfl

end Finite

/-- **The text of an integer is read as the number nearest to it**, unless its digits overflow. -/
theorem readBinary64?_textOfInt {value : Int} (few : (digitsOfNat value.natAbs).length ≤ 310) :
    readBinary64? (textOfInt value) = some (.ofInt value) := by
  have proper := Spelling.proper_digitsOfNat value.natAbs
  have text : textOfInt value =
      if decide (value < 0) then '-' :: (Spelling.mk (digitsOfNat value.natAbs) none none).text
      else (Spelling.mk (digitsOfNat value.natAbs) none none).text := by
    simp [textOfInt, Spelling.text, Spelling.fractionText, Spelling.powerText]
  have numeral : (Spelling.mk (digitsOfNat value.natAbs) none none).numeral (decide (value < 0)) =
      ⟨value < 0, value.natAbs, 0⟩ := by
    simp [Spelling.numeral, Numeral.ofParts]
  rw [text, readBinary64?_text proper, numeral, Finite.toBinary64_digits few]

end CatalogSchema.Number
