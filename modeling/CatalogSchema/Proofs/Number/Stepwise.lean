/-
**Short decimal numbers are read exactly.**

Reading in steps rounds the coefficient, the power of ten and their product or quotient. The first
two are exact as long as the coefficient has at most 53 bits and the power is at most `10 ^ 22`;
then only the last one rounds, as a rule does that rounds the exact value once.

* `takeDigits_of_fits`: a count that has room takes all digits.
* `tenPower_exact`: the small powers of ten are floating point numbers.
* `scaled_eq_toBinary64`: a small coefficient and a small power are rounded once.
* `stepwise_eq_roundedOnce`: a number of few digits is read as by one rounding.
-/

import CatalogSchema.Number.Stepwise
import CatalogSchema.Proofs.Number.Rounding

namespace CatalogSchema.Number

/-- The rule that rounds the exact value of a number once. -/
def roundedOnce : DecimalRule := fun negative whole fraction exponent =>
  (Numeral.ofParts negative whole fraction exponent).toBinary64

/-! ### Digits -/

/-- A count with digits appended to it. -/
def appendDigits (count : Nat) (digits : List Char) : Nat :=
  digits.foldl (fun total digit => 10 * total + (digit.toNat - '0'.toNat)) count

theorem le_appendDigits (count : Nat) (digits : List Char) : count ≤ appendDigits count digits := by
  induction digits generalizing count with
  | nil => exact Nat.le_refl _
  | cons digit digits ih =>
    have more := ih (10 * count + (digit.toNat - '0'.toNat))
    exact Nat.le_trans (by omega) more

/-- **A count that has room takes all digits.** -/
theorem takeDigits_of_fits {count : Nat} {digits : List Char}
    (fits : appendDigits count digits < Nat.pow 2 64) :
    takeDigits count digits = (appendDigits count digits, []) := by
  induction digits generalizing count with
  | nil => rfl
  | cons digit digits ih =>
    have next : 10 * count + (digit.toNat - '0'.toNat) < Nat.pow 2 64 :=
      Nat.lt_of_le_of_lt (le_appendDigits _ digits) fits
    rw [takeDigits, if_pos next]
    exact ih fits

theorem appendDigits_lt (count : Nat) {digits : List Char}
    (isDigits : ∀ c ∈ digits, c.isDigit = true) :
    appendDigits count digits < (count + 1) * 10 ^ digits.length := by
  induction digits generalizing count with
  | nil => exact Nat.lt_of_lt_of_eq (Nat.lt_succ_self count) (Nat.mul_one _).symm
  | cons digit digits ih =>
    obtain ⟨first, others⟩ := List.forall_mem_cons.1 isDigits
    have small : digit.toNat - '0'.toNat ≤ 9 :=
      Nat.sub_le_of_le_add (Char.isDigit_iff_toNat.1 first).2
    calc appendDigits (10 * count + (digit.toNat - '0'.toNat)) digits
        < (10 * count + (digit.toNat - '0'.toNat) + 1) * 10 ^ digits.length := ih _ others
      _ ≤ (count + 1) * 10 * 10 ^ digits.length := Nat.mul_le_mul_right _ (by omega)
      _ = (count + 1) * 10 ^ (digits.length + 1) := by rw [Nat.pow_succ', Nat.mul_assoc]

/-- A row of digits denotes a number with as many digits at most. -/
theorem natOfDigits_lt {digits : List Char} (isDigits : ∀ c ∈ digits, c.isDigit = true) :
    natOfDigits digits < 10 ^ digits.length :=
  Nat.lt_of_lt_of_eq (appendDigits_lt 0 isDigits) (Nat.one_mul _)

theorem appendDigits_append (whole fraction : List Char) :
    appendDigits (appendDigits 0 whole) fraction = natOfDigits (whole ++ fraction) :=
  List.foldl_append.symm

/-! ### Scaling -/

/-- **The small powers of ten are floating point numbers.** -/
theorem tenPower_exact {power : Nat} (small : power ≤ 22) :
    tenPower power = Nat.pow 10 power * unitsPerOne := by
  have fives : Nat.pow 5 power ≤ Nat.pow 2 53 :=
    Nat.le_trans (Nat.pow_le_pow_right (by omega) small) (by decide)
  have aligned : spacing (Nat.pow 10 power * unitsPerOne) ∣ Nat.pow 10 power * unitsPerOne := by
    unfold unitsPerOne
    generalize 1074 = shift
    have split : Nat.pow 5 power * Nat.pow 2 (power + shift) =
        Nat.pow 10 power * Nat.pow 2 shift := by
      simp only [Nat.pow_eq]
      rw [Nat.pow_add, ← Nat.mul_assoc, ← Nat.mul_pow]
    exact split ▸ spacing_dvd_mul_two_pow fives
  exact nearest_of_aligned aligned

/-- A whole number of at most 53 bits is a floating point number. -/
theorem exists_finite_of_small (negative : Bool) {coefficient : Nat}
    (small : coefficient ≤ Nat.pow 2 53) :
    ∃ count : Finite, count.negative = negative ∧ count.units = coefficient * unitsPerOne ∧
      Binary64.ofQuotient negative (coefficient * unitsPerOne) 1 = .finite count := by
  have room : Nat.pow 2 53 * unitsPerOne < unitsLimit := by decide +kernel
  have inRange : coefficient * unitsPerOne < unitsLimit :=
    Nat.lt_of_le_of_lt (Nat.mul_le_mul_right _ small) room
  have aligned : spacing (coefficient * unitsPerOne) ∣ coefficient * unitsPerOne := by
    unfold unitsPerOne
    generalize 1074 = shift
    exact spacing_dvd_mul_two_pow small
  exact ⟨⟨negative, _, inRange, aligned⟩, rfl, rfl,
    Binary64.ofQuotient_exact ⟨negative, _, inRange, aligned⟩ Nat.one_pos (Nat.mul_one _).symm⟩

/-- The numerals within which scaling rounds once only. -/
structure Numeral.IsShort (numeral : Numeral) : Prop where
  coefficient : numeral.coefficient ≤ Nat.pow 2 53
  exponent : numeral.exponent.natAbs ≤ 22

theorem Numeral.IsShort.position_within {numeral : Numeral} (short : numeral.IsShort) :
    ¬ 310 < numeral.position ∧ ¬ numeral.position < -330 := by
  have digits : (digitsOfNat numeral.coefficient).length ≤ 16 :=
    (Nat.length_toDigits_le_iff (by omega) (by omega)).2
      (Nat.lt_of_le_of_lt short.coefficient (by decide))
  have power := short.exponent
  unfold position
  omega

/-- A product of two counts of units, as one quotient. -/
theorem ofQuotient_times (negative : Bool) (coefficient factor : Nat) {unit : Nat}
    (positive : 0 < unit) :
    Binary64.ofQuotient negative (coefficient * unit * (factor * unit)) unit =
      Binary64.ofQuotient negative (coefficient * factor * unit) 1 := by
  refine Binary64.ofQuotient_congr negative positive Nat.one_pos ?_
  rw [Nat.mul_one]
  ac_rfl

/-- A quotient of two counts of units, without the unit of the divisor. -/
theorem ofQuotient_over (negative : Bool) (coefficient : Nat) {divisor unit : Nat}
    (positive : 0 < unit) (divides : 0 < divisor) :
    Binary64.ofQuotient negative (coefficient * unit * unit) (divisor * unit) =
      Binary64.ofQuotient negative (coefficient * unit) divisor := by
  refine Binary64.ofQuotient_congr negative (Nat.mul_pos divides positive) divides ?_
  ac_rfl

/-- **A small coefficient and a small power of ten are rounded once.** -/
theorem scaled_eq_toBinary64 {numeral : Numeral} (short : numeral.IsShort) :
    numeral.scaled = numeral.toBinary64 := by
  obtain ⟨large, small⟩ := short.position_within
  obtain ⟨count, sign, units, exact⟩ := exists_finite_of_small numeral.negative short.coefficient
  have power : numeral.exponent.natAbs ≤ largestPower := Nat.le_trans short.exponent (by decide)
  have positive := Finite.unitsPerOne_pos
  have isZero : count.isZero = true ↔ numeral.coefficient = 0 := by
    unfold Finite.isZero
    rw [decide_eq_true_iff, units, Nat.mul_eq_zero]
    exact or_iff_left (Nat.ne_of_gt positive)
  have scaled : numeral.scaled = count.scale numeral.exponent := by
    unfold Numeral.scaled
    rw [exact]
    rfl
  rw [scaled]
  unfold Finite.scale Numeral.toBinary64
  rw [if_neg large, if_neg small]
  by_cases none : numeral.coefficient = 0
  · have zero : count = .zero numeral.negative := by
      obtain ⟨negative, countUnits, inRange, aligned⟩ := count
      obtain rfl : negative = numeral.negative := sign
      obtain rfl : countUnits = 0 := of_decide_eq_true (isZero.2 none)
      rfl
    rw [if_pos none, if_pos (isZero.2 none), zero]
  rw [if_neg none, if_neg (mt isZero.1 none)]
  have one : Nat.pow 10 0 = 1 := rfl
  by_cases up : 0 ≤ numeral.exponent
  · have same : numeral.exponent.toNat = numeral.exponent.natAbs := by omega
    have down : (-numeral.exponent).toNat = 0 := by omega
    rw [if_pos up, Finite.timesPower, if_pos power, Finite.times, sign, units,
      tenPower_exact short.exponent, same, down, one, ofQuotient_times _ _ _ positive]
  · have same : (-numeral.exponent).toNat = numeral.exponent.natAbs := by omega
    have down : numeral.exponent.toNat = 0 := by omega
    have divides : 0 < Nat.pow 10 numeral.exponent.natAbs := Nat.pow_pos (by omega)
    rw [if_neg up, Finite.overPower, if_pos power, Finite.dividedBy, sign, units,
      tenPower_exact short.exponent, same, down, one, Nat.mul_one,
      ofQuotient_over _ _ positive divides]

/-- **A number of few digits is read as by one rounding.** -/
theorem stepwise_eq_roundedOnce {negative : Bool} {whole fraction : List Char} {exponent : Int}
    (short : (Numeral.ofParts negative whole fraction exponent).IsShort) :
    stepwise negative whole fraction exponent = roundedOnce negative whole fraction exponent := by
  have fits : natOfDigits (whole ++ fraction) < Nat.pow 2 64 :=
    Nat.lt_of_le_of_lt short.coefficient (by decide)
  rw [← appendDigits_append] at fits
  have first := takeDigits_of_fits (Nat.lt_of_le_of_lt (le_appendDigits _ fraction) fits)
  have second := takeDigits_of_fits fits
  have parts : Numeral.mk negative (natOfDigits (whole ++ fraction))
      (exponent + ([] : List Char).length - (fraction.length - ([] : List Char).length : Nat)) =
        .ofParts negative whole fraction exponent := by
    simp [Numeral.ofParts]
  unfold stepwise roundedOnce
  rw [first]
  dsimp only
  rw [second]
  dsimp only
  rw [appendDigits_append, parts]
  exact scaled_eq_toBinary64 short

end CatalogSchema.Number
