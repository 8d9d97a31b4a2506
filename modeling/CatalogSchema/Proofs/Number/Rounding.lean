/-
**Rounding what needs none.**

* `nearest_congr`: equal quotients round to equal counts.
* `nearest_of_aligned`: a count with at most 53 significant bits rounds to itself.
* `nearest_error`: what is rounded is off by half a gap at most.
* `ofQuotient_exact`: so a quotient that is a finite number rounds to this number.
* `toBinary64_shift`: zeros at the end of a coefficient may be moved into the exponent.
* `ofInt_truncate`: a number without a fraction is the number of its integer.
* `exists_ofInt`: the integers of documents are in the range of floating point.
-/

import CatalogSchema.Number.Numeral
import Mathlib.Algebra.Group.Nat.Defs

namespace CatalogSchema.Number

/-! ### Quotients -/

/-- Both terms of a quotient may be scaled. -/
theorem nearest_mul_right (numerator denominator : Nat) {scale : Nat} (positive : 0 < scale) :
    nearest (numerator * scale) (denominator * scale) = nearest numerator denominator := by
  unfold nearest
  rw [Nat.mul_div_mul_right _ _ positive]
  generalize spacing (numerator / denominator) = gap
  have step : denominator * scale * gap = denominator * gap * scale := by
    rw [Nat.mul_assoc, Nat.mul_comm scale, ← Nat.mul_assoc]
  have excess : 2 * (numerator * scale % (denominator * gap * scale)) =
      2 * (numerator % (denominator * gap)) * scale := by
    rw [Nat.mul_mod_mul_right, Nat.mul_assoc]
  simp only [step, excess, Nat.mul_div_mul_right _ _ positive, Nat.mul_lt_mul_right positive,
    Nat.mul_right_cancel_iff positive]

/-- **Equal quotients round alike.** -/
theorem nearest_congr {numerator denominator numerator' denominator' : Nat}
    (positive : 0 < denominator) (positive' : 0 < denominator')
    (same : numerator * denominator' = numerator' * denominator) :
    nearest numerator denominator = nearest numerator' denominator' := by
  calc nearest numerator denominator
      = nearest (numerator * denominator') (denominator * denominator') :=
        (nearest_mul_right _ _ positive').symm
    _ = nearest (numerator' * denominator) (denominator' * denominator) := by
        rw [same, Nat.mul_comm denominator]
    _ = nearest numerator' denominator' := nearest_mul_right _ _ positive

/-- **A count with at most 53 significant bits rounds to itself.** -/
theorem nearest_of_aligned {units : Nat} (aligned : spacing units ∣ units) :
    nearest units 1 = units := by
  unfold nearest
  simp only [Nat.div_one, Nat.one_mul]
  have gapPositive : 0 < spacing units := Nat.two_pow_pos _
  have exact : units % spacing units = 0 := Nat.mod_eq_zero_of_dvd aligned
  simp only [exact, Nat.mul_zero, if_pos gapPositive, Nat.div_mul_cancel aligned]

theorem spacing_le (units : Nat) : spacing units ≤ max units 1 := by
  rcases Nat.eq_zero_or_pos units with rfl | positive
  · decide
  · refine Nat.le_trans ?_ (Nat.le_max_left units 1)
    exact Nat.le_trans (Nat.pow_le_pow_right (by omega) (Nat.sub_le _ _))
      (Nat.log2_self_le (Nat.ne_of_gt positive))

/-- **Rounding is off by half a gap at most.** -/
theorem nearest_error (numerator : Nat) {denominator : Nat} (positive : 0 < denominator) :
    2 * numerator ≤
        (2 * nearest numerator denominator + spacing (numerator / denominator)) * denominator ∧
      2 * (nearest numerator denominator * denominator) ≤
        2 * numerator + spacing (numerator / denominator) * denominator := by
  unfold nearest
  dsimp only
  have gapPositive : 0 < spacing (numerator / denominator) := Nat.two_pow_pos _
  generalize spacing (numerator / denominator) = gap at gapPositive ⊢
  have whole := Nat.div_add_mod' numerator (denominator * gap)
  have rest := Nat.mod_lt numerator (Nat.mul_pos positive gapPositive)
  generalize numerator / (denominator * gap) = below at whole ⊢
  generalize numerator % (denominator * gap) = excess at whole rest ⊢
  have steps (chosen : Nat) : chosen * gap * denominator = chosen * (denominator * gap) := by
    rw [Nat.mul_assoc, Nat.mul_comm gap]
  rw [Nat.add_mul, Nat.mul_assoc 2, steps, Nat.mul_comm gap]
  generalize denominator * gap = step at whole rest ⊢
  have above : (below + 1) * step = below * step + step := Nat.succ_mul below step
  split
  · omega
  · split
    · rcases Nat.mod_two_eq_zero_or_one below with even | odd
      · rw [even, Nat.add_zero]
        omega
      · rw [odd]
        omega
    · omega

/-- Rounding doubles a count at most. -/
theorem nearest_le {numerator denominator units : Nat} (positive : 0 < denominator)
    (within : numerator ≤ units * denominator) : nearest numerator denominator ≤ 2 * units := by
  have error := (nearest_error numerator positive).2
  have quotient : numerator / denominator ≤ units :=
    Nat.div_le_of_le_mul (Nat.mul_comm units _ ▸ within)
  have gap : spacing (numerator / denominator) ≤ max units 1 := by
    have bound := spacing_le (numerator / denominator)
    omega
  have scaled : 2 * nearest numerator denominator * denominator ≤
      (2 * units + max units 1) * denominator := by
    have gaps := Nat.mul_le_mul_right denominator gap
    rw [Nat.add_mul, Nat.mul_assoc, Nat.mul_assoc]
    omega
  have bound := Nat.le_of_mul_le_mul_right scaled positive
  omega

namespace Binary64

theorem ofQuotient_congr (negative : Bool) {numerator denominator numerator' denominator' : Nat}
    (positive : 0 < denominator) (positive' : 0 < denominator')
    (same : numerator * denominator' = numerator' * denominator) :
    ofQuotient negative numerator denominator = ofQuotient negative numerator' denominator' := by
  unfold ofQuotient
  simp only [nearest_congr positive positive' same]

/-- **A quotient that is a finite number rounds to it.** -/
theorem ofQuotient_exact (value : Finite) {numerator denominator : Nat} (positive : 0 < denominator)
    (same : numerator = value.units * denominator) :
    ofQuotient value.negative numerator denominator = .finite value := by
  have rounded : nearest numerator denominator = value.units := by
    calc nearest numerator denominator
        = nearest value.units 1 := nearest_congr positive Nat.one_pos (by rw [Nat.mul_one, same])
      _ = value.units := nearest_of_aligned value.aligned
  unfold ofQuotient
  simp only [rounded, dif_pos value.inRange]

end Binary64

/-! ### Numerals -/

/-- Zeros at the end lengthen a row of digits. -/
theorem length_digitsOfNat_mul_pow {coefficient : Nat} (positive : 0 < coefficient) (zeros : Nat) :
    (digitsOfNat (coefficient * 10 ^ zeros)).length = (digitsOfNat coefficient).length + zeros := by
  unfold digitsOfNat
  induction zeros with
  | zero => rw [Nat.pow_zero, Nat.mul_one, Nat.add_zero]
  | succ zeros ih =>
    have nonzero : 0 < coefficient * 10 ^ zeros := Nat.mul_pos positive (Nat.pow_pos (by omega))
    rw [Nat.pow_succ, ← Nat.mul_assoc, Nat.mul_comm _ 10,
      ← Nat.add_zero (10 * (coefficient * 10 ^ zeros)),
      ← Nat.toDigits_append_toDigits (by omega) nonzero (by omega), List.length_append, ih,
      Nat.toDigits_zero, List.length_singleton, Nat.add_assoc]

namespace Numeral

theorem position_shift {negative : Bool} {coefficient : Nat} (positive : 0 < coefficient)
    (zeros : Nat) (exponent : Int) :
    (Numeral.mk negative (coefficient * 10 ^ zeros) exponent).position =
      (Numeral.mk negative coefficient (exponent + zeros)).position := by
  unfold position
  simp only [length_digitsOfNat_mul_pow positive]
  omega

/-- **Zeros at the end of a coefficient may be moved into the exponent.** -/
theorem toBinary64_shift (negative : Bool) (coefficient zeros : Nat) (exponent : Int) :
    (Numeral.mk negative (coefficient * 10 ^ zeros) exponent).toBinary64 =
      (Numeral.mk negative coefficient (exponent + zeros)).toBinary64 := by
  rcases Nat.eq_zero_or_pos coefficient with rfl | positive
  · unfold toBinary64
    rw [Nat.zero_mul, if_pos rfl, if_pos rfl]
  have nonzero : coefficient * 10 ^ zeros ≠ 0 :=
    Nat.mul_ne_zero (Nat.ne_of_gt positive) (Nat.ne_of_gt (Nat.pow_pos (by omega)))
  unfold toBinary64
  rw [position_shift positive]
  simp only [if_neg nonzero, if_neg (Nat.ne_of_gt positive)]
  -- The two quotients are equal; which powers of ten cancel depends on the signs of the exponents.
  have quotients : coefficient * 10 ^ zeros * 10 ^ exponent.toNat * unitsPerOne *
      10 ^ (-(exponent + zeros)).toNat =
        coefficient * 10 ^ (exponent + zeros).toNat * unitsPerOne * 10 ^ (-exponent).toNat := by
    have powers : zeros + exponent.toNat + (-(exponent + zeros)).toNat =
        (exponent + zeros).toNat + (-exponent).toNat := by omega
    calc coefficient * 10 ^ zeros * 10 ^ exponent.toNat * unitsPerOne *
          10 ^ (-(exponent + zeros)).toNat
        = coefficient * unitsPerOne *
            10 ^ (zeros + exponent.toNat + (-(exponent + zeros)).toNat) := by
          rw [Nat.pow_add, Nat.pow_add]
          generalize unitsPerOne = units
          ac_rfl
      _ = coefficient * 10 ^ (exponent + zeros).toNat * unitsPerOne * 10 ^ (-exponent).toNat := by
          rw [powers, Nat.pow_add]
          generalize unitsPerOne = units
          ac_rfl
  simp only [Nat.pow_eq]
  rw [Binary64.ofQuotient_congr negative (Nat.pow_pos (by omega)) (Nat.pow_pos (by omega))
    quotients]

end Numeral

/-! ### Integers -/

namespace Finite

theorem unitsPerOne_pos : 0 < unitsPerOne := by
  unfold unitsPerOne
  generalize 1074 = exponent
  exact Nat.two_pow_pos exponent

/-- Zero without a sign, and any other number. -/
def plainZero (value : Finite) : Finite :=
  { value with negative := value.negative && !value.isZero }

theorem natAbs_truncate (value : Finite) : value.truncate.natAbs = value.units / unitsPerOne := by
  unfold truncate
  split
  · rw [Int.natAbs_neg, Int.natAbs_natCast]
  · rw [Int.natAbs_natCast]

/-- **A number without a fraction is the number of its integer**, but for the sign of zero. -/
theorem ofInt_truncate {value : Finite} (whole : value.isWhole = true) :
    Binary64.ofInt value.truncate = .finite value.plainZero := by
  have exact : value.units / unitsPerOne * unitsPerOne = value.units := by
    have rest : value.units % unitsPerOne = 0 := by simpa [isWhole] using whole
    exact Nat.div_mul_cancel (Nat.dvd_of_mod_eq_zero rest)
  have magnitude := natAbs_truncate value
  have sign : decide (value.truncate < 0) = value.plainZero.negative := by
    have zero : value.units / unitsPerOne = 0 ↔ value.units = 0 := by
      constructor
      · intro none
        rw [← exact, none, Nat.zero_mul]
      · intro none
        rw [none, Nat.zero_div]
    unfold truncate plainZero isZero
    generalize value.units / unitsPerOne = integer at zero
    cases value.negative with
    | false => simp
    | true =>
      simp only [if_true, Bool.true_and]
      by_cases none : value.units = 0
      · simp [none, zero.2 none]
      · have positive : 0 < integer := Nat.pos_of_ne_zero fun empty => none (zero.1 empty)
        simp [none, positive]
  unfold Binary64.ofInt
  rw [magnitude, exact, sign]
  exact Binary64.ofQuotient_exact value.plainZero Nat.one_pos (Nat.mul_one _).symm

end Finite

/-- **The integers of documents are in the range of floating point.** -/
theorem Binary64.exists_ofInt {value : Int} (small : value.natAbs ≤ 2 ^ 64) :
    ∃ rounded, Binary64.ofInt value = .finite rounded := by
  have room : 2 * (2 ^ 64 * unitsPerOne) < unitsLimit := by decide +kernel
  have units : nearest (value.natAbs * unitsPerOne) 1 < unitsLimit := by
    refine Nat.lt_of_le_of_lt (nearest_le Nat.one_pos (Nat.le_of_eq (Nat.mul_one _).symm))
      (Nat.lt_of_le_of_lt ?_ room)
    exact Nat.mul_le_mul_left 2 (Nat.mul_le_mul_right _ small)
  unfold Binary64.ofInt Binary64.ofQuotient
  exact ⟨_, dif_pos units⟩

end CatalogSchema.Number
