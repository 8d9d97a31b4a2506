/-
**Printed numbers stay in range.**

Reading in steps rounds three times, so that a numeral below `2 ^ 1024` could come out beyond it. It
does not happen to the text of a number: the three roundings are off by a factor of `1 + 2 ^ -53`
each, and all but the three largest magnitudes leave room for that (`HasRoom`).

* `nearest_above`, `nearest_below`: the relative error of a rounding.
* `exists_stepwise`: what reading in steps makes of the digits, and that it never exceeds them.
* `Numeral.exists_scaled`: a numeral of a number with room does not overflow.
* `eq_largest_of_not_hasRoom`: the numbers without room.
-/

import CatalogSchema.Proofs.Number.Stepwise
import Mathlib.Tactic.Ring

namespace CatalogSchema.Number

/-! ### The error of a rounding -/

/-- The neighbours of a large count are close to it. -/
theorem spacing_mul_le {units : Nat} (large : Nat.pow 2 52 ≤ units) :
    spacing units * Nat.pow 2 52 ≤ units := by
  have positive : units ≠ 0 := Nat.ne_of_gt (Nat.lt_of_lt_of_le (Nat.two_pow_pos 52) large)
  have digits : 52 ≤ units.log2 := (Nat.le_log2 positive).2 large
  calc spacing units * Nat.pow 2 52
      = 2 ^ units.log2 := by
        unfold spacing
        simp only [Nat.pow_eq]
        rw [← Nat.pow_add, Nat.sub_add_cancel digits]
    _ ≤ units := Nat.log2_self_le positive

/-- The grid points around a quotient, for one that is not small. -/
theorem gap_mul_le {numerator denominator : Nat}
    (large : Nat.pow 2 52 ≤ numerator / denominator) :
    spacing (numerator / denominator) * denominator * Nat.pow 2 52 ≤ numerator := by
  calc spacing (numerator / denominator) * denominator * Nat.pow 2 52
      = spacing (numerator / denominator) * Nat.pow 2 52 * denominator := by ac_rfl
    _ ≤ numerator / denominator * denominator := Nat.mul_le_mul_right _ (spacing_mul_le large)
    _ ≤ numerator := Nat.div_mul_le_self _ _

/-- **Rounding adds a fraction of `2 ^ -53` at most.** -/
theorem nearest_above {numerator denominator : Nat} (positive : 0 < denominator)
    (large : Nat.pow 2 52 ≤ numerator / denominator) :
    nearest numerator denominator * denominator * Nat.pow 2 53 ≤
      numerator * (Nat.pow 2 53 + 1) := by
  have error := (nearest_error numerator positive).2
  have gap := gap_mul_le large
  have two : Nat.pow 2 53 = 2 * Nat.pow 2 52 := by decide
  rw [two]
  generalize Nat.pow 2 52 = scale at gap ⊢
  calc nearest numerator denominator * denominator * (2 * scale)
      = 2 * (nearest numerator denominator * denominator) * scale := by ac_rfl
    _ ≤ (2 * numerator + spacing (numerator / denominator) * denominator) * scale :=
        Nat.mul_le_mul_right scale error
    _ = 2 * numerator * scale + spacing (numerator / denominator) * denominator * scale :=
        Nat.add_mul _ _ _
    _ ≤ 2 * numerator * scale + numerator := Nat.add_le_add_left gap _
    _ = numerator * (2 * scale + 1) := by ring

/-- **Rounding takes away a fraction of `2 ^ -53` at most.** -/
theorem nearest_below {numerator denominator : Nat} (positive : 0 < denominator)
    (large : Nat.pow 2 52 ≤ numerator / denominator) :
    numerator * (Nat.pow 2 53 - 1) ≤ nearest numerator denominator * denominator *
      Nat.pow 2 53 := by
  have error := (nearest_error numerator positive).1
  have gap := gap_mul_le large
  have two : Nat.pow 2 53 = 2 * Nat.pow 2 52 := by decide
  rw [two, Nat.mul_sub_one]
  generalize Nat.pow 2 52 = scale at gap ⊢
  refine Nat.sub_le_of_le_add ?_
  calc numerator * (2 * scale)
      = 2 * numerator * scale := by ac_rfl
    _ ≤ (2 * nearest numerator denominator + spacing (numerator / denominator)) *
      denominator * scale :=
        Nat.mul_le_mul_right scale error
    _ = nearest numerator denominator * denominator * (2 * scale) +
          spacing (numerator / denominator) * denominator * scale := by ring
    _ ≤ nearest numerator denominator * denominator * (2 * scale) + numerator :=
        Nat.add_le_add_left gap _

/-! ### The range -/

/-- Half the distance between the largest magnitudes. -/
def topHalfGap : Nat := Nat.pow 2 2044

theorem topHalfGap_pos : 0 < topHalfGap := by
  unfold topHalfGap
  generalize 2044 = exponent
  exact Nat.two_pow_pos exponent

/-- The largest magnitudes and the limit as powers of two. -/
theorem exists_top_bits :
    ∃ bits, 2 * topHalfGap = Nat.pow 2 bits ∧ unitsLimit = Nat.pow 2 (bits + 53) ∧
      Nat.pow 2 (bits + 52) ≤ (Nat.pow 2 54 - 8) * topHalfGap ∧
      unitsLimit = Nat.pow 2 54 * topHalfGap :=
  ⟨2045, by decide +kernel⟩

theorem unitsLimit_eq : unitsLimit = Nat.pow 2 54 * topHalfGap := by
  obtain ⟨-, -, -, -, limit⟩ := exists_top_bits
  exact limit

/-- The limit as a whole number: it is far above the 64-bit counts and below the first power of ten
that is no floating point number. -/
theorem exists_whole_limit : ∃ limit, unitsLimit = limit * unitsPerOne ∧ 8 * Nat.pow 2 64 < limit ∧
    limit * Nat.pow 2 53 ≤ Nat.pow 10 (largestPower + 1) * (Nat.pow 2 53 - 1) ∧
      Nat.pow 2 52 ≤ unitsPerOne :=
  ⟨Nat.pow 2 1024, by decide +kernel⟩

theorem two_pow_le_unitsPerOne : Nat.pow 2 52 ≤ unitsPerOne := by
  obtain ⟨-, -, -, -, small⟩ := exists_whole_limit
  exact small

theorem spacing_le_pow {units bits : Nat} (small : units < Nat.pow 2 (bits + 53)) :
    spacing units ≤ Nat.pow 2 bits := by
  have digits : units.log2 < bits + 53 := by
    rcases Nat.eq_zero_or_pos units with rfl | positive
    · exact Nat.succ_pos _
    · exact (Nat.log2_lt (Nat.ne_of_gt positive)).2 small
  exact Nat.pow_le_pow_right (by omega) (by omega)

/-- The grid is nowhere wider than at its end. -/
theorem spacing_le_top {units : Nat} (inRange : units < unitsLimit) :
    spacing units ≤ 2 * topHalfGap := by
  obtain ⟨bits, top, limit, -, -⟩ := exists_top_bits
  rw [top]
  exact spacing_le_pow (limit ▸ inRange)

/-- **A quotient below the middle between the largest magnitude and the limit stays in range.** -/
theorem nearest_lt_unitsLimit {numerator denominator : Nat} (positive : 0 < denominator)
    (below : numerator < (Nat.pow 2 54 - 1) * topHalfGap * denominator) :
    nearest numerator denominator < unitsLimit := by
  have limit : unitsLimit = (Nat.pow 2 54 - 1) * topHalfGap + topHalfGap := by
    rw [unitsLimit_eq, ← Nat.succ_mul]
  have quotient : numerator / denominator < unitsLimit := by
    have bound := (Nat.div_lt_iff_lt_mul positive).2 below
    omega
  have gap := Nat.mul_le_mul_right denominator (spacing_le_top quotient)
  have error := (nearest_error numerator positive).2
  rw [limit]
  generalize topHalfGap = half at below gap ⊢
  generalize (Nat.pow 2 54 - 1) * half = room at below ⊢
  refine Nat.lt_of_mul_lt_mul_right (a := denominator) ?_
  rw [Nat.add_mul]
  rw [Nat.mul_assoc] at gap
  omega

/-- A quotient that stays in range is a finite number. -/
theorem exists_ofQuotient (negative : Bool) {numerator denominator : Nat}
    (inRange : nearest numerator denominator < unitsLimit) :
    ∃ value : Finite, Binary64.ofQuotient negative numerator denominator = .finite value ∧
      value.units = nearest numerator denominator := by
  refine ⟨⟨negative, _, inRange, aligned_nearest numerator denominator⟩, ?_, rfl⟩
  unfold Binary64.ofQuotient
  exact dif_pos inRange

theorem nearest_of_ofQuotient {negative : Bool} {numerator denominator : Nat} {value : Finite}
    (rounded : Binary64.ofQuotient negative numerator denominator = .finite value) :
    nearest numerator denominator = value.units := by
  unfold Binary64.ofQuotient at rounded
  dsimp only at rounded
  split at rounded
  · cases rounded
    rfl
  · cases rounded

/-! ### Digits -/

theorem mul_pow_le_appendDigits (count : Nat) (digits : List Char) :
    count * 10 ^ digits.length ≤ appendDigits count digits := by
  induction digits generalizing count with
  | nil => exact Nat.le_of_eq (Nat.mul_one count)
  | cons digit digits ih =>
    calc count * 10 ^ (digits.length + 1)
        = 10 * count * 10 ^ digits.length := by rw [Nat.pow_succ]; ac_rfl
      _ ≤ (10 * count + (digit.toNat - '0'.toNat)) * 10 ^ digits.length :=
          Nat.mul_le_mul_right _ (Nat.le_add_right _ _)
      _ ≤ appendDigits (10 * count + (digit.toNat - '0'.toNat)) digits := ih _

/-- **The digits that a count has no room for** make the number at least ten times as large each. -/
theorem takeDigits_bounds {count : Nat} (room : count < Nat.pow 2 64) (digits : List Char) :
    (takeDigits count digits).1 < Nat.pow 2 64 ∧
      (takeDigits count digits).2.length ≤ digits.length ∧
      (takeDigits count digits).1 * 10 ^ (takeDigits count digits).2.length ≤
        appendDigits count digits := by
  induction digits generalizing count with
  | nil => exact ⟨room, Nat.le_refl 0, Nat.le_of_eq (Nat.mul_one count)⟩
  | cons digit digits ih =>
    rw [takeDigits]
    split
    · rename_i fits
      obtain ⟨taken, left, bound⟩ := ih fits
      exact ⟨taken, Nat.le_succ_of_le left, bound⟩
    · exact ⟨room, Nat.le_refl _, mul_pow_le_appendDigits count (digit :: digits)⟩

/-- Either all digits are taken, or the next one would have made the count too large. -/
theorem takeDigits_full (count : Nat) (digits : List Char) :
    (takeDigits count digits).2 = [] ∧ (takeDigits count digits).1 = appendDigits count digits ∨
      ∃ digit rest, (takeDigits count digits).2 = digit :: rest ∧
        ∃ more, Nat.pow 2 64 ≤ more ∧ 10 * (takeDigits count digits).1 ≤ more ∧
          more * 10 ^ rest.length ≤ appendDigits count digits := by
  induction digits generalizing count with
  | nil => exact .inl ⟨rfl, rfl⟩
  | cons digit digits ih =>
    rw [takeDigits]
    split
    · exact ih _
    · rename_i full
      exact .inr ⟨digit, digits, rfl, _, Nat.le_of_not_lt full, Nat.le_add_right _ _,
        mul_pow_le_appendDigits _ digits⟩

/-- The digits of a fraction go on with the count, even after a digit before the point was left
over. -/
theorem takeDigits_after {count more : Nat} {rest : List Char}
    (full : Nat.pow 2 64 ≤ more) (next : 10 * count ≤ more) (fraction : List Char) :
    (takeDigits count fraction).1 * 10 ^ (rest.length + 1 + (takeDigits count fraction).2.length) ≤
      more * 10 ^ rest.length * 10 ^ fraction.length := by
  have unread : count * 10 ^ (rest.length + 1 + fraction.length) ≤
      more * 10 ^ rest.length * 10 ^ fraction.length := by
    calc count * 10 ^ (rest.length + 1 + fraction.length)
        = 10 * count * 10 ^ rest.length * 10 ^ fraction.length := by
          rw [Nat.pow_add, Nat.pow_succ]
          ac_rfl
      _ ≤ more * 10 ^ rest.length * 10 ^ fraction.length :=
          Nat.mul_le_mul_right _ (Nat.mul_le_mul_right _ next)
  cases fraction with
  | nil => exact unread
  | cons digit fraction =>
    rw [takeDigits]
    split
    · rename_i fits
      obtain ⟨taken, left, -⟩ := takeDigits_bounds fits fraction
      calc _ ≤ more * 10 ^ (rest.length + 1 + fraction.length) := by
            refine Nat.mul_le_mul (Nat.le_of_lt (Nat.lt_of_lt_of_le taken full)) ?_
            exact Nat.pow_le_pow_right (by omega) (by omega)
        _ = more * 10 ^ rest.length * 10 ^ (fraction.length + 1) := by
            rw [Nat.mul_assoc, ← Nat.pow_add]
            congr 2
            omega
    · exact unread

/-- **What reading in steps makes of the digits**: a 64-bit coefficient and a greater exponent,
which denote no more than the digits do. -/
theorem exists_stepwise (negative : Bool) (whole fraction : List Char) (exponent : Int) :
    ∃ coefficient zeros : Nat, coefficient < Nat.pow 2 64 ∧
      coefficient * 10 ^ zeros ≤ natOfDigits (whole ++ fraction) ∧
      stepwise negative whole fraction exponent =
        Numeral.scaled ⟨negative, coefficient, exponent - fraction.length + zeros⟩ := by
  have room : 0 < Nat.pow 2 64 := Nat.two_pow_pos 64
  obtain ⟨taken, -, -⟩ := takeDigits_bounds room whole
  have after := takeDigits_full 0 whole
  unfold stepwise
  rw [← appendDigits_append]
  generalize takeDigits 0 whole = start at taken after ⊢
  obtain ⟨count, large⟩ := start
  dsimp only at taken after ⊢
  obtain ⟨small, left, bound⟩ := takeDigits_bounds taken fraction
  refine ⟨(takeDigits count fraction).1, large.length + (takeDigits count fraction).2.length,
    small, ?_, ?_⟩
  · rcases after with ⟨rfl, rfl⟩ | ⟨digit, rest, rfl, more, full, next, denotes⟩
    · rw [List.length_nil, Nat.zero_add]
      exact bound
    · calc _ ≤ more * 10 ^ rest.length * 10 ^ fraction.length :=
            takeDigits_after full next fraction
        _ ≤ appendDigits 0 whole * 10 ^ fraction.length := Nat.mul_le_mul_right _ denotes
        _ ≤ appendDigits (appendDigits 0 whole) fraction := mul_pow_le_appendDigits _ fraction
  · congr 2
    omega

/-! ### Scaling down -/

theorem Binary64.andThen_finite (value : Finite) (next : Finite → Binary64) :
    (Binary64.finite value).andThen next = next value := rfl

/-- The powers of ten are one at least. -/
theorem unitsPerOne_le_tenPower {power : Nat} (positive : 0 < power) :
    unitsPerOne ≤ tenPower power := by
  have error := (nearest_error (Nat.pow 10 power * unitsPerOne) Nat.one_pos).1
  have ten : 2 * unitsPerOne ≤ Nat.pow 10 power * unitsPerOne := by
    have two : 2 ≤ Nat.pow 10 power :=
      Nat.le_trans (by decide) (Nat.pow_le_pow_right (n := 10) (by decide) positive)
    exact Nat.mul_le_mul_right _ two
  have gap := spacing_le (Nat.pow 10 power * unitsPerOne)
  have one : 0 < unitsPerOne := Finite.unitsPerOne_pos
  unfold tenPower
  rw [Nat.div_one, Nat.mul_one] at error
  omega

namespace Finite

/-- **Dividing by a power of ten doubles a count of units at most.** -/
theorem exists_dividedBy {value : Finite} {power : Nat} (positive : 0 < power)
    (room : 2 * value.units < unitsLimit) :
    ∃ quotient, value.dividedBy (tenPower power) = .finite quotient ∧
      quotient.units ≤ 2 * value.units := by
  have divisor := unitsPerOne_le_tenPower positive
  have bound : nearest (value.units * unitsPerOne) (tenPower power) ≤ 2 * value.units :=
    nearest_le (Nat.lt_of_lt_of_le unitsPerOne_pos divisor) (Nat.mul_le_mul_left _ divisor)
  obtain ⟨quotient, rounded, units⟩ :=
    exists_ofQuotient value.negative (Nat.lt_of_le_of_lt bound room)
  exact ⟨quotient, rounded, units ▸ bound⟩

/-- **A small count divided by powers of ten stays in range.** -/
theorem exists_overPower {value : Finite} {power : Nat} (positive : 0 < power)
    (room : 4 * value.units < unitsLimit) :
    ∃ quotient, value.overPower power = .finite quotient := by
  have double : 2 * value.units < unitsLimit :=
    Nat.lt_of_le_of_lt (Nat.mul_le_mul_right _ (by decide)) room
  unfold overPower
  split
  · obtain ⟨quotient, divided, -⟩ := exists_dividedBy positive double
    exact ⟨quotient, divided⟩
  · rename_i large
    split
    · have largest : 0 < largestPower := by decide
      obtain ⟨part, first, units⟩ := exists_dividedBy largest double
      have again : 2 * part.units < unitsLimit := by
        refine Nat.lt_of_le_of_lt (Nat.mul_le_mul_left 2 units) ?_
        rwa [← Nat.mul_assoc]
      obtain ⟨quotient, second, -⟩ :=
        exists_dividedBy (Nat.sub_pos_of_lt (Nat.lt_of_not_le large)) again
      rw [first, Binary64.andThen_finite]
      exact ⟨quotient, second⟩
    · exact ⟨_, rfl⟩

end Finite

/-! ### Scaling up -/

/-- The magnitudes that leave room for the error of reading in steps: all but the three largest. -/
def Finite.HasRoom (value : Finite) : Prop := value.units ≤ (Nat.pow 2 54 - 8) * topHalfGap

section Products

variable {count factor first second one units scale less most up down gap : Nat}

/-- The error of two roundings, and of the one by which the exact product is a number. -/
theorem product_le (countAbove : count * scale ≤ first * one * (scale + 1))
    (factorAbove : factor * scale ≤ second * one * (scale + 1))
    (productBelow : first * second * one * less ≤ units * scale) :
    count * factor * (scale * scale * less) ≤ units * one * (scale * (scale + 1) ^ 2) := by
  calc count * factor * (scale * scale * less)
      = count * scale * (factor * scale) * less := by ac_rfl
    _ ≤ first * one * (scale + 1) * (second * one * (scale + 1)) * less :=
        Nat.mul_le_mul_right _ (Nat.mul_le_mul countAbove factorAbove)
    _ = first * second * one * less * (one * (scale + 1) ^ 2) := by ring
    _ ≤ units * scale * (one * (scale + 1) ^ 2) := Nat.mul_le_mul_right _ productBelow
    _ = units * one * (scale * (scale + 1) ^ 2) := by ac_rfl

/-- A product within an error is in range if the error fits into the room. -/
theorem product_lt (error : count * down ≤ units * one * up) (hasRoom : units ≤ less * gap)
    (fits : less * up < most * down) (positive : 0 < gap * one) : count < most * gap * one := by
  refine Nat.lt_of_mul_lt_mul_right (a := down) ?_
  calc count * down
      ≤ units * one * up := error
    _ ≤ less * gap * one * up := Nat.mul_le_mul_right _ (Nat.mul_le_mul_right _ hasRoom)
    _ = less * up * (gap * one) := by ac_rfl
    _ < most * down * (gap * one) := Nat.mul_lt_mul_of_pos_right fits positive
    _ = most * gap * one * down := by ac_rfl

/-- A factor of a number in range. -/
theorem factor_lt (positive : 0 < first) (scalePositive : 0 < scale) (inRange : units < most * one)
    (productBelow : first * second * one * less ≤ units * scale) :
    second * less < most * scale := by
  refine Nat.lt_of_mul_lt_mul_right (a := one) ?_
  calc second * less * one
      ≤ first * (second * less * one) := Nat.le_mul_of_pos_left _ positive
    _ = first * second * one * less := by ac_rfl
    _ ≤ units * scale := productBelow
    _ < most * one * scale := Nat.mul_lt_mul_of_pos_right inRange scalePositive
    _ = most * scale * one := by ac_rfl

end Products

/-- A whole number, rounded. -/
theorem whole_above {whole : Nat} (positive : 0 < whole) :
    nearest (whole * unitsPerOne) 1 * Nat.pow 2 53 ≤ whole * unitsPerOne * (Nat.pow 2 53 + 1) := by
  have large : Nat.pow 2 52 ≤ whole * unitsPerOne / 1 := by
    rw [Nat.div_one]
    exact Nat.le_trans two_pow_le_unitsPerOne (Nat.le_mul_of_pos_left _ positive)
  have above := nearest_above Nat.one_pos large
  rwa [Nat.mul_one] at above

theorem le_of_pow_mul_lt {base power other less : Nat} (large : 1 < base)
    (below : Nat.pow base power * less < Nat.pow base (other + 1) * less) : power ≤ other :=
  Nat.le_of_lt_succ ((Nat.pow_lt_pow_iff_right large).1 (Nat.lt_of_mul_lt_mul_right below))

/-- A power of ten that fits into a number is no greater than the largest one. -/
theorem le_largestPower {value : Finite} {coefficient power : Nat} (positive : 0 < coefficient)
    (below : coefficient * Nat.pow 10 power * unitsPerOne * (Nat.pow 2 53 - 1) ≤
      value.units * Nat.pow 2 53) : power ≤ largestPower := by
  obtain ⟨most, limit, -, beyond, -⟩ := exists_whole_limit
  have inRange := Nat.lt_of_lt_of_eq value.inRange limit
  have small := Nat.lt_of_lt_of_le (factor_lt positive (Nat.two_pow_pos 53) inRange below) beyond
  exact le_of_pow_mul_lt (by decide) small

/-- **A coefficient times a power of ten stays in range**, if their product is about a number with
room. -/
theorem Finite.exists_timesPower {value count : Finite} (hasRoom : value.HasRoom)
    {coefficient power : Nat} (positive : 0 < coefficient)
    (units : count.units = nearest (coefficient * unitsPerOne) 1)
    (below : coefficient * Nat.pow 10 power * unitsPerOne * (Nat.pow 2 53 - 1) ≤
      value.units * Nat.pow 2 53) : ∃ product, count.timesPower power = .finite product := by
  have error := product_le (whole_above positive)
    (whole_above (Nat.pow_pos (n := power) (by decide))) below
  have fits : (Nat.pow 2 54 - 8) * (Nat.pow 2 53 * (Nat.pow 2 53 + 1) ^ 2) <
      (Nat.pow 2 54 - 1) * (Nat.pow 2 53 * Nat.pow 2 53 * (Nat.pow 2 53 - 1)) := by decide
  have room := product_lt error hasRoom fits (Nat.mul_pos topHalfGap_pos unitsPerOne_pos)
  obtain ⟨product, rounded, -⟩ :=
    exists_ofQuotient count.negative (nearest_lt_unitsLimit unitsPerOne_pos room)
  unfold timesPower
  rw [if_pos (le_largestPower positive below), times, units]
  exact ⟨product, rounded⟩

/-! ### Numerals -/

namespace Numeral

/-- A numeral of one at least is rounded at once. -/
theorem nearest_of_toBinary64 {numeral : Numeral} {value : Finite} {zeros : Nat}
    (reads : numeral.toBinary64 = .finite value) (digits : 10 ^ zeros ≤ numeral.coefficient)
    (up : 0 ≤ numeral.exponent + zeros) :
    nearest (numeral.coefficient * Nat.pow 10 numeral.exponent.toNat * unitsPerOne)
      (Nat.pow 10 (-numeral.exponent).toNat) = value.units := by
  have positive : numeral.coefficient ≠ 0 :=
    Nat.ne_of_gt (Nat.lt_of_lt_of_le (Nat.pow_pos (by decide)) digits)
  have length : zeros < (digitsOfNat numeral.coefficient).length :=
    Nat.lt_of_not_le fun short =>
      Nat.not_lt_of_le digits ((Nat.length_toDigits_le_iff (by decide)
        (Nat.pos_of_ne_zero fun none => by simp [none, digitsOfNat] at short)).1 short)
  have inside : ¬ numeral.position < -330 := by
    unfold position
    omega
  unfold toBinary64 at reads
  rw [if_neg positive] at reads
  by_cases large : 310 < numeral.position
  · rw [if_pos large] at reads
    cases reads
  · rw [if_neg large, if_neg inside] at reads
    exact nearest_of_ofQuotient reads

/-- Zeros moved from the coefficient into the exponent, as exact quotients. -/
theorem quotient_le {numeral : Numeral} {coefficient zeros : Nat}
    (denotes : coefficient * 10 ^ zeros ≤ numeral.coefficient) (up : 0 ≤ numeral.exponent + zeros) :
    coefficient * Nat.pow 10 (numeral.exponent + zeros).natAbs * unitsPerOne *
        Nat.pow 10 (-numeral.exponent).toNat ≤
      numeral.coefficient * Nat.pow 10 numeral.exponent.toNat * unitsPerOne := by
  have powers : (numeral.exponent + zeros).natAbs + (-numeral.exponent).toNat =
      zeros + numeral.exponent.toNat := by omega
  simp only [Nat.pow_eq]
  calc coefficient * 10 ^ (numeral.exponent + zeros).natAbs * unitsPerOne *
        10 ^ (-numeral.exponent).toNat
      = coefficient *
          10 ^ ((numeral.exponent + zeros).natAbs + (-numeral.exponent).toNat) * unitsPerOne := by
        rw [Nat.pow_add]
        generalize unitsPerOne = units
        ac_rfl
    _ = coefficient * 10 ^ zeros * 10 ^ numeral.exponent.toNat * unitsPerOne := by
        rw [powers, Nat.pow_add, ← Nat.mul_assoc coefficient]
    _ ≤ numeral.coefficient * 10 ^ numeral.exponent.toNat * unitsPerOne :=
        Nat.mul_le_mul_right _ (Nat.mul_le_mul_right _ denotes)

/-- A smaller coefficient with zeros moved into the exponent denotes no more than the number. -/
theorem coefficient_below {numeral : Numeral} {value : Finite} {coefficient zeros : Nat}
    (reads : numeral.toBinary64 = .finite value) (positive : 0 < coefficient)
    (denotes : coefficient * 10 ^ zeros ≤ numeral.coefficient) (up : 0 ≤ numeral.exponent + zeros) :
    coefficient * Nat.pow 10 (numeral.exponent + zeros).natAbs * unitsPerOne * (Nat.pow 2 53 - 1) ≤
      value.units * Nat.pow 2 53 := by
  have rounded := nearest_of_toBinary64 reads
    (Nat.le_trans (Nat.le_mul_of_pos_left _ positive) denotes) up
  have exact := quotient_le denotes up
  have divisorPositive : 0 < Nat.pow 10 (-numeral.exponent).toNat := Nat.pow_pos (by decide)
  have large : Nat.pow 2 52 ≤ numeral.coefficient * Nat.pow 10 numeral.exponent.toNat *
      unitsPerOne / Nat.pow 10 (-numeral.exponent).toNat := by
    refine Nat.le_trans ?_ ((Nat.le_div_iff_mul_le divisorPositive).2 exact)
    exact Nat.le_trans two_pow_le_unitsPerOne
      (Nat.le_mul_of_pos_left _ (Nat.mul_pos positive (Nat.pow_pos (by decide))))
  have below := nearest_below divisorPositive large
  rw [rounded] at below
  refine Nat.le_of_mul_le_mul_right ?_ divisorPositive
  calc _ = coefficient * Nat.pow 10 (numeral.exponent + zeros).natAbs * unitsPerOne *
          Nat.pow 10 (-numeral.exponent).toNat * (Nat.pow 2 53 - 1) := Nat.mul_right_comm _ _ _
    _ ≤ _ := Nat.mul_le_mul_right _ exact
    _ ≤ _ := below
    _ = value.units * Nat.pow 2 53 * Nat.pow 10 (-numeral.exponent).toNat :=
      Nat.mul_right_comm _ _ _

/-- A 64-bit coefficient is rounded to a number far from the limit. -/
theorem exists_count (negative : Bool) {coefficient : Nat} (small : coefficient < Nat.pow 2 64) :
    ∃ count, Binary64.ofQuotient negative (coefficient * unitsPerOne) 1 = .finite count ∧
      count.units = nearest (coefficient * unitsPerOne) 1 ∧ 4 * count.units < unitsLimit := by
  have bound : nearest (coefficient * unitsPerOne) 1 ≤ 2 * (Nat.pow 2 64 * unitsPerOne) := by
    refine nearest_le Nat.one_pos ?_
    rw [Nat.mul_one]
    exact Nat.mul_le_mul_right _ (Nat.le_of_lt small)
  have within : 4 * nearest (coefficient * unitsPerOne) 1 < unitsLimit := by
    obtain ⟨limit, whole, far, -, -⟩ := exists_whole_limit
    calc 4 * nearest (coefficient * unitsPerOne) 1
        ≤ 4 * (2 * (Nat.pow 2 64 * unitsPerOne)) := Nat.mul_le_mul_left 4 bound
      _ = 8 * Nat.pow 2 64 * unitsPerOne := by rw [← Nat.mul_assoc, ← Nat.mul_assoc]
      _ < limit * unitsPerOne := Nat.mul_lt_mul_of_pos_right far Finite.unitsPerOne_pos
      _ = unitsLimit := whole.symm
  obtain ⟨count, rounded, units⟩ := exists_ofQuotient negative
    (Nat.lt_of_le_of_lt (Nat.le_mul_of_pos_left _ (by decide)) within)
  exact ⟨count, rounded, units, units ▸ within⟩

/-- **A numeral of a number with room does not overflow when it is read in steps.** -/
theorem exists_scaled {numeral : Numeral} {value : Finite}
    (reads : numeral.toBinary64 = .finite value) (hasRoom : value.HasRoom) {coefficient zeros : Nat}
    (small : coefficient < Nat.pow 2 64)
    (denotes : coefficient * 10 ^ zeros ≤ numeral.coefficient) :
    ∃ result, (Numeral.mk numeral.negative coefficient (numeral.exponent + zeros)).scaled =
      .finite result := by
  obtain ⟨count, rounded, units, room⟩ := exists_count numeral.negative small
  unfold scaled
  rw [rounded, Binary64.andThen_finite]
  unfold Finite.scale
  by_cases zero : count.isZero = true
  · rw [if_pos zero]
    exact ⟨count, rfl⟩
  rw [if_neg zero]
  have positive : 0 < coefficient := by
    refine Nat.pos_of_ne_zero fun none => zero (decide_eq_true ?_)
    rw [units, none, Nat.zero_mul]
    exact nearest_of_aligned (Nat.dvd_zero _)
  by_cases up : 0 ≤ numeral.exponent + zeros
  · rw [if_pos up]
    exact Finite.exists_timesPower hasRoom positive units
      (coefficient_below reads positive denotes up)
  · rw [if_neg up]
    exact Finite.exists_overPower (Int.natAbs_pos.2 fun none => up (Int.le_of_eq none.symm)) room

end Numeral

/-- **The text of a number with room does not overflow when it is read in steps.** -/
theorem exists_stepwise_finite {negative : Bool} {whole fraction : List Char} {exponent : Int}
    {value : Finite} (hasRoom : value.HasRoom)
    (reads : (Numeral.ofParts negative whole fraction exponent).toBinary64 = .finite value) :
    ∃ result, stepwise negative whole fraction exponent = .finite result := by
  obtain ⟨coefficient, zeros, small, denotes, same⟩ :=
    exists_stepwise negative whole fraction exponent
  rw [same]
  exact Numeral.exists_scaled reads hasRoom small denotes

/-! ### The largest magnitudes -/

theorem aligned_top {mantissa : Nat} (small : mantissa ≤ Nat.pow 2 53) :
    spacing (mantissa * (2 * topHalfGap)) ∣ mantissa * (2 * topHalfGap) := by
  obtain ⟨bits, top, -⟩ := exists_top_bits
  rw [top]
  exact spacing_dvd_mul_two_pow small

theorem largest_inRange (below : Fin 3) :
    (Nat.pow 2 53 - (below.val + 1)) * (2 * topHalfGap) < unitsLimit := by
  have two : Nat.pow 2 54 = Nat.pow 2 53 * 2 := by decide
  rw [unitsLimit_eq, two, Nat.mul_assoc]
  exact Nat.mul_lt_mul_of_pos_right (Nat.sub_lt (Nat.two_pow_pos 53) (Nat.succ_pos _))
    (Nat.mul_pos (by decide) topHalfGap_pos)

/-- The largest magnitude and the two below it. -/
def largest (negative : Bool) (below : Fin 3) : Finite :=
  ⟨negative, (Nat.pow 2 53 - (below.val + 1)) * (2 * topHalfGap), largest_inRange below,
    aligned_top (Nat.sub_le _ _)⟩

theorem eq_largest {value : Finite} {below : Fin 3}
    (units : value.units = (Nat.pow 2 53 - (below.val + 1)) * (2 * topHalfGap)) :
    value = largest value.negative below := by
  obtain ⟨negative, count, inRange, aligned⟩ := value
  unfold largest
  congr

/-- **The numbers without room are the three largest magnitudes.** -/
theorem eq_largest_of_not_hasRoom {value : Finite} (tight : ¬ value.HasRoom) :
    ∃ below, value = largest value.negative below := by
  have large := Nat.lt_of_not_le tight
  have inRange := value.inRange
  have wide : spacing value.units = 2 * topHalfGap := by
    refine Nat.le_antisymm (spacing_le_top inRange) ?_
    obtain ⟨bits, top, -, half, -⟩ := exists_top_bits
    have positive : value.units ≠ 0 := Nat.ne_of_gt (Nat.zero_lt_of_lt large)
    have digits : bits + 52 ≤ value.units.log2 :=
      (Nat.le_log2 positive).2 (Nat.le_of_lt (Nat.lt_of_le_of_lt half large))
    rw [top]
    exact Nat.pow_le_pow_right (by decide) (Nat.le_sub_of_add_le digits)
  obtain ⟨steps, multiple⟩ := wide ▸ value.aligned
  have exact : value.units = 2 * steps * topHalfGap := multiple.trans (Nat.mul_right_comm _ _ _)
  rw [exact] at large inRange
  have least := Nat.lt_of_mul_lt_mul_right large
  have most := Nat.lt_of_mul_lt_mul_right (Nat.lt_of_lt_of_eq inRange unitsLimit_eq)
  have count : steps < Nat.pow 2 53 ∧ Nat.pow 2 53 ≤ steps + 3 := by
    have two : Nat.pow 2 54 = 2 * Nat.pow 2 53 := by decide
    omega
  have same : Nat.pow 2 53 - (Nat.pow 2 53 - 1 - steps + 1) = steps := by omega
  refine ⟨⟨Nat.pow 2 53 - 1 - steps, by omega⟩, eq_largest ?_⟩
  rw [same, multiple, Nat.mul_comm]

end CatalogSchema.Number
