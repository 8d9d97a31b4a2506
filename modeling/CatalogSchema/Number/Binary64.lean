/-
**Double-precision floating point numbers, exactly.**

A finite number is a sign and a count of units of `2 ^ -1074`, the least positive magnitude. A count
is admitted when it has at most 53 significant bits and stays below `2 ^ 1024`, so that every
admitted pair is one number of the format and all arithmetic is arithmetic of natural numbers.

* `nearest`: the admitted count next to a quotient, ties to the even neighbour.
* `aligned_nearest`: what `nearest` returns has at most 53 significant bits.
-/

namespace CatalogSchema.Number

/-! ### The grid of magnitudes -/

/-- Units in one: the least positive magnitude is `2 ^ -1074`. -/
def unitsPerOne : Nat := Nat.pow 2 1074

/-- The first count of units that is out of range: `2 ^ 1024`. -/
def unitsLimit : Nat := Nat.pow 2 2098

/-- The distance between neighbouring magnitudes at a count of units. -/
def spacing (units : Nat) : Nat := Nat.pow 2 (units.log2 - 52)

/-- The grid point nearest to `numerator / denominator` units; a tie goes to the even neighbour. -/
def nearest (numerator denominator : Nat) : Nat :=
  let gap := spacing (numerator / denominator)
  let step := denominator * gap
  let below := numerator / step
  let excess := 2 * (numerator % step)
  let chosen := if excess < step then below
    else if excess = step then below + below % 2 else below + 1
  chosen * gap

theorem spacing_dvd_mul_two_pow {mantissa shift : Nat} (small : mantissa ≤ Nat.pow 2 53)
    : spacing (mantissa * Nat.pow 2 shift) ∣ mantissa * Nat.pow 2 shift := by
  unfold spacing
  simp only [Nat.pow_eq] at small ⊢
  rcases Nat.eq_zero_or_pos mantissa with rfl | positive
  · simp
  rcases Nat.lt_or_eq_of_le small with below | rfl
  · have nonzero : mantissa * 2 ^ shift ≠ 0 :=
      Nat.mul_ne_zero (Nat.ne_of_gt positive) (Nat.ne_of_gt (Nat.two_pow_pos shift))
    have bound : mantissa * 2 ^ shift < 2 ^ (53 + shift) := by
      rw [Nat.pow_add]
      exact Nat.mul_lt_mul_of_pos_right below (Nat.two_pow_pos shift)
    have small := (Nat.log2_lt nonzero).2 bound
    exact Nat.dvd_mul_left_of_dvd (Nat.pow_dvd_pow 2 (by omega)) mantissa
  · rw [← Nat.pow_add, Nat.log2_two_pow]
    exact Nat.pow_dvd_pow 2 (by omega)

theorem below_le {numerator denominator : Nat} :
    numerator / (denominator * spacing (numerator / denominator)) < Nat.pow 2 53 := by
  rw [← Nat.div_div_eq_div_mul]
  generalize numerator / denominator = whole
  unfold spacing
  simp only [Nat.pow_eq]
  rw [Nat.div_lt_iff_lt_mul (Nat.two_pow_pos _), ← Nat.pow_add]
  rcases Nat.eq_zero_or_pos whole with rfl | positive
  · exact Nat.two_pow_pos _
  · exact (Nat.log2_lt (Nat.ne_of_gt positive)).1 (by omega)

/-- A rounded count has at most 53 significant bits. -/
theorem aligned_nearest (numerator denominator : Nat) :
    spacing (nearest numerator denominator) ∣ nearest numerator denominator := by
  have bound := @below_le numerator denominator
  unfold nearest
  simp only
  generalize numerator / (denominator * spacing (numerator / denominator)) = below at bound ⊢
  unfold spacing
  refine spacing_dvd_mul_two_pow ?_
  split
  · omega
  · split <;> omega

/-! ### The numbers -/

/-- A finite number: a sign and a magnitude on the grid. Zero has both signs. -/
structure Finite where
  /-- The sign. -/
  negative : Bool
  /-- The magnitude, in units of `2 ^ -1074`. -/
  units : Nat
  inRange : units < unitsLimit
  aligned : spacing units ∣ units
  deriving DecidableEq

/-- A double-precision number: finite, an infinity, or not a number. -/
inductive Binary64 where
  | finite (value : Finite)
  | infinite (negative : Bool)
  | notANumber
  deriving DecidableEq

theorem unitsLimit_pos : 0 < unitsLimit := by
  unfold unitsLimit
  generalize 2098 = exponent
  exact Nat.two_pow_pos exponent

namespace Finite

/-- Zero with a sign. -/
def zero (negative : Bool) : Finite := ⟨negative, 0, unitsLimit_pos, Nat.dvd_zero _⟩

instance : Inhabited Finite := ⟨zero false⟩

/-- Holds of both zeros. -/
def isZero (value : Finite) : Bool := value.units = 0

/-- The number with its sign turned. -/
def negate (value : Finite) : Finite := { value with negative := !value.negative }

/-- The signed count of units; both zeros give zero. -/
def signedUnits (value : Finite) : Int :=
  if value.negative then -(value.units : Int) else value.units

/-- Holds of the numbers without a fraction. -/
def isWhole (value : Finite) : Bool := value.units % unitsPerOne = 0

/-- The number without its fraction. -/
def truncate (value : Finite) : Int :=
  if value.negative then -((value.units / unitsPerOne : Nat) : Int)
    else (value.units / unitsPerOne : Nat)

end Finite

namespace Binary64

/-- Zero. -/
def zero : Binary64 := .finite (Finite.zero false)

instance : Inhabited Binary64 := ⟨zero⟩

/-- The number nearest to a signed quotient of units; magnitudes of `2 ^ 1024` and more overflow. -/
def ofQuotient (negative : Bool) (numerator denominator : Nat) : Binary64 :=
  let units := nearest numerator denominator
  if inRange : units < unitsLimit then
    .finite ⟨negative, units, inRange, aligned_nearest numerator denominator⟩
  else
    .infinite negative

/-- The number nearest to an integer. -/
def ofInt (value : Int) : Binary64 := ofQuotient (value < 0) (value.natAbs * unitsPerOne) 1

/-- The number, if it is finite. -/
def finite? : Binary64 → Option Finite
  | .finite value => some value
  | .infinite _ | .notANumber => none

/-- Holds of both zeros. -/
def isZero : Binary64 → Bool
  | .finite value => value.isZero
  | .infinite _ | .notANumber => false

/-- The number with its sign turned. -/
def negate : Binary64 → Binary64
  | .finite value => .finite value.negate
  | .infinite negative => .infinite !negative
  | .notANumber => .notANumber

end Binary64

namespace Finite

/-- The rounded sum. A sum of zero is negative only if both terms are. -/
def add (first second : Finite) : Binary64 :=
  let total := first.signedUnits + second.signedUnits
  if total = 0 then .finite (zero (first.negative && second.negative))
  else .ofQuotient (total < 0) total.natAbs 1

/-- The rounded quotient by a whole number. -/
def divide (value : Finite) (divisor : Nat) : Binary64 :=
  .ofQuotient value.negative value.units divisor

end Finite

end CatalogSchema.Number
