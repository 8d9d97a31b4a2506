/-
**Decimal numbers in machine steps.**

The digits of a number of a document are gathered in a 64-bit count, and the count is rounded to a
floating point number before the power of ten is multiplied or divided in, which rounds again. So
the number read is next to the one written, but not always the nearest.

* `takeDigits`: how many digits the count has room for.
* `Numeral.scaled`: a coefficient and a power of ten, each rounded on its own.
* `stepwise`: a number from its digits.
-/
import CatalogSchema.Number.Numeral

namespace CatalogSchema.Number

/-- A rule to read a decimal number: the sign, the digits before and after the point, the
exponent. -/
abbrev DecimalRule := Bool → List Char → List Char → Int → Binary64

/-- Takes digits into a count as long as it stays below `2 ^ 64`: the count, and the digits left
over. -/
def takeDigits (count : Nat) : List Char → Nat × List Char
  | [] => (count, [])
  | digit :: rest =>
    let more := 10 * count + (digit.toNat - '0'.toNat)
    if more < Nat.pow 2 64 then takeDigits more rest else (count, digit :: rest)

/-- Goes on with a finite number; a number that is not finite stays. -/
def Binary64.andThen (value : Binary64) (next : Finite → Binary64) : Binary64 :=
  match value with
  | .finite value => next value
  | .infinite negative => .infinite negative
  | .notANumber => .notANumber

/-- The units of the number nearest to a power of ten. -/
def tenPower (power : Nat) : Nat := nearest (Nat.pow 10 power * unitsPerOne) 1

/-- The largest power of ten that is a floating point number. -/
def largestPower : Nat := 308

namespace Finite

/-- The rounded product with a count of units. -/
def times (value : Finite) (units : Nat) : Binary64 :=
  .ofQuotient value.negative (value.units * units) unitsPerOne

/-- The rounded quotient by a count of units. -/
def dividedBy (value : Finite) (units : Nat) : Binary64 :=
  .ofQuotient value.negative (value.units * unitsPerOne) units

/-- The rounded product with a power of ten, which overflows if the power does. -/
def timesPower (value : Finite) (power : Nat) : Binary64 :=
  if power ≤ largestPower then value.times (tenPower power) else .infinite value.negative

/-- The rounded quotient of a 64-bit count by a power of ten. A power that overflows is divided by
in two parts; after two divisions by the largest power nothing is left of such a count. -/
def overPower (value : Finite) (power : Nat) : Binary64 :=
  if power ≤ largestPower then value.dividedBy (tenPower power)
  else if power ≤ 2 * largestPower then
    (value.dividedBy (tenPower largestPower)).andThen fun part =>
      part.dividedBy (tenPower (power - largestPower))
  else .finite (.zero value.negative)

/-- A 64-bit count times a power of ten. -/
def scale (count : Finite) (exponent : Int) : Binary64 :=
  if count.isZero then .finite count
  else if 0 ≤ exponent then count.timesPower exponent.natAbs
  else count.overPower exponent.natAbs

end Finite

/-- The number of a numeral with a 64-bit coefficient: the coefficient and the power of ten are
rounded each on its own, and then their product or quotient. -/
def Numeral.scaled (numeral : Numeral) : Binary64 :=
  (Binary64.ofQuotient numeral.negative (numeral.coefficient * unitsPerOne) 1).andThen
    fun count => count.scale numeral.exponent

/-- Reads a number in machine steps. A digit before the point that the count has no room for makes
the number ten times as large; a fraction is broken off at the first digit without room. -/
def stepwise : DecimalRule := fun negative whole fraction exponent =>
  let (count, large) := takeDigits 0 whole
  let (count, small) := takeDigits count fraction
  Numeral.scaled ⟨negative, count, exponent + large.length - (fraction.length - small.length : Nat)⟩

end CatalogSchema.Number
