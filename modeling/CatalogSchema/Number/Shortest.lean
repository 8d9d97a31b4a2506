/-
**The fewest digits that read back.**

`shortest` finds, for a finite number, the decimal numeral with the fewest digits whose nearest
double-precision number is that number, and of those the nearest. It tries one digit, two digits and
so on; on each grid only the two neighbours of the number can be the answer, and each is tested by
rounding it. How an exact tie between the two goes is a choice of the format that prints the digits.
-/
import CatalogSchema.Number.Numeral

namespace CatalogSchema.Number

/-- The choice between two equally near digit rows. -/
inductive TieRule where
  /-- The larger magnitude. -/
  | away
  /-- The row that ends in an even digit. -/
  | toEven
  deriving DecidableEq

/-- A number written as `coefficient · 10 ^ -1074`: every finite number has such a form. -/
@[irreducible] def exactCoefficient (value : Finite) : Nat := Nat.pow 5 1074 * value.units

/-- Holds of the coefficients at an exponent that read back as a number. -/
def readsBack (value : Finite) (coefficient : Nat) (exponent : Int) : Bool :=
  (Numeral.toBinary64 ⟨value.negative, coefficient, exponent⟩) = .finite value

/-- Of the two neighbours of a number on the grid that drops a count of its digits, the nearest that
reads back. -/
def neighbour? (tie : TieRule) (value : Finite) (dropped : Nat) : Option Numeral :=
  let exact := exactCoefficient value
  let grid := Nat.pow 10 dropped
  let exponent : Int := dropped - 1074
  let below := exact / grid
  let above := below + 1
  let excess := 2 * (exact % grid)
  let preferBelow : Bool :=
    if excess = grid then
      match tie with
      | .away => false
      | .toEven => decide (below % 2 = 0)
    else decide (excess < grid)
  let (first, second) := if preferBelow then (below, above) else (above, below)
  if readsBack value first exponent then some ⟨value.negative, first, exponent⟩
  else if readsBack value second exponent then some ⟨value.negative, second, exponent⟩
  else none

/-- The first grid, from one digit upwards, on which a neighbour reads back; all digits if none of
the grids tried has one. -/
def shortestFrom (tie : TieRule) (value : Finite) (allDigits : Nat) : List Nat → Numeral
  | [] => ⟨value.negative, exactCoefficient value, -1074⟩
  | digits :: more =>
    match neighbour? tie value (allDigits - digits) with
    | some numeral => numeral
    | none => shortestFrom tie value allDigits more

/-- The shortest numeral that reads back as a number. Seventeen digits are always enough. -/
def shortest (tie : TieRule) (value : Finite) : Numeral :=
  if value.isZero then ⟨value.negative, 0, 0⟩
  else
    shortestFrom tie value (digitsOfNat (exactCoefficient value)).length
      ((List.range 17).map (· + 1))

end CatalogSchema.Number
