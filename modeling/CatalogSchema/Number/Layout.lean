/-
**Printing floating point numbers.**

The digits are those of `shortest`; a `Layout` says where the point stands, when an exponent is
written, and how ties between digit rows go. `plainLayout` is the text of an amount in a message or
a literal, `jsonLayout` the text of a number in a JSON document.
-/
import CatalogSchema.Number.Shortest

namespace CatalogSchema.Number

/-- The decisions of a number format. -/
structure Layout where
  /-- The positions of the first digit that are written without an exponent. -/
  positional : Int → Bool
  /-- Whether a number without a fraction keeps `.0`. -/
  keepFraction : Bool
  /-- The choice between equally near digit rows. -/
  tie : TieRule

/-- Never an exponent, no `.0`, ties away from zero. -/
def plainLayout : Layout := ⟨fun _ => true, false, .away⟩

/-- Positional from `1e-5` up to `1e16`, always with a fraction; ties to an even last digit. -/
def jsonLayout : Layout := ⟨fun position => -4 ≤ position ∧ position ≤ 16, true, .toEven⟩

/-- Drops the zeros at the end of a row of digits. -/
def dropFinalZeros (digits : List Char) : List Char :=
  (digits.reverse.dropWhile (· = '0')).reverse

/-- Writes digits around the point: the first digit stands at the position, counted from the point
to the left. -/
def positionalText (keepFraction : Bool) (digits : List Char) (position : Int) : List Char :=
  let integral :=
    if position ≤ 0 then ['0']
    else digits.take position.toNat ++ List.replicate (position.toNat - digits.length) '0'
  let fraction :=
    List.replicate (-position).toNat '0' ++ digits.drop position.toNat
  if digits.length ≤ position then
    if keepFraction then integral ++ ['.', '0'] else integral
  else
    integral ++ '.' :: fraction

/-- Writes the first digit, the others as a fraction, and an exponent with its sign. -/
def scientificText (digits : List Char) (position : Int) : List Char :=
  let mantissa :=
    match digits with
    | [] => []
    | [single] => [single]
    | first :: others => first :: '.' :: others
  let exponent := position - 1
  mantissa ++ 'e' :: (if exponent < 0 then '-' else '+') :: digitsOfNat exponent.natAbs

/-- The text of a numeral without its sign. -/
def Layout.magnitude (layout : Layout) (numeral : Numeral) : List Char :=
  if numeral.coefficient = 0 then
    if layout.keepFraction then ['0', '.', '0'] else ['0']
  else
    let digits := dropFinalZeros (digitsOfNat numeral.coefficient)
    if layout.positional numeral.position then
      positionalText layout.keepFraction digits numeral.position
    else
      scientificText digits numeral.position

/-- The text of a finite number. -/
def Layout.text (layout : Layout) (value : Finite) : List Char :=
  let numeral := shortest layout.tie value
  if value.negative then '-' :: layout.magnitude numeral else layout.magnitude numeral

/-- The plain text of a number; the special values are written by name. -/
def Binary64.plainText : Binary64 → String
  | .finite value => String.ofList (plainLayout.text value)
  | .infinite false => "inf"
  | .infinite true => "-inf"
  | .notANumber => "NaN"

end CatalogSchema.Number
