/-
**Decimal numerals and the number nearest to one.**

A `Numeral` is a sign, a coefficient and a power of ten. `Numeral.toBinary64` rounds it once, from
its exact value. `readBinary64?` reads the free form of floating point text: digits with at most one
point, an optional exponent, or the name of an infinity or of the value that is not a number.
-/
import CatalogSchema.Number.Binary64
import CatalogSchema.Number.Integer

namespace CatalogSchema.Number

/-- The decimal number `± coefficient · 10 ^ exponent`. -/
structure Numeral where
  negative : Bool
  coefficient : Nat
  exponent : Int
  deriving DecidableEq

namespace Numeral

/-- Where the first digit stands: the value lies in `[10 ^ (position - 1), 10 ^ position)`. -/
def position (numeral : Numeral) : Int :=
  (digitsOfNat numeral.coefficient).length + numeral.exponent

/-- The number nearest to a numeral, ties to even. Values of `10 ^ 310` and more overflow and values
below `10 ^ -330` vanish, whatever their digits. -/
def toBinary64 (numeral : Numeral) : Binary64 :=
  if numeral.coefficient = 0 then .finite (.zero numeral.negative)
  else if 310 < numeral.position then .infinite numeral.negative
  else if numeral.position < -330 then .finite (.zero numeral.negative)
  else
    .ofQuotient numeral.negative
      (numeral.coefficient * Nat.pow 10 numeral.exponent.toNat * unitsPerOne)
      (Nat.pow 10 (-numeral.exponent).toNat)

/-- The numeral of an integer part, a row of fraction digits and an exponent. -/
def ofParts (negative : Bool) (whole fraction : List Char) (exponent : Int) : Numeral :=
  ⟨negative, natOfDigits (whole ++ fraction), exponent - fraction.length⟩

end Numeral

/-- Splits the leading decimal digits off a text. -/
def spanDigits (text : List Char) : List Char × List Char :=
  (text.takeWhile Char.isDigit, text.dropWhile Char.isDigit)

/-- Reads an exponent mark, an optional sign and digits to the end of the text; no text is zero. -/
def readExponent? : List Char → Option Int
  | [] => some 0
  | mark :: rest =>
    if mark = 'e' ∨ mark = 'E' then
      let (negative, digits) := splitSign rest
      if isDigitRow digits then
        some (if negative then -(natOfDigits digits : Int) else natOfDigits digits)
      else
        none
    else
      none

/-- Reads an unsigned decimal numeral: at least one digit, at most one point, an optional
exponent. -/
def readMagnitude? (negative : Bool) (text : List Char) : Option Numeral :=
  let (whole, rest) := spanDigits text
  let (fraction, rest) :=
    match rest with
    | '.' :: afterPoint => spanDigits afterPoint
    | _ => ([], rest)
  if whole.isEmpty && fraction.isEmpty then none
  else (readExponent? rest).map (Numeral.ofParts negative whole fraction)

/-- The special values that have a name, in any case of its letters. -/
def readNamed? (negative : Bool) (text : List Char) : Option Binary64 :=
  let name := String.ofList (text.map Char.toLower)
  if name = "inf" ∨ name = "infinity" then some (.infinite negative)
  else if name = "nan" then some .notANumber
  else none

/-- Reads floating point text: an optional sign, then a numeral or a name. -/
def readBinary64? (text : List Char) : Option Binary64 :=
  let (negative, body) := splitSign text
  match readNamed? negative body with
  | some value => some value
  | none => (readMagnitude? negative body).map Numeral.toBinary64

end CatalogSchema.Number
