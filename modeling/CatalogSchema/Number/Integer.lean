/-
**Integers as decimal text, and the signed 64-bit range.**

* `natOfDigits`, `digitsOfNat`: decimal digits of a natural number, most significant first.
* `readInt64?`: a signed 64-bit integer, refused when it is out of range.
-/

namespace CatalogSchema.Number

/-- The number that a row of decimal digits denotes; other characters do not occur in it. -/
def natOfDigits (digits : List Char) : Nat :=
  digits.foldl (fun total digit => 10 * total + (digit.toNat - '0'.toNat)) 0

/-- The decimal digits of a number, without leading zeros. -/
def digitsOfNat (value : Nat) : List Char := Nat.toDigits 10 value

/-- The decimal text of an integer. -/
def textOfInt (value : Int) : List Char :=
  if value < 0 then '-' :: digitsOfNat value.natAbs else digitsOfNat value.natAbs

/-- The integer, if it lies between `-2 ^ 63` and `2 ^ 63 - 1`. -/
def int64? (value : Int) : Option Int :=
  if -(Nat.pow 2 63 : Int) ≤ value ∧ value < Nat.pow 2 63 then some value else none

/-- Splits a sign off a text: whether it is a minus, and what follows. -/
def splitSign : List Char → Bool × List Char
  | '-' :: rest => (true, rest)
  | '+' :: rest => (false, rest)
  | text => (false, text)

/-- Holds of the texts that consist of decimal digits, at least one. -/
def isDigitRow (text : List Char) : Bool := !text.isEmpty && text.all Char.isDigit

/-- Reads an optional sign and decimal digits as a signed 64-bit integer. -/
def readInt64? (text : List Char) : Option Int :=
  let (negative, digits) := splitSign text
  if isDigitRow digits then
    let magnitude : Int := natOfDigits digits
    int64? (if negative then -magnitude else magnitude)
  else
    none

end CatalogSchema.Number
