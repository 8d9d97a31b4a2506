/-
**Currency amounts as a locale formats them.**

`parseMoney` keeps digits, points and commas and decides which of the two separators is the decimal
mark: of two kinds the one that occurs last; a single kind is the mark unless it occurs more than
once or exactly three digits follow it, in which cases it groups digits.
-/

import CatalogSchema.Conversion.Numeric

namespace CatalogSchema

open Number Text

namespace Money

/-- Holds of the two separators. -/
def isSeparator (c : Char) : Bool := c = '.' || c = ','

/-- The digits and separators of an amount. -/
def significant (text : List Char) : List Char := text.filter fun c => c.isDigit || isSeparator c

/-- Holds of the texts with a minus anywhere, or wholly in parentheses. -/
def isNegative (trimmed : List Char) : Bool :=
  trimmed.contains '-' || (trimmed.head? = some '(' && trimmed.getLast? = some ')')

/-- The decimal mark among the separators of an amount. -/
def decimalMark? (kept : List Char) : Option Char :=
  match kept.reverse.find? isSeparator with
  | none => none
  | some last =>
    let other := if last = '.' then ',' else '.'
    if kept.contains other then some last
    else if kept.count last > 1 ∨ (kept.reverse.takeWhile (· ≠ last)).length = 3 then none
    else some last

/-- An amount with a point for its decimal mark and without other separators. -/
def normalize (mark : Option Char) (kept : List Char) : List Char :=
  kept.filterMap fun c =>
    if isSeparator c then if some c = mark then some '.' else none else some c

/-- The number that an amount denotes. -/
def parse? (text : List Char) : Option Binary64 :=
  let trimmed := trim text
  let kept := significant trimmed
  if kept.any Char.isDigit then
    (readBinary64? (normalize (decimalMark? kept) kept)).map fun amount =>
      if isNegative trimmed then amount.negate else amount
  else
    none

end Money

/-- The number that a formatted amount denotes. -/
def parseMoney (text : String) : Conversion Binary64 :=
  match Money.parse? text.toList with
  | some amount => .ok amount
  | none => .error (.malformedMoney text)

end CatalogSchema
