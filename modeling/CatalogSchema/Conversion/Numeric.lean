/-
**Numbers on the wire and in the schema.**

A number arrives as a JSON number or as text. `jsonOfBinary64` is the normal form of a computed
number: an integer when it has no fraction and lies below `2 ^ 63`, a floating point number
otherwise.
-/

import CatalogSchema.Conversion.Error
import CatalogSchema.Json.Writer
import CatalogSchema.Number.Layout
import CatalogSchema.Text.Blank

namespace CatalogSchema

open Number Text

/-- The outcome of a conversion. -/
abbrev Conversion (α : Type) := Except ConversionError α

/-- The normal form of a finite number. -/
def Json.ofNumber (value : Finite) : Json :=
  if value.isWhole ∧ value.units < Nat.pow 2 63 * unitsPerOne then .ofInt value.truncate
    else .ofFinite value

/-- The normal form of a number; the infinities and the value that is no number have none. -/
def jsonOfBinary64 : Binary64 → Conversion Json
  | .finite value => .ok (.ofNumber value)
  | value => .error (.malformedNumber value.plainText)

/-- Reads floating point text between blanks. -/
def readTrimmed? (text : String) : Option Binary64 := readBinary64? (trim text.toList)

/-- A finite number; the infinities and the value that is no number are refused. -/
def requireFinite (error : ConversionError) : Binary64 → Conversion Finite
  | .finite value => .ok value
  | .infinite _ | .notANumber => .error error

/-- A number or numeric text as a finite number. -/
def readFinite : Json → Conversion Finite
  | .number (.integer value) =>
    requireFinite (.malformedNumber (JsonNumber.integer value).text) (.ofInt value)
  | .number (.float value) => .ok value
  | .string text =>
    match (readTrimmed? text).bind Binary64.finite? with
    | some value => .ok value
    | none => .error (.malformedNumber text)
  | other => .error (.shape .number other)

/-- A number or text as a signed 64-bit integer. -/
def readInteger : Json → Conversion Int
  | .number (.integer value) =>
    match int64? value with
    | some value => .ok value
    | none => .error (.malformedNumber (JsonNumber.integer value).text)
  | .number (.float value) => .error (.malformedNumber (JsonNumber.float value).text)
  | .string text =>
    match readInt64? (trim text.toList) with
    | some value => .ok value
    | none => .error (.malformedNumber text)
  | other => .error (.shape .integer other)

/-- A boolean, or the text the server writes for one. -/
def readBoolean : Json → Conversion Bool
  | .bool value => .ok value
  | .string text =>
    if text = "t" ∨ text = "true" then .ok true
    else if text = "f" ∨ text = "false" then .ok false
    else .error (.shape .boolean (.string text))
  | other => .error (.shape .boolean other)

/-- Holds of the characters of decimal numbers. -/
def isNumeralChar (c : Char) : Bool :=
  c.isDigit || c = '-' || c = '+' || c = '.' || c = 'e' || c = 'E'

/-- Holds of the names of special numbers and of the texts made of the characters of numbers. -/
def looksNumeric (text : String) : Bool :=
  let trimmed := trim text.toList
  trimmed = "NaN".toList || trimmed = "Infinity".toList || trimmed = "-Infinity".toList ||
    (!trimmed.isEmpty && trimmed.all isNumeralChar)

/-- A number of any size as text: a JSON number is written out, a numeric text stays as it is. -/
def readBigNumber : Json → Conversion String
  | .number value => .ok value.text
  | .string text => if looksNumeric text then .ok text else .error (.malformedNumber text)
  | other => .error (.shape .number other)

end CatalogSchema
