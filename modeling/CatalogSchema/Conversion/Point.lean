/-
**Points of the plane.**

A point is written `(x,y)` by the server and is an object with members `x` and `y` in the schema.
-/

import CatalogSchema.Conversion.Numeric

namespace CatalogSchema

open Number Text

namespace Point

/-- Cuts a text at its first comma. -/
def splitComma? : List Char → Option (List Char × List Char)
  | [] => none
  | c :: rest =>
    if c = ',' then some ([], rest)
    else (splitComma? rest).map fun (before, after) => (c :: before, after)

/-- The texts of the two coordinates: the parentheses around are dropped, however many. -/
def literalParts? (text : List Char) : Option (List Char × List Char) :=
  splitComma? (trimEnd (· = ')') (trimStart (· = '(') (trim text)))

/-- A coordinate of a literal in normal form. -/
def readCoordinate (literal : Json) (part : List Char) : Conversion Json :=
  match readBinary64? (trim part) with
  | some value => jsonOfBinary64 value
  | none => .error (.malformedPoint literal.text)

/-- The two coordinates of a point, from its literal or its object. -/
def coordinates (value : Json) : Conversion (Json × Json) :=
  match value with
  | .string text =>
    match literalParts? text.toList with
    | some (first, second) => do
      let x ← readCoordinate value first
      let y ← readCoordinate value second
      return (x, y)
    | none => .error (.malformedPoint value.text)
  | .object _ =>
    match value.field? "x", value.field? "y" with
    | some x, some y => do
      let x ← readFinite x
      let y ← readFinite y
      return (.ofNumber x, .ofNumber y)
    | _, _ => .error (.malformedPoint value.text)
  | other => .error (.shape .point other)

end Point

end CatalogSchema
