/-
**Ranges as literals and as objects.**

The server writes a range as two bounds between brackets, `[1,5)`: a square bracket includes its
bound, a missing bound is unlimited, and a bound with special characters stands in quotes. In the
schema a range is an object with members `start` and `end`, each null or an object with `value` and
`inclusive`.
-/

import CatalogSchema.Conversion.Numeric

namespace CatalogSchema

open Text

namespace Range

/-! ### Literals -/

/-- One bound of a literal: whether its bracket is square, and its text unless it is missing. -/
structure LiteralBound where
  inclusive : Bool
  text : Option (List Char)

/-- Cuts a text at its first comma outside quotes; a backslash hides the character after it. -/
def splitBounds? (quoted escaped : Bool) : List Char → Option (List Char × List Char)
  | [] => none
  | c :: rest =>
    if escaped then (splitBounds? quoted false rest).map fun (before, after) => (c :: before, after)
    else if c = '\\' then
      (splitBounds? quoted true rest).map fun (before, after) => (c :: before, after)
    else if c = '"' then
      (splitBounds? (!quoted) false rest).map fun (before, after) => (c :: before, after)
    else if c = ',' ∧ quoted = false then some ([], rest)
    else (splitBounds? quoted false rest).map fun (before, after) => (c :: before, after)

/-- Undoes the doubling of quotes and the backslashes inside a quoted bound. -/
def unescape : List Char → List Char
  | [] => []
  | ['\\'] => []
  | '\\' :: c :: rest => c :: unescape rest
  | '"' :: '"' :: rest => '"' :: unescape rest
  | c :: rest => c :: unescape rest

/-- The text of a bound without the quotes around it, if it has them on both sides. -/
def unquote (text : List Char) : List Char :=
  match text with
  | '"' :: inner => if inner.getLast? = some '"' then unescape inner.dropLast else text
  | _ => text

/-- The text of a bound, unless nothing is left beside the bracket. -/
def boundText? (text : List Char) : Option (List Char) :=
  if text.isEmpty then none else some (unquote text)

/-- Reads the opening bracket and what follows it. -/
def openBound : List Char → Except RangeFault LiteralBound
  | '[' :: text => .ok ⟨true, boundText? text⟩
  | '(' :: text => .ok ⟨false, boundText? text⟩
  | _ => .error .badStart

/-- Reads the closing bracket and what precedes it. -/
def closeBound (text : List Char) : Except RangeFault LiteralBound :=
  match text.getLast? with
  | some ']' => .ok ⟨true, boundText? text.dropLast⟩
  | some ')' => .ok ⟨false, boundText? text.dropLast⟩
  | _ => .error .badEnd

/-- Splits the literal of a range into its bounds. -/
def readLiteral (literal : List Char) : Except RangeFault (LiteralBound × LiteralBound) :=
  match splitBounds? false false literal with
  | none => .error .noComma
  | some (before, after) => do
    let first ← openBound before
    let last ← closeBound after
    return (first, last)

/-- Holds of the literal of the empty range, in any case of its letters. -/
def isEmptyLiteral (literal : List Char) : Bool :=
  literal.map Char.toLower = ['e', 'm', 'p', 't', 'y']

/-! ### Objects -/

/-- One bound of an object: its value, and whether it is included. -/
structure ObjectBound where
  value : Json
  inclusive : Bool

/-- Checks one bound of an object; a missing or null bound is no bound. -/
def readBound : Option Json → Conversion (Option ObjectBound)
  | none => .ok none
  | some .null => .ok none
  | some (.object members) =>
    let bound := Json.object members
    let fault := fun fault => ConversionError.malformedRange bound.text fault
    match members.lookup "value", (members.lookup "inclusive").bind Json.bool? with
    | none, _ => .error (fault .boundWithoutValue)
    | some _, none => .error (fault .boundWithoutFlag)
    | some value, some inclusive =>
      match members.find? fun member => member.1 ≠ "value" ∧ member.1 ≠ "inclusive" with
      | some (key, _) => .error (fault (.unexpectedBoundKey key))
      | none => .ok (some ⟨value, inclusive⟩)
  | some bound => .error (.malformedRange bound.text .boundNotObject)

/-- The object of a range with two bounds. -/
def toObject (first last : Json) : Json := .object [("end", last), ("start", first)]

/-- The object of one bound. -/
def boundObject (value : Json) (inclusive : Bool) : Json :=
  .object [("inclusive", .bool inclusive), ("value", value)]

/-- Checks the object of a range and completes its missing bounds with null. -/
def checkObject (members : List (String × Json)) : Conversion Json :=
  match members.find? fun member => member.1 ≠ "start" ∧ member.1 ≠ "end" with
  | some (key, _) => .error (.malformedRange (Json.object members).text (.unexpectedRangeKey key))
  | none => do
    let _ ← readBound (members.lookup "start")
    let _ ← readBound (members.lookup "end")
    return toObject ((members.lookup "start").getD .null) ((members.lookup "end").getD .null)

/-- The two brackets of a range, as the constructor takes them. -/
def flags (first last : Option ObjectBound) : String :=
  String.ofList [
    if first.any (·.inclusive) then '[' else '(',
    if last.any (·.inclusive) then ']' else ')']

end Range

end CatalogSchema
