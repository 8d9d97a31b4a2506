/-
**The compact text of a JSON value.**

Nothing is written between tokens. In strings only the quote, the backslash and the characters below
U+0020 are escaped; numbers follow `jsonLayout`.
-/
import CatalogSchema.Json.Value
import CatalogSchema.Number.Layout

namespace CatalogSchema

open Number

/-- A hexadecimal digit below ten, or a lower case letter from ten on. -/
def hexDigit (value : Nat) : Char := Nat.digitChar value

/-- How a character stands in a string of a document. -/
def Json.escapeChar (c : Char) : List Char :=
  if c = '"' then ['\\', '"']
  else if c = '\\' then ['\\', '\\']
  else if c = '\n' then ['\\', 'n']
  else if c = '\r' then ['\\', 'r']
  else if c = '\t' then ['\\', 't']
  else if c = '\x08' then ['\\', 'b']
  else if c = '\x0c' then ['\\', 'f']
  else if c.toNat < 0x20 then
    ['\\', 'u', '0', '0', hexDigit (c.toNat / 16), hexDigit (c.toNat % 16)]
  else [c]

/-- A string between quotes. -/
def Json.quote (text : List Char) : List Char := '"' :: text.flatMap Json.escapeChar ++ ['"']

/-- The text of a number. -/
def JsonNumber.chars : JsonNumber → List Char
  | .integer value => textOfInt value
  | .float value => jsonLayout.text value

/-- The text of a number. -/
def JsonNumber.text (number : JsonNumber) : String := String.ofList number.chars

namespace Json

mutual

/-- The characters of a value. -/
def chars : Json → List Char
  | .null => ['n', 'u', 'l', 'l']
  | .bool true => ['t', 'r', 'u', 'e']
  | .bool false => ['f', 'a', 'l', 's', 'e']
  | .number value => value.chars
  | .string value => quote value.toList
  | .array items => '[' :: itemChars items
  | .object members => '\x7b' :: memberChars members

/-- The characters of the items of an array, up to and with its closing bracket. -/
def itemChars : List Json → List Char
  | [] => [']']
  | [item] => chars item ++ [']']
  | item :: rest => chars item ++ ',' :: itemChars rest

/-- The characters of the members of an object, up to and with its closing brace. -/
def memberChars : List (String × Json) → List Char
  | [] => ['\x7d']
  | [(key, value)] => quote key.toList ++ ':' :: (chars value ++ ['\x7d'])
  | (key, value) :: rest => quote key.toList ++ ':' :: (chars value ++ ',' :: memberChars rest)

end

/-- The compact text of a value. -/
def text (value : Json) : String := String.ofList value.chars

end Json

end CatalogSchema
