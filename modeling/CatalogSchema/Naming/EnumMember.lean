/-
**Members of enumerations.**

The labels of a database enumeration may be any text; a member name may not. `escapeLabel` spells
symbols out, the naming brings the result to its case, and a name that starts with a digit gets an
underscore. Two labels that arrive at one name make the enumeration an error.
-/

import CatalogSchema.Build.Error
import CatalogSchema.Naming
import CatalogSchema.SortedMap

namespace CatalogSchema

open Text

/-- A member of an enumeration: its name in the schema and its label in the database. -/
structure EnumMember where
  name : String
  label : String
  deriving DecidableEq

/-- The names of the symbols of ASCII. -/
def symbolNames : List (Char × String) := [
  ('!', "BANG"), ('"', "QUOTE"), ('#', "HASH"), ('$', "DOLLAR"), ('%', "PERCENT"),
  ('&', "AMPERSAND"), ('\'', "APOSTROPHE"), ('(', "LEFT_PARENTHESIS"), (')', "RIGHT_PARENTHESIS"),
  ('*', "ASTERISK"), ('+', "PLUS"), (',', "COMMA"), ('-', "MINUS"), ('.', "DOT"), ('/', "SLASH"),
  (':', "COLON"), (';', "SEMICOLON"), ('<', "LESS_THAN"), ('=', "EQUALS"), ('>', "GREATER_THAN"),
  ('?', "QUESTION"), ('@', "AT"), ('[', "LEFT_BRACKET"), ('\\', "BACKSLASH"),
  (']', "RIGHT_BRACKET"),
  ('^', "CARET"), ('_', "UNDERSCORE"), ('\x60', "BACKTICK"), ('\x7b', "LEFT_BRACE"), ('|', "PIPE"),
  ('\x7d', "RIGHT_BRACE"), ('~', "TILDE")]

/-- A number in upper case hexadecimal digits, four at least. -/
def upperHex (value : Nat) : List Char :=
  let digits := (Nat.toDigits 16 value).map Char.toUpper
  List.replicate (4 - digits.length) '0' ++ digits

/-- The name of a symbol: from the table, or `U` and its number. -/
def symbolName (c : Char) : List Char :=
  match symbolNames.lookup c with
  | some name => name.toList
  | none => 'U' :: upperHex c.toNat

/-- The name of a character in a label without letters and digits. -/
def symbolWord (c : Char) : List Char := if isBlank c then "SPACE".toList else symbolName c

/-- A character of a label that has letters or digits: a symbol is spelled out between
underscores. -/
def escapeLabelChar (c : Char) : List Char :=
  if isAlphanumeric c || c = '_' then [c]
  else if isBlank c then ['_']
  else '_' :: symbolName c ++ ['_']

/-- A label without symbols: the empty label has a name of its own, and a label without letters and
digits is the row of its symbols' names. -/
def escapeLabel (label : List Char) : List Char :=
  if label.isEmpty then "_EMPTY_".toList
  else if label.any isAlphanumeric then label.flatMap escapeLabelChar
  else join ['_'] (label.map symbolWord)

/-- The member name of a label. -/
def memberNameOf (naming : Naming) (label : String) : String :=
  let name := naming.memberName (escapeLabel label.toList)
  String.ofList (if name.head?.any Char.isDigit then '_' :: name else name)

/-- The members of labels that follow others, given the names taken so far with their labels. -/
def membersAfter (naming : Naming) (typeName : String) (taken : SortedMap String String) :
    List String → Except BuildError (List EnumMember)
  | [] => .ok []
  | label :: rest =>
    let name := memberNameOf naming label
    match taken.find? name with
    | some first => .error (.enumNameCollision typeName name first label)
    | none => do
      let members ← membersAfter naming typeName (taken.insert name label) rest
      return ⟨name, label⟩ :: members

/-- The members of an enumeration, in the order of its labels. -/
def enumMembers (naming : Naming) (typeName : String) (labels : List String) :
    Except BuildError (List EnumMember) :=
  membersAfter naming typeName .empty labels

end CatalogSchema
