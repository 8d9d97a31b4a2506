/-
**Types in the schema definition language.**

Named types are printed in the order of their names, with a blank line between them. An alias is a
scalar to the reader. A description is a block string; three quotes in a row are escaped in it.
-/

import CatalogSchema.Schema.Pool

namespace CatalogSchema

namespace Printer

/-- Escapes every three quotes in a row, from left to right. -/
def escapeBlock : List Char → List Char
  | [] => []
  | '"' :: '"' :: '"' :: rest => '\\' :: '"' :: '"' :: '"' :: escapeBlock rest
  | c :: rest => c :: escapeBlock rest

/-- A description as a block string. -/
def blockString (description : List Char) : List Char :=
  ['"', '"', '"'] ++ escapeBlock description ++ ['"', '"', '"']

/-- The line of a description, if there is one. -/
def descriptionLine (indent : List Char) : Option String → List Char
  | none => []
  | some description => indent ++ blockString description.toList ++ ['\n']

/-- The lines of a field. -/
def fieldLines (name : String) (description : Option String) (type : SchemaType) : List Char :=
  descriptionLine [' ', ' '] description ++ (' ' :: ' ' :: name.toList) ++ [':', ' '] ++
    type.text.toList ++ ['\n']

/-- A type's keyword and name. -/
def heading (keyword name : String) : List Char := keyword.toList ++ ' ' :: name.toList

/-- Lines between braces. -/
def braces (lines : List Char) : List Char := [' ', '\x7b', '\n'] ++ lines ++ ['\x7d', '\n']

/-- The lines of a type after its description. -/
def body (pool : TypePool) (type : SchemaType) : List Char :=
  match type with
  | .scalar _ name _ _ | .«alias» _ name _ _ => heading "scalar" name ++ ['\n']
  | .enumeration _ name _ members =>
    heading "enum" name ++
      braces (members.flatMap fun member => ' ' :: ' ' :: member.name.toList ++ ['\n'])
  | .object _ name _ =>
    heading "type" name ++
      braces ((pool.fieldsOf type).flatMap fun field =>
        fieldLines field.name field.description field.type)
  | .inputObject _ name _ =>
    heading "input" name ++
      braces ((pool.inputFieldsOf type).flatMap fun field =>
        fieldLines field.name field.description field.type)
  | .list _ _ | .nonNull _ _ => []

/-- The lines of a type. -/
def typeLines (pool : TypePool) (type : SchemaType) : List Char :=
  descriptionLine [] type.description? ++ body pool type

/-- The named types among some, in the order of their names; equal names keep their order. -/
def namedInOrder (types : List SchemaType) : List SchemaType :=
  (types.filter (·.name?.isSome)).mergeSort fun a b =>
    decide (a.name?.getD "" ≤ b.name?.getD "")

end Printer

/-- The named types among some, printed in the order of their names. -/
def printTypes (pool : TypePool) (types : List SchemaType) : String :=
  String.ofList (Text.join ['\n'] ((Printer.namedInOrder types).map (Printer.typeLines pool)))

end CatalogSchema
