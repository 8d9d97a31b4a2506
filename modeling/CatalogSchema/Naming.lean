/-
**Names in the schema.**

A `Naming` derives every name from the database's own. `Naming.standard` completes one rule, the
name of a database type, by the usual rules for all others; `Naming.inflected` is the usual naming,
and `Naming.qualified` keeps namespaces apart.
-/

import CatalogSchema.Catalog.Descriptor
import CatalogSchema.Text.Word

namespace CatalogSchema

open Text

/-- The rules that derive the names of the schema. -/
structure Naming where
  /-- The schema name of a database type. -/
  typeName : Descriptor → String
  /-- The member name of an escaped label. -/
  memberName : List Char → List Char
  /-- The input counterpart of an output type. -/
  inputType : String → String
  /-- The bound object of ranges over a type. -/
  rangeBoundType : String → String
  /-- The input counterpart of the bound object. -/
  rangeBoundInputType : String → String
  /-- The range object over a type. -/
  rangeType : String → String
  /-- The input counterpart of the range object. -/
  rangeInputType : String → String
  /-- The object type of a row type. -/
  tableType : Descriptor → String
  /-- The field of a column. -/
  columnField : String → String

/-- A label in `SHOUTY_SNAKE_CASE`; underscores at its edges stay, and a label made of underscores
alone stays as it is. -/
def shoutyMember (escaped : List Char) : List Char :=
  let isUnderscore := fun c : Char => decide (c = '_')
  let core := trimEnd isUnderscore (trimStart isUnderscore escaped)
  if core.isEmpty then escaped
  else
    escaped.takeWhile isUnderscore ++ shoutySnake core ++ escaped.reverse.takeWhile isUnderscore

namespace Naming

/-- The usual rules around a rule for type names. -/
def standard (typeName : Descriptor → String) : Naming where
  typeName := typeName
  memberName := shoutyMember
  inputType name := name ++ "Input"
  rangeBoundType name := name ++ "RangeBound"
  rangeBoundInputType name := name ++ "RangeBound" ++ "Input"
  rangeType name := name ++ "Range"
  rangeInputType name := name ++ "Range" ++ "Input"
  tableType := typeName
  columnField column := String.ofList (lowerCamel column.toList)

/-- Types in `UpperCamelCase`, fields in `lowerCamelCase`, members in `SHOUTY_SNAKE_CASE`. -/
def inflected : Naming :=
  standard fun descriptor => String.ofList (upperCamel descriptor.name.toList)

/-- Types named by namespace and name as they are. -/
def qualified : Naming := standard fun descriptor => descriptor.space ++ "_" ++ descriptor.name

end Naming

end CatalogSchema
