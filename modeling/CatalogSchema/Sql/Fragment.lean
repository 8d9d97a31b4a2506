/-
**SQL fragments and their text.**

A fragment is an expression that produces a value. `Fragment.compile` writes it with placeholders
`$1`, `$2`, … from left to right and lists the values bound to them; no value enters the text
itself.
-/
import CatalogSchema.Json.Value
import CatalogSchema.Number.Integer

namespace CatalogSchema

open Number

/-- A type or function name with its namespace. -/
structure QualifiedName where
  /-- The namespace. -/
  space : String
  /-- The name within the namespace. -/
  name : String
  deriving DecidableEq

/-- A name between double quotes, its own quotes doubled. -/
def quoteIdentifier (name : List Char) : List Char :=
  '"' :: name.flatMap (fun c => if c = '"' then ['"', '"'] else [c]) ++ ['"']

namespace QualifiedName

/-- A name in the namespace of the database's own types. -/
def inCatalog (name : String) : QualifiedName := ⟨"pg_catalog", name⟩

/-- The name as two quoted identifiers around a dot. -/
def sql (name : QualifiedName) : List Char :=
  quoteIdentifier name.space.toList ++ '.' :: quoteIdentifier name.name.toList

/-- The name without quotes, for messages. -/
def text (name : QualifiedName) : String := name.space ++ "." ++ name.name

end QualifiedName

/-- An SQL expression that produces a value. -/
inductive Fragment where
  /-- A bound value. -/
  | value (payload : Json)
  /-- SQL null. -/
  | null
  /-- A cast of an expression to a type. -/
  | cast (expression : Fragment) (target : QualifiedName)
  /-- A call of a function or type constructor. -/
  | call (function : QualifiedName) (arguments : List Fragment)
  /-- An array literal with its element type. -/
  | array (elements : List Fragment) (elementType : QualifiedName)

instance : Inhabited Fragment := ⟨.null⟩

namespace Fragment

mutual

/-- The text of a fragment whose first placeholder follows a count of earlier ones, and the values
bound to its placeholders. -/
def write (bound : Nat) : Fragment → List Char × List Json
  | .value payload => ('$' :: digitsOfNat (bound + 1), [payload])
  | .null => (['n', 'u', 'l', 'l'], [])
  | .cast expression target =>
    let (text, values) := expression.write bound
    ('(' :: text ++ [')', ':', ':'] ++ target.sql, values)
  | .call function arguments =>
    let (text, values) := writeList bound arguments
    (function.sql ++ '(' :: text ++ [')'], values)
  | .array elements elementType =>
    let (text, values) := writeList bound elements
    (['a', 'r', 'r', 'a', 'y', '['] ++ text ++ [']', ':', ':'] ++ elementType.sql ++
      ['[', ']'], values)

/-- The texts of several fragments with commas between them, placeholders numbered through. -/
def writeList (bound : Nat) : List Fragment → List Char × List Json
  | [] => ([], [])
  | [fragment] => fragment.write bound
  | fragment :: rest =>
    let (text, values) := fragment.write bound
    let (restText, restValues) := writeList (bound + values.length) rest
    (text ++ [',', ' '] ++ restText, values ++ restValues)

end

end Fragment

/-- SQL text with the values of its placeholders, in placeholder order. -/
structure CompiledSql where
  text : String
  parameters : List Json

/-- Writes a fragment on its own. -/
def Fragment.compile (fragment : Fragment) : CompiledSql :=
  let (text, values) := fragment.write 0
  ⟨String.ofList text, values⟩

end CatalogSchema
