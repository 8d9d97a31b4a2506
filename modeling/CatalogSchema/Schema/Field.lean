/-
**Fields and where their values come from.**

An output field takes its value from a row: a property as it is, a column through the conversion of
its type, or the identifier of the row. `Field.resolve` computes it; an error names the field.
-/

import CatalogSchema.Conversion.Codec
import CatalogSchema.Node
import CatalogSchema.Schema.Type

namespace CatalogSchema

/-- The number of a table of aliases. Fields refer to a table by its number, so that a change of the
table is a change for all of them. -/
abbrev AliasTable := Nat

/-- Where the value of a field comes from. -/
inductive FieldSource where
  /-- A member of the row, null if it is missing. -/
  | property (key : String)
  /-- A column of the row through a conversion. -/
  | column (name : String) (codec : Codec)
  /-- The identifier made of the type's alias and the key columns. -/
  | nodeId (typeName : String) (keyColumns : List String) (aliases : AliasTable)
  deriving DecidableEq

/-- A field of an object. -/
structure Field where
  name : String
  description : Option String
  type : SchemaType
  source : FieldSource
  deriving DecidableEq

/-- A field of an input object. -/
structure InputField where
  name : String
  description : Option String
  type : SchemaType
  deriving DecidableEq

/-- A field that reads the property of its own name. -/
def Field.property (name : String) (type : SchemaType) : Field := ⟨name, none, type, .property name⟩

/-- The value of a column, which the row must have. -/
def columnValue (row : Json) (column : String) : Conversion Json :=
  match row.field? column with
  | some value => .ok value
  | none => .error (.missingColumn column)

/-- The value of a source for a row. -/
def FieldSource.resolveWith {m : Type → Type} [Monad m]
    (readInterval : String → ExceptT ConversionError m Interval)
    (aliases : AliasTable → NodeAliases) (row : Json) : FieldSource → ExceptT ConversionError m Json
  | .property key => pure ((row.field? key).getD .null)
  | .column name codec => do
    let value ← Codec.lift (columnValue row name)
    codec.decodeWith readInterval value
  | .nodeId typeName keyColumns table => do
    let key ← Codec.lift (keyColumns.mapM (columnValue row))
    return .string ((aliases table).encode typeName key)

namespace Field

/-- The value of a field for a row. -/
def resolveWith {m : Type → Type} [Monad m]
    (readInterval : String → ExceptT ConversionError m Interval)
    (aliases : AliasTable → NodeAliases) (field : Field) (row : Json) :
    ExceptT ConversionError m Json :=
  ExceptT.adapt (.inField field.name) (field.source.resolveWith readInterval aliases row)

/-- The value of a field for a row. -/
def resolve (aliases : AliasTable → NodeAliases) (field : Field) (row : Json) : Conversion Json :=
  (field.resolveWith (m := Id) (fun literal => ExceptT.mk (Interval.parse literal)) aliases row).run

/-- The value of a field for a row; interval literals go through the cache. -/
def resolveCached (aliases : AliasTable → NodeAliases) (field : Field) (row : Json)
    (cache : IntervalCache) : Conversion Json × IntervalCache :=
  (field.resolveWith Codec.readCached aliases row).run.run cache

end Field

end CatalogSchema
