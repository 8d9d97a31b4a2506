/-
**Identifiers of rows.**

An identifier is the base64 text of the JSON array `[alias, key part, …]`. The alias stands for a
type of the schema, so that a type can be renamed without making the identifiers handed out so far
invalid: `NodeAliases` keeps the alias of each type and the type of each alias.
-/

import CatalogSchema.Conversion.Error
import CatalogSchema.Json.Reader
import CatalogSchema.Json.Writer
import CatalogSchema.Text.Base64
import CatalogSchema.Text.Blank

namespace CatalogSchema

open Text

/-- The identifier of an alias and the parts of a key. -/
def encodeNodeId (typeAlias : String) (key : List Json) : String :=
  let payload := (Json.array (.string typeAlias :: key)).text
  String.ofList (Base64.encode payload.toUTF8.data.toList)

/-- The alias and the parts of the key of an identifier, blanks around it dropped. -/
def decodeNodeId (identifier : String) : Except ConversionError (String × List Json) :=
  match Base64.decode? (trim identifier.toList) with
  | none => .error (.invalidNodeId .notBase64)
  | some bytes =>
    match (String.fromUTF8? ⟨bytes.toArray⟩).bind Json.read? with
    | none => .error (.invalidNodeId .notJson)
    | some (.array (.string typeAlias :: part :: parts)) => .ok (typeAlias, part :: parts)
    | some (.array (_ :: _ :: _)) => .error (.invalidNodeId .aliasNotString)
    | some (.array _) => .error (.invalidNodeId .noKey)
    | some _ => .error (.invalidNodeId .notArray)

/-- The aliases of types, and the types of aliases. -/
structure NodeAliases where
  /-- Type name to alias. -/
  aliases : SortedMap String String
  /-- Alias to type name. -/
  types : SortedMap String String
  deriving DecidableEq

namespace NodeAliases

/-- No type has an alias. -/
def empty : NodeAliases := ⟨.empty, .empty⟩

instance : Inhabited NodeAliases := ⟨empty⟩

/-- Gives a type an alias; what its previous alias stood for is forgotten. -/
def setAlias (known : NodeAliases) (typeName typeAlias : String) : NodeAliases :=
  let types :=
    match known.aliases.find? typeName with
    | some previous => known.types.erase previous
    | none => known.types
  ⟨known.aliases.insert typeName typeAlias, types.insert typeAlias typeName⟩

/-- The alias of a type: its own name if it has none. -/
def «alias» (known : NodeAliases) (typeName : String) : String :=
  (known.aliases.find? typeName).getD typeName

/-- The type of an alias: the alias itself if it is not known. -/
def typeOf (known : NodeAliases) (typeAlias : String) : String :=
  (known.types.find? typeAlias).getD typeAlias

/-- The identifier of a row of a type. -/
def encode (known : NodeAliases) (typeName : String) (key : List Json) : String :=
  encodeNodeId (known.«alias» typeName) key

/-- The type and key of an identifier. -/
def decode (known : NodeAliases) (identifier : String) :
    Except ConversionError (String × List Json) := do
  let (typeAlias, key) ← decodeNodeId identifier
  return (known.typeOf typeAlias, key)

end NodeAliases

end CatalogSchema
