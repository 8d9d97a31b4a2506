/-
**Conversion of stored values.**

A `Codec` says how the values of one database type are shown in the schema (`decode`) and sent back
as an SQL fragment (`encode`). Null is null on both sides, whatever the codec. Interval literals are
read by a function that the caller gives, so that one definition serves both the plain conversion
(`decode`, `encode`) and the one that shares a cache (`decodeCached`, `encodeCached`).
-/

import CatalogSchema.Conversion.IntervalCache
import CatalogSchema.Conversion.Money
import CatalogSchema.Conversion.Point
import CatalogSchema.Conversion.Range
import CatalogSchema.Json.Reader

namespace CatalogSchema

open Number Text

/-- How the values of a database type are converted. -/
inductive Codec where
  /-- Values pass unchanged. -/
  | identity (type : QualifiedName)
  | integer (type : QualifiedName)
  | float (type : QualifiedName)
  | boolean (type : QualifiedName)
  /-- Numbers of any size are texts in the schema. -/
  | bigNumber (type : QualifiedName)
  | money (type : QualifiedName)
  | point (constructor : QualifiedName)
  | interval (type : QualifiedName)
  /-- Documents are JSON values in the schema if structured, and texts otherwise. -/
  | document (type : QualifiedName) (structured : Bool)
  /-- Lists, item by item. -/
  | array (typeName : String) (item : Codec) (elementType : QualifiedName)
  /-- Ranges, bound by bound. -/
  | range (constructor : QualifiedName) (sub : Codec)
  deriving DecidableEq

namespace Codec

/-- The text of a document, checked to be one. -/
def checkDocument (text : String) : Conversion String :=
  match Json.read? text with
  | some _ => .ok text
  | none => .error .malformedJson

/-- The value of a document's text. -/
def readDocument (text : String) : Conversion Json :=
  match Json.read? text with
  | some value => .ok value
  | none => .error .malformedJson

section Generic

variable {m : Type → Type} [Monad m] (readInterval : String → ExceptT ConversionError m Interval)

/-- An outcome without effects. -/
def lift {α : Type} (outcome : Conversion α) : ExceptT ConversionError m α :=
  ExceptT.mk (pure outcome)

/-- The interval that a literal or an object denotes. -/
def intervalOf : Json → ExceptT ConversionError m Interval
  | .string literal => readInterval literal
  | .object members => lift (Interval.ofJson (.object members))
  | other => throw (.shape .interval other)

/-- Decodes one bound of a range literal by the codec of the subtype. -/
def decodeBound (decodeSub : Json → ExceptT ConversionError m Json) (bound : Range.LiteralBound) :
    ExceptT ConversionError m Json :=
  match bound.text with
  | none => pure .null
  | some text => do
    let value ← decodeSub (.string (String.ofList text))
    return Range.boundObject value bound.inclusive

/-- Decodes a range literal by the codec of the subtype. -/
def decodeRange (decodeSub : Json → ExceptT ConversionError m Json) (literal : List Char) :
    ExceptT ConversionError m Json :=
  if Range.isEmptyLiteral literal then pure .null
  else
    match Range.readLiteral literal with
    | .error fault => throw (.malformedRange (String.ofList literal) fault)
    | .ok (first, last) => do
      let first ← decodeBound decodeSub first
      let last ← decodeBound decodeSub last
      return Range.toObject first last

/-- Encodes one bound of a range object by the codec of the subtype. -/
def encodeBound (encodeSub : Json → ExceptT ConversionError m Fragment) :
    Option Range.ObjectBound → ExceptT ConversionError m Fragment
  | none => pure .null
  | some bound => encodeSub bound.value

/-- Turns a stored value into its schema value. -/
def decodeWith : Codec → Json → ExceptT ConversionError m Json
  | _, .null => pure .null
  | .identity _, value => pure value
  | .integer _, value => lift (Json.ofInt <$> readInteger value)
  | .float _, value => lift (Json.ofFinite <$> readFinite value)
  | .boolean _, value => lift (Json.bool <$> readBoolean value)
  | .bigNumber _, value => lift (Json.string <$> readBigNumber value)
  | .money _, .number value => pure (.number value)
  | .money _, .string text => lift (parseMoney text >>= jsonOfBinary64)
  | .money _, other => throw (.shape .currencyAmount other)
  | .point _, value =>
    lift ((fun (x, y) => Json.object [("x", x), ("y", y)]) <$> Point.coordinates value)
  | .interval _, value => do
    let interval ← intervalOf readInterval value
    lift interval.toJson
  | .document _ true, .string text => lift (readDocument text)
  | .document _ true, value => pure value
  | .document _ false, .string text => pure (.string text)
  | .document _ false, value => pure (.string value.text)
  | .array _ item _, .array items => Json.array <$> items.mapM (decodeWith item)
  | .array typeName _ _, _ => throw (.notASequence typeName)
  | .range _ sub, .string literal => decodeRange (decodeWith sub) (trim literal.toList)
  | .range _ _, .object members => lift (Range.checkObject members)
  | .range _ _, other => throw (.shape .range other)

/-- Turns a schema value into the fragment that produces it. -/
def encodeWith : Codec → Json → ExceptT ConversionError m Fragment
  | _, .null => pure .null
  | .identity type, value => pure (.cast (.value value) type)
  | .integer type, value => lift ((fun n => .cast (.value (.ofInt n)) type) <$> readInteger value)
  | .float type, value => lift ((fun x => .cast (.value (.ofFinite x)) type) <$> readFinite value)
  | .boolean type, value => lift ((fun b => .cast (.value (.bool b)) type) <$> readBoolean value)
  | .bigNumber type, value =>
    lift ((fun text => .cast (.value (.string text)) type) <$> readBigNumber value)
  | .money type, value =>
    lift ((fun amount =>
      .cast (.cast (.value (.ofNumber amount)) (.inCatalog "numeric")) type) <$> readFinite value)
  | .point constructor, value =>
    lift ((fun (x, y) => .call constructor [.value x, .value y]) <$> Point.coordinates value)
  | .interval type, value => do
    let interval ← intervalOf readInterval value
    return .cast (.value (.string interval.literal)) type
  | .document type true, value => pure (.cast (.value (.string value.text)) type)
  | .document type false, .string text =>
    lift ((fun text => .cast (.value (.string text)) type) <$> checkDocument text)
  | .document _ false, other => throw (.shape .jsonString other)
  | .array _ item elementType, .array items => do
    let elements ← items.mapM (encodeWith item)
    return .array elements elementType
  | .array typeName _ _, _ => throw (.notASequence typeName)
  | .range constructor sub, .object members => do
    let first ← lift (Range.readBound (members.lookup "start"))
    let start ← encodeBound (encodeWith sub) first
    let last ← lift (Range.readBound (members.lookup "end"))
    let stop ← encodeBound (encodeWith sub) last
    return .call constructor [start, stop, .value (.string (Range.flags first last))]
  | .range _ _, other => throw (.shape .range other)

end Generic

/-! ### Without and with a cache -/

/-- Turns a stored value into its schema value. -/
def decode (codec : Codec) (value : Json) : Conversion Json :=
  (codec.decodeWith (m := Id) (fun literal => ExceptT.mk (Interval.parse literal)) value).run

/-- Turns a schema value into the fragment that produces it. -/
def encode (codec : Codec) (value : Json) : Conversion Fragment :=
  (codec.encodeWith (m := Id) (fun literal => ExceptT.mk (Interval.parse literal)) value).run

/-- A lookup in the interval cache at hand. -/
def readCached (literal : String) : ExceptT ConversionError (StateM IntervalCache) Interval :=
  ExceptT.mk fun cache => cache.read literal

/-- Turns a stored value into its schema value; interval literals go through the cache. -/
def decodeCached (codec : Codec) (value : Json) (cache : IntervalCache) :
    Conversion Json × IntervalCache :=
  (codec.decodeWith readCached value).run.run cache

/-- Turns a schema value into the fragment that produces it; interval literals go through the
cache. -/
def encodeCached (codec : Codec) (value : Json) (cache : IntervalCache) :
    Conversion Fragment × IntervalCache :=
  (codec.encodeWith readCached value).run.run cache

end Codec

end CatalogSchema
