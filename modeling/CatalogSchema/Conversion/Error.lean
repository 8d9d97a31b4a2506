/-
**Errors of value conversion.**

A conversion fails with the value at fault and the reason; `ConversionError.message` words it. An
error raised while a field was resolved names the field around its cause.
-/
import CatalogSchema.Catalog.Descriptor
import CatalogSchema.Text.Quoted

namespace CatalogSchema

open Text

/-- Why the text or object of a range is refused. -/
inductive RangeFault where
  | noComma
  | badStart
  | badEnd
  | boundNotObject
  | boundWithoutValue
  | boundWithoutFlag
  | unexpectedBoundKey (key : String)
  | unexpectedRangeKey (key : String)
  deriving DecidableEq

/-- The wording of a fault of a range. -/
def RangeFault.message : RangeFault → String
  | .noComma => "no separating comma"
  | .badStart => "must start with '[' or '('"
  | .badEnd => "must end with ']' or ')'"
  | .boundNotObject => "bound is not an object"
  | .boundWithoutValue => "bound has no value"
  | .boundWithoutFlag => "bound has no inclusive flag"
  | .unexpectedBoundKey key => "unexpected bound key '" ++ key ++ "'"
  | .unexpectedRangeKey key => "unexpected range key '" ++ key ++ "'"

/-- Why a node identifier is refused. -/
inductive NodeIdFault where
  | notBase64
  | notJson
  | notArray
  | noKey
  | aliasNotString
  deriving DecidableEq

/-- The wording of a fault of a node identifier. -/
def NodeIdFault.message : NodeIdFault → String
  | .notBase64 => "not base64"
  | .notJson => "payload is not JSON"
  | .notArray => "payload is not an array"
  | .noKey => "payload has no key parts"
  | .aliasNotString => "type alias is not a string"

/-- The shape of value that a conversion expects. -/
inductive ExpectedShape where
  | integer
  | boolean
  | number
  | currencyAmount
  | point
  | interval
  | jsonString
  | range
  deriving DecidableEq

/-- The name of a shape, in messages. -/
def ExpectedShape.text : ExpectedShape → String
  | .integer => "an integer"
  | .boolean => "a boolean"
  | .number => "a number"
  | .currencyAmount => "a currency amount"
  | .point => "a point"
  | .interval => "an interval"
  | .jsonString => "a JSON string"
  | .range => "a range"

/-- Why a value cannot be converted. -/
inductive ConversionError where
  | notASequence (typeName : String)
  | malformedRange (literal : String) (fault : RangeFault)
  | malformedInterval (text : String)
  | malformedPoint (text : String)
  | malformedMoney (text : String)
  | malformedNumber (text : String)
  /-- A text that is no JSON document. Where and why reading it ended is left out: `<detail>` stands
  for it. -/
  | malformedJson
  | unexpectedShape (expected : ExpectedShape) (found : String)
  | invalidNodeId (fault : NodeIdFault)
  | missingColumn (column : String)
  | unknownType (id : TypeId)
  /-- The error of a field. -/
  | inField (field : String) (source : ConversionError)
  deriving DecidableEq

namespace ConversionError

/-- A value of another shape than expected. -/
def shape (expected : ExpectedShape) (found : Json) : ConversionError :=
  .unexpectedShape expected found.kindText

/-- The wording of an error. -/
def message : ConversionError → String
  | .notASequence typeName => "expected a list value for array type " ++ typeName
  | .malformedRange literal fault =>
    "malformed range literal " ++ quoted literal ++ ": " ++ fault.message
  | .malformedInterval text => "malformed interval " ++ quoted text
  | .malformedPoint text => "malformed point " ++ quoted text
  | .malformedMoney text => "malformed money amount " ++ quoted text
  | .malformedNumber text => "malformed number " ++ quoted text
  | .malformedJson => "malformed JSON: <detail>"
  | .unexpectedShape expected found => "expected " ++ expected.text ++ ", found " ++ found
  | .invalidNodeId fault => "invalid node identifier: " ++ fault.message
  | .missingColumn column => "row has no column " ++ quoted column
  | .unknownType id => "unknown type " ++ toString id.toNat
  | .inField field source => "field " ++ quoted field ++ ": " ++ source.message

/-- The kind of an error. -/
def kind : ConversionError → String
  | .notASequence _ => "NotASequence"
  | .malformedRange _ _ => "MalformedRange"
  | .malformedInterval _ => "MalformedInterval"
  | .malformedPoint _ => "MalformedPoint"
  | .malformedMoney _ => "MalformedMoney"
  | .malformedNumber _ => "MalformedNumber"
  | .malformedJson => "MalformedJson"
  | .unexpectedShape _ _ => "UnexpectedShape"
  | .invalidNodeId _ => "InvalidNodeId"
  | .missingColumn _ => "MissingColumn"
  | .unknownType _ => "UnknownType"
  | .inField _ _ => "InField"

/-- The kinds of an error and of the errors that it wraps, from the outside in. -/
def chain : ConversionError → List String
  | .inField field source => (ConversionError.inField field source).kind :: source.chain
  | error => [error.kind]

end ConversionError

end CatalogSchema
