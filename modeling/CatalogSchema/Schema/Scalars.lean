/-
**The scalars of every schema.**

They are made before any other type, so their serial numbers are the first.
-/

import CatalogSchema.Schema.Pool

namespace CatalogSchema

/-- The scalars that every schema can use. -/
structure StandardScalars where
  boolean : SchemaType
  int : SchemaType
  float : SchemaType
  string : SchemaType
  id : SchemaType
  bigInt : SchemaType
  bigFloat : SchemaType
  json : SchemaType
  uuid : SchemaType
  date : SchemaType
  datetime : SchemaType
  time : SchemaType
  internetAddress : SchemaType
  bitString : SchemaType
  deriving DecidableEq

namespace StandardScalars

/-- The scalars; the legacy spelling concerns the names of documents and unique ids. -/
def make (legacyNames : Bool) : StandardScalars where
  boolean := .scalar 0 "Boolean" (some "true or false") .boolean
  int := .scalar 1 "Int" (some "A signed 32-bit integer.") .int
  float := .scalar 2 "Float" (some "A double-precision floating point number.") .float
  string := .scalar 3 "String" (some "UTF-8 text.") .string
  id := .scalar 4 "ID" (some "An opaque globally unique identifier.") .string
  bigInt := .scalar 5 "BigInt" (some "A signed eight-byte integer, serialized as a string.") .string
  bigFloat :=
    .scalar 6 "BigFloat" (some "An arbitrary-precision number, serialized as a string.") .string
  json := .scalar 7 (if legacyNames then "Json" else "JSON") (some "A JSON value.") .json
  uuid :=
    .scalar 8 (if legacyNames then "Uuid" else "UUID")
      (some "A universally unique identifier (RFC 4122).") .string
  date := .scalar 9 "Date" (some "A calendar date.") .string
  datetime := .scalar 10 "Datetime" (some "A point in time, with time zone if known.") .string
  time := .scalar 11 "Time" (some "A time of day.") .string
  internetAddress :=
    .scalar 12 "InternetAddress" (some "An IPv4 or IPv6 host or network address.") .string
  bitString := .scalar 13 "BitString" (some "A string of 1s and 0s.") .string

/-- The scalars in a fixed order. -/
def toList (scalars : StandardScalars) : List SchemaType := [
  scalars.boolean, scalars.int, scalars.float, scalars.string, scalars.id, scalars.bigInt,
  scalars.bigFloat, scalars.json, scalars.uuid, scalars.date, scalars.datetime, scalars.time,
  scalars.internetAddress, scalars.bitString]

end StandardScalars

/-- The pool in which only the standard scalars have been made. -/
def TypePool.initial : TypePool := ⟨14, .empty, .empty⟩

end CatalogSchema
