/-
**The well-known types of the database.**

Catalogs normally come from introspection; these descriptors stand in for it where a catalog is made
by hand. The types are base types of the usual categories, with some arrays and ranges over them.
-/

import CatalogSchema.Catalog.Descriptor

namespace CatalogSchema

namespace Builtin

/-- A base type. -/
def base (id : TypeId) (name : String) (category : Char) : Descriptor :=
  .plain id "pg_catalog" name .base category

/-- An array type. -/
def array (id : TypeId) (name : String) (item : TypeId) : Descriptor :=
  { Descriptor.plain id "pg_catalog" name .array Category.array with arrayItem := some item }

/-- A range type. -/
def range (id : TypeId) (name : String) (subtype : TypeId) : Descriptor :=
  { Descriptor.plain id "pg_catalog" name .range Category.range with rangeSubtype := some subtype }

/-- The id of `bool`. -/
def boolId : TypeId := 16

/-- The id of `char`. -/
def charId : TypeId := 18

/-- The id of `name`. -/
def nameId : TypeId := 19

/-- The id of `int8`. -/
def int8Id : TypeId := 20

/-- The id of `int2`. -/
def int2Id : TypeId := 21

/-- The id of `int4`. -/
def int4Id : TypeId := 23

/-- The id of `text`. -/
def textId : TypeId := 25

/-- The id of `json`. -/
def jsonId : TypeId := 114

/-- The id of `xml`. -/
def xmlId : TypeId := 142

/-- The id of `point`. -/
def pointId : TypeId := 600

/-- The id of `cidr`. -/
def cidrId : TypeId := 650

/-- The id of `float4`. -/
def float4Id : TypeId := 700

/-- The id of `float8`. -/
def float8Id : TypeId := 701

/-- The id of `money`. -/
def moneyId : TypeId := 790

/-- The id of `macaddr`. -/
def macaddrId : TypeId := 829

/-- The id of `inet`. -/
def inetId : TypeId := 869

/-- The id of `bpchar`. -/
def bpcharId : TypeId := 1042

/-- The id of `varchar`. -/
def varcharId : TypeId := 1043

/-- The id of `date`. -/
def dateId : TypeId := 1082

/-- The id of `time`. -/
def timeId : TypeId := 1083

/-- The id of `timestamp`. -/
def timestampId : TypeId := 1114

/-- The id of `timestamptz`. -/
def timestamptzId : TypeId := 1184

/-- The id of `interval`. -/
def intervalId : TypeId := 1186

/-- The id of `timetz`. -/
def timetzId : TypeId := 1266

/-- The id of `bit`. -/
def bitId : TypeId := 1560

/-- The id of `varbit`. -/
def varbitId : TypeId := 1562

/-- The id of `numeric`. -/
def numericId : TypeId := 1700

/-- The id of `uuid`. -/
def uuidId : TypeId := 2950

/-- The id of `jsonb`. -/
def jsonbId : TypeId := 3802

/-- The well-known types. -/
def types : List Descriptor := [
  base boolId "bool" Category.boolean,
  base 17 "bytea" Category.user,
  base charId "char" Category.string,
  base nameId "name" Category.string,
  base int8Id "int8" Category.numeric,
  base int2Id "int2" Category.numeric,
  base int4Id "int4" Category.numeric,
  base textId "text" Category.string,
  base jsonId "json" Category.user,
  base xmlId "xml" Category.user,
  base pointId "point" Category.geometric,
  base cidrId "cidr" Category.network,
  base float4Id "float4" Category.numeric,
  base float8Id "float8" Category.numeric,
  base moneyId "money" Category.numeric,
  base macaddrId "macaddr" Category.user,
  base inetId "inet" Category.network,
  base bpcharId "bpchar" Category.string,
  base varcharId "varchar" Category.string,
  base dateId "date" Category.datetime,
  base timeId "time" Category.datetime,
  base timestampId "timestamp" Category.datetime,
  base timestamptzId "timestamptz" Category.datetime,
  base intervalId "interval" Category.timespan,
  base timetzId "timetz" Category.datetime,
  base bitId "bit" Category.bitstring,
  base varbitId "varbit" Category.bitstring,
  base numericId "numeric" Category.numeric,
  base uuidId "uuid" Category.user,
  base jsonbId "jsonb" Category.user,
  range 3904 "int4range" int4Id,
  range 3906 "numrange" numericId,
  range 3908 "tsrange" timestampId,
  range 3910 "tstzrange" timestamptzId,
  range 3912 "daterange" dateId,
  range 3926 "int8range" int8Id,
  array 1000 "_bool" boolId,
  array 1005 "_int2" int2Id,
  array 1007 "_int4" int4Id,
  array 1009 "_text" textId,
  array 1015 "_varchar" varcharId,
  array 1016 "_int8" int8Id,
  array 1017 "_point" pointId,
  array 1022 "_float8" float8Id,
  array 1182 "_date" dateId,
  array 1185 "_timestamptz" timestamptzId,
  array 1187 "_interval" intervalId,
  array 1231 "_numeric" numericId,
  array 2951 "_uuid" uuidId,
  array 3807 "_jsonb" jsonbId]

end Builtin

end CatalogSchema
