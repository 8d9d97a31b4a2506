/-
**Mappings of the well-known types.**

The plugin maps each well-known type to a standard scalar with its conversion; spans of time and
points become objects. Every mapping yields to one that was registered earlier.
-/

import CatalogSchema.Build.Schema
import CatalogSchema.Catalog.Builtin

namespace CatalogSchema

namespace StandardTypes

open Builtin

/-! ### Scalars -/

/-- Type ids with one scalar and one way of conversion. -/
structure ScalarGroup where
  ids : List (TypeId × String)
  scalar : SchemaType
  /-- The conversion by the type's name; a type without one passes values unchanged. -/
  codec : QualifiedName → Option Codec

/-- The types of numbers and truth values. -/
def convertedGroups (scalars : StandardScalars) : List ScalarGroup := [
  ⟨[(boolId, "bool")], scalars.boolean, fun name => some (.boolean name)⟩,
  ⟨[(int2Id, "int2"), (int4Id, "int4")], scalars.int, fun name => some (.integer name)⟩,
  ⟨[(float4Id, "float4"), (float8Id, "float8")], scalars.float, fun name => some (.float name)⟩,
  ⟨[(int8Id, "int8")], scalars.bigInt, fun name => some (.bigNumber name)⟩,
  ⟨[(numericId, "numeric")], scalars.bigFloat, fun name => some (.bigNumber name)⟩,
  ⟨[(moneyId, "money")], scalars.float, fun name => some (.money name)⟩]

/-- The types whose values pass unchanged. -/
def plainGroups (scalars : StandardScalars) : List ScalarGroup := [
  ⟨[(textId, "text"), (varcharId, "varchar"), (bpcharId, "bpchar"), (nameId, "name"),
    (charId, "char"), (xmlId, "xml")], scalars.string, fun _ => none⟩,
  ⟨[(uuidId, "uuid")], scalars.uuid, fun _ => none⟩,
  ⟨[(dateId, "date")], scalars.date, fun _ => none⟩,
  ⟨[(timeId, "time"), (timetzId, "timetz")], scalars.time, fun _ => none⟩,
  ⟨[(timestampId, "timestamp"), (timestamptzId, "timestamptz")], scalars.datetime, fun _ => none⟩,
  ⟨[(inetId, "inet"), (cidrId, "cidr"), (macaddrId, "macaddr")], scalars.internetAddress,
    fun _ => none⟩,
  ⟨[(bitId, "bit"), (varbitId, "varbit")], scalars.bitString, fun _ => none⟩]

/-- The types of documents. -/
def documentGroup (scalars : StandardScalars) (structured : Bool) : ScalarGroup :=
  ⟨[(jsonId, "json"), (jsonbId, "jsonb")], scalars.json, fun name =>
      some (.document name structured)⟩

/-! ### Objects -/

/-- A field of an object and its input object. -/
structure Member where
  name : String
  type : SchemaType
  description : Option String

/-- An output field that reads the property of its own name. -/
def Member.toField (member : Member) : Field :=
  ⟨member.name, member.description, member.type, .property member.name⟩

/-- An input field. -/
def Member.toInputField (member : Member) : InputField :=
  ⟨member.name, member.description, member.type⟩

/-- Makes an object and its input object with the same members. -/
def makeShape (name : String) (description inputDescription : Option String)
    (members : List Member) : Build TypeEntry := do
  let output ← Build.make (·.object name description (members.map Member.toField))
  let input ← Build.make
    (·.inputObject (name ++ "Input") inputDescription (members.map Member.toInputField))
  return ⟨output, some input⟩

/-- Makes the objects of spans of time. -/
def makeInterval (scalars : StandardScalars) : Build TypeEntry :=
  makeShape "Interval" (some "A span of time; each component is added to the others.")
    (some "A span of time; omitted components are zero.") [
      ⟨"seconds", scalars.float, some "A quantity of seconds, possibly fractional."⟩,
      ⟨"minutes", scalars.int, some "A quantity of minutes."⟩,
      ⟨"hours", scalars.int, some "A quantity of hours."⟩,
      ⟨"days", scalars.int, some "A quantity of days."⟩,
      ⟨"months", scalars.int, some "A quantity of months."⟩,
      ⟨"years", scalars.int, some "A quantity of years."⟩]

/-- Makes the objects of points. -/
def makePoint (scalars : StandardScalars) : Build TypeEntry := do
  let coordinate ← Build.make (·.nonNull scalars.float)
  makeShape "Point" none none [⟨"x", coordinate, none⟩, ⟨"y", coordinate, none⟩]

/-! ### Registration -/

/-- Registers a mapping, unless there is one. -/
def registerMapping (setting : Setting) (id : TypeId) (entry : TypeEntry) (codec : Option Codec) :
    Build Unit := do
  let shared ← codec.mapM fun codec => Build.ofResolve (Resolve.share codec)
  let _ ← Build.ofResolve
    (Resolve.registerOverride setting id ⟨entry.output, entry.input, shared⟩ .yield)

/-- Registers the mappings of a group. -/
def registerGroup (setting : Setting) (group : ScalarGroup) : Build Unit :=
  group.ids.forM fun (id, name) =>
    registerMapping setting id (.both group.scalar) (group.codec (.inCatalog name))

/-- Registers all mappings. -/
def register (setting : Setting) : Build Unit := do
  let interval ← makeInterval setting.scalars
  let point ← makePoint setting.scalars
  (convertedGroups setting.scalars).forM (registerGroup setting)
  (plainGroups setting.scalars).forM (registerGroup setting)
  registerGroup setting (documentGroup setting.scalars setting.config.structuredJson)
  registerMapping setting intervalId interval (some (.interval (.inCatalog "interval")))
  registerMapping setting pointId point (some (.point (.inCatalog "point")))

end StandardTypes

/-- Maps the well-known types. -/
def Plugin.standardTypes : Plugin where
  name := "StandardTypesPlugin"
  register setting engine := do
    StandardTypes.register setting
    return engine

end CatalogSchema
