/-
**What resolution has settled.**

A `Registry` holds, for each type id, the schema types it became and the conversion of its values,
and besides the overrides that take the place of resolution. Nothing in it is ever replaced.
-/

import CatalogSchema.Catalog.Basic
import CatalogSchema.Config
import CatalogSchema.Schema.Scalars

namespace CatalogSchema

/-- The schema types of a database type: one for output, and perhaps one for input. -/
structure TypeEntry where
  output : SchemaType
  input : Option SchemaType
  deriving DecidableEq

/-- One type for output and input. -/
def TypeEntry.both (type : SchemaType) : TypeEntry := ⟨type, some type⟩

/-- A codec that several types may share; the serial number tells it from equal ones. -/
structure SharedCodec where
  serial : Nat
  codec : Codec
  deriving DecidableEq

/-- An explicit mapping of a type id, in place of resolution. -/
structure Override where
  output : SchemaType
  input : Option SchemaType
  codec : Option SharedCodec
  deriving DecidableEq

/-- What happens to a second override of a type id. -/
inductive ConflictRule where
  /-- It is an error. -/
  | fail
  /-- It is dropped. -/
  | yield
  deriving DecidableEq

/-- What resolution depends on and does not change. -/
structure Setting where
  catalog : Catalog
  naming : Naming
  config : Config
  scalars : StandardScalars

/-- The setting of a catalog, with the scalars that the configuration names. -/
def Setting.of (catalog : Catalog) (naming : Naming) (config : Config) : Setting :=
  ⟨catalog, naming, config, .make config.legacyNames⟩

/-- What resolution has settled. -/
structure Registry where
  pool : TypePool
  overrides : SortedMap TypeId Override
  /-- The resolved types. -/
  types : SortedMap TypeId TypeEntry
  /-- The conversions of resolved types; a type without one passes values unchanged. -/
  codecs : SortedMap TypeId SharedCodec
  /-- The objects of ranges, by the schema name of the subtype. -/
  rangeShapes : SortedMap String TypeEntry
  /-- The list types of results that are sets. -/
  sets : SortedMap TypeId SchemaType
  deriving DecidableEq

namespace Registry

/-- Nothing is settled. -/
def initial : Registry := ⟨.initial, .empty, .empty, .empty, .empty, .empty⟩

instance : Inhabited Registry := ⟨initial⟩

/-- The conversion that a resolved type has as a part of another. -/
def partCodec (registry : Registry) (id : TypeId) (descriptor : Descriptor) : Codec :=
  match registry.codecs.find? id with
  | some shared => shared.codec
  | none => .identity descriptor.qualifiedName

/-- Files a resolved type and its conversion under an id that has none. -/
def file (registry : Registry) (id : TypeId) (entry : TypeEntry) (codec : Option SharedCodec) :
    Registry :=
  { registry with
    types := registry.types.insertIfNew id entry
    codecs :=
      match codec with
      | some codec => registry.codecs.insertIfNew id codec
      | none => registry.codecs }

end Registry

/-! ### Steps on the registry -/

/-- A step that may settle more, and may fail. What was settled before a failure stays. -/
abbrev Resolve := ExceptT BuildError (StateM Registry)

namespace Resolve

/-- An outcome that settles nothing. -/
def ofExcept {α : Type} (outcome : Except BuildError α) : Resolve α := ExceptT.mk (pure outcome)

/-- Makes a type. -/
def make (build : TypePool → SchemaType × TypePool) : Resolve SchemaType :=
  modifyGet fun registry =>
    let (type, pool) := build registry.pool
    (type, { registry with pool })

/-- Makes a codec that is shared from now on. -/
def share (codec : Codec) : Resolve SharedCodec :=
  modifyGet fun registry =>
    (⟨registry.pool.next, codec⟩,
      { registry with pool := { registry.pool with next := registry.pool.next + 1 } })

end Resolve

/-! ### Conversions by type id -/

/-- The conversion that serves a type id: a shared one, or one made for this use. -/
inductive ServedCodec where
  | shared (held : SharedCodec)
  | passing (made : Codec)
  deriving DecidableEq

namespace ServedCodec

/-- The conversion itself. -/
def codec : ServedCodec → Codec
  | .shared held => held.codec
  | .passing made => made

/-- Holds of two that are one shared conversion. -/
def same : ServedCodec → ServedCodec → Bool
  | .shared first, .shared second => first.serial = second.serial
  | _, _ => false

end ServedCodec

/-- The conversion of a type id: the registered one, else that of its override, else its values pass
unchanged; an id outside the catalog has none. -/
def Registry.codecFor (setting : Setting) (registry : Registry) (id : TypeId) :
    Conversion ServedCodec :=
  match registry.codecs.find? id with
  | some codec => .ok (.shared codec)
  | none =>
    match (registry.overrides.find? id).bind (·.codec) with
    | some codec => .ok (.shared codec)
    | none =>
      match setting.catalog.find? id with
      | some descriptor => .ok (.passing (.identity descriptor.qualifiedName))
      | none => .error (.unknownType id)

/-- Decodes a stored value of a type id. -/
def Registry.decode (setting : Setting) (registry : Registry) (id : TypeId) (value : Json) :
    Conversion Json := do
  (← registry.codecFor setting id).codec.decode value

/-- Encodes a schema value of a type id. -/
def Registry.encode (setting : Setting) (registry : Registry) (id : TypeId) (value : Json) :
    Conversion Fragment := do
  (← registry.codecFor setting id).codec.encode value

/-- Decodes a stored value of a type id; interval literals go through the cache. -/
def Registry.decodeCached (setting : Setting) (registry : Registry) (id : TypeId) (value : Json)
    (cache : IntervalCache) : Conversion Json × IntervalCache :=
  match registry.codecFor setting id with
  | .ok served => served.codec.decodeCached value cache
  | .error error => (.error error, cache)

/-- Encodes a schema value of a type id; interval literals go through the cache. -/
def Registry.encodeCached (setting : Setting) (registry : Registry) (id : TypeId) (value : Json)
    (cache : IntervalCache) : Conversion Fragment × IntervalCache :=
  match registry.codecFor setting id with
  | .ok served => served.codec.encodeCached value cache
  | .error error => (.error error, cache)

end CatalogSchema
