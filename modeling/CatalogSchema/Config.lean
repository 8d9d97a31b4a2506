/-
**Configuration of a build.**

Every option has a default, so an empty document is a configuration. `Config.parse` also checks that
the depth limit and the cache capacity leave room for something.
-/

import CatalogSchema.Build.Error
import CatalogSchema.Json.Record

namespace CatalogSchema

/-- The options of a build. -/
structure Config where
  /-- Whether JSON documents are values in the schema rather than texts. -/
  structuredJson : Bool
  /-- Whether the scalars for documents and unique ids keep their old spelling. -/
  legacyNames : Bool
  /-- Whether the items of results that are sets are never null. -/
  forbidNullInSets : Bool
  /-- The deepest nesting of types. -/
  depthLimit : Nat
  /-- The interval literals that are kept. -/
  cacheCapacity : Nat
  deriving DecidableEq

namespace Config

/-- Every option at its default. -/
def default : Config := ⟨false, false, false, 50, 500⟩

instance : Inhabited Config := ⟨default⟩

/-- Refuses limits of zero. -/
def validate (config : Config) : Except BuildError Unit :=
  if config.depthLimit = 0 then .error (.configuration .zeroDepthLimit)
  else if config.cacheCapacity = 0 then .error (.configuration .zeroCacheCapacity)
  else .ok ()

/-- Reads the options of a document; an unknown member is ignored. -/
def ofTree? (tree : JsonTree) : Option Config := do
  let fields ← tree.recordFields? false [
    "use_structured_json", "use_legacy_names", "forbid_null_in_setof_results",
    "recursion_depth_limit", "interval_cache_capacity"]
  match fields with
  | [structured, legacy, forbid, depth, capacity] =>
    return {
      structuredJson := ← JsonTree.fieldOr default.structuredJson JsonTree.bool? structured
      legacyNames := ← JsonTree.fieldOr default.legacyNames JsonTree.bool? legacy
      forbidNullInSets := ← JsonTree.fieldOr default.forbidNullInSets JsonTree.bool? forbid
      depthLimit := ← JsonTree.fieldOr default.depthLimit (JsonTree.natBelow? UInt64.size) depth
      cacheCapacity :=
        ← JsonTree.fieldOr default.cacheCapacity (JsonTree.natBelow? UInt64.size) capacity }
  | _ => none

/-- Reads and checks a configuration document. -/
def parse (text : String) : Except BuildError Config := do
  match (JsonTree.read? text.toList).bind ofTree? with
  | none => .error (.configuration .malformedConfig)
  | some config =>
    config.validate
    return config

end Config

end CatalogSchema
