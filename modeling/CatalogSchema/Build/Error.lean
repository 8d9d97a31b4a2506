/-
**Errors of building a schema.**

A build fails with a `BuildError`. Phases of hooks fail with a `PipelineError`, which a build error
can wrap, and a hook fails with a `HookError`, which is one of the two or a text of its own.
`BuildError.message` words them all.

Two things that a reader of messages may see elsewhere are left out: the names of the types of a
capability or a phase, and what a reader of documents says about a malformed one. Placeholders stand
for them, `<type>`, `<types>` and `<detail>`, so two errors that differ in nothing else are one
error here.

* `BuildError.resolving`: an error gets the descriptor at fault once, where it first arises.
* `BuildError.isRecursionLimit`: recognises the depth limit through wrappers.
-/

import CatalogSchema.Conversion.Error

namespace CatalogSchema

/-- What is wrong with a configuration, a catalog or the use of a builder. -/
inductive ConfigurationFault where
  /-- A descriptor lacks the child that its kind requires. -/
  | missingChild (typeName : String) (kind : TypeKind) (role : ChildRole)
  /-- Two descriptors have one id. -/
  | duplicateId (id : TypeId) (existing added : String)
  /-- An override came after its type was resolved. -/
  | lateOverride (typeName : String)
  /-- A range over a row type. -/
  | rangeOverComposite (subtype : String)
  /-- A range over a domain over a row type. -/
  | rangeOverCompositeDomain (subtype composite : String)
  /-- A range over a type that has no name in the schema. -/
  | unnamedSubtype (subtype schemaType : String)
  /-- The fields of an object were given twice. -/
  | fieldsDefined (typeName : String)
  /-- A plugin was added twice. -/
  | duplicatePlugin (name : String)
  /-- A configuration document that cannot be read. Why it cannot is left out. -/
  | malformedConfig
  /-- A depth limit of zero. -/
  | zeroDepthLimit
  /-- A cache capacity of zero. -/
  | zeroCacheCapacity
  /-- A column whose type has no conversion. -/
  | columnConversion (column table : String) (source : ConversionError)
  /-- A fault that a plugin words itself. -/
  | custom (text : String)
  deriving DecidableEq

/-- The wording of a fault. -/
def ConfigurationFault.message : ConfigurationFault → String
  | .missingChild typeName kind role => typeName ++ " (" ++ kind.text ++ ") has no " ++ role.text
  | .duplicateId id existing added =>
    "type id " ++ toString id.toNat ++ " is used by both " ++ existing ++ " and " ++ added
  | .lateOverride typeName =>
    "type " ++ typeName ++ " was resolved before its override was registered"
  | .rangeOverComposite subtype =>
    "range subtype " ++ subtype ++
      " is a composite type, whose literals cannot be split into bounds"
  | .rangeOverCompositeDomain subtype composite =>
    "range subtype " ++ subtype ++ " is a domain over composite type " ++ composite ++
      ", whose literals cannot be split into bounds"
  | .unnamedSubtype subtype schemaType =>
    "range subtype " ++ subtype ++ " resolves to unnamed type " ++ schemaType
  | .fieldsDefined typeName => "fields of " ++ typeName ++ " are already defined"
  | .duplicatePlugin name => "plugin " ++ name ++ " is added twice"
  | .malformedConfig => "invalid bridge configuration: <detail>"
  | .zeroDepthLimit => "recursion_depth_limit must be at least 1"
  | .zeroCacheCapacity => "interval_cache_capacity must be at least 1"
  | .columnConversion column table source =>
    "column " ++ column ++ " of " ++ table ++ ": " ++ source.message
  | .custom text => text

mutual

/-- Why a schema cannot be built. -/
inductive BuildError where
  | configuration (fault : ConfigurationFault)
  /-- Two overrides of one type. -/
  | duplicateOverride (typeName : String)
  /-- A type id that the catalog does not have. -/
  | missingDescriptor (id : TypeId) (referrer : String)
  /-- Two labels of an enumeration with one member name. -/
  | enumNameCollision (typeName name first second : String)
  /-- Two types with one name in the schema. -/
  | duplicateTypeName (name : String)
  /-- Types nested deeper than the limit. -/
  | recursionLimit (typeName : String) (kind : TypeKind) (limit : Nat)
  /-- The error of resolving a descriptor. -/
  | typeResolution (typeName : String) (kind : TypeKind) (source : BuildError)
  /-- The error of a phase. -/
  | pipeline (error : PipelineError)

/-- Why a phase of hooks fails. -/
inductive PipelineError where
  /-- Two contributors to one capability. -/
  | duplicateCapability (key existingLabel label : String)
  | missingCapability (key : String)
  /-- A capability of another type than required. The name of the required type is left out. -/
  | capabilityType (key : String)
  /-- A phase used with other types than it was registered with. The names of these and of those are
  left out. -/
  | phaseType (phase : String)
  | duplicateHook (phase hook : String)
  /-- The error of a hook. -/
  | hookFailed (phase hook : String) (source : HookError)
  /-- The error of the definition of a field. -/
  | fieldDefinition (field : String) (source : HookError)
  | duplicateField (owner field : String)

/-- Why a hook fails. -/
inductive HookError where
  | build (error : BuildError)
  | pipeline (error : PipelineError)
  /-- A text of the hook's own. -/
  | message (text : String)

end

instance : Inhabited BuildError := ⟨.duplicateTypeName ""⟩

instance : Inhabited PipelineError := ⟨.missingCapability ""⟩

mutual

/-- The wording of a build error. -/
def BuildError.message : BuildError → String
  | .configuration fault => "configuration error: " ++ fault.message
  | .duplicateOverride typeName => "a type override for " ++ typeName ++ " is already registered"
  | .missingDescriptor id referrer =>
    "type " ++ toString id.toNat ++ " referenced by " ++ referrer ++ " is missing from the catalog"
  | .enumNameCollision typeName name first second =>
    "enum " ++ typeName ++ ": variants " ++ Text.quoted first ++ " and " ++ Text.quoted second ++
      " both map to member name " ++ name
  | .duplicateTypeName name => "two different schema types are named " ++ name
  | .recursionLimit typeName kind limit =>
    "type graph too deep (limit " ++ toString limit ++ ") at " ++ typeName ++ " (" ++ kind.text ++
      "); suspected cycle"
  | .typeResolution typeName kind source =>
    "error resolving database type " ++ typeName ++ " (" ++ kind.text ++ "): " ++ source.message
  | .pipeline error => error.message

/-- The wording of a pipeline error. -/
def PipelineError.message : PipelineError → String
  | .duplicateCapability key existingLabel label =>
    "capability '" ++ key ++ "' added by '" ++ label ++ "' collides with the one added by '" ++
      existingLabel ++ "'"
  | .missingCapability key => "capability '" ++ key ++ "' is not present in the build state"
  | .capabilityType key => "capability '" ++ key ++ "' is not a <type>"
  | .phaseType phase => "phase '" ++ phase ++ "' is registered for <types>"
  | .duplicateHook phase hook =>
    "hook '" ++ hook ++ "' is already registered for phase '" ++ phase ++ "'"
  | .hookFailed phase hook source =>
    "hook '" ++ hook ++ "' failed during phase '" ++ phase ++ "': " ++ source.text
  | .fieldDefinition field source => "failed to define field '" ++ field ++ "': " ++ source.text
  | .duplicateField owner field =>
    "field '" ++ field ++ "' is defined more than once on '" ++ owner ++ "'"

/-- The wording of a hook's error. -/
def HookError.text : HookError → String
  | .build error => error.message
  | .pipeline error => error.message
  | .message text => text

end

/-! ### Kinds -/

mutual

/-- The kinds of a build error and of the errors that it wraps, from the outside in. -/
def BuildError.chain : BuildError → List String
  | .configuration _ => ["Configuration"]
  | .duplicateOverride _ => ["DuplicateOverride"]
  | .missingDescriptor _ _ => ["MissingDescriptor"]
  | .enumNameCollision _ _ _ _ => ["EnumNameCollision"]
  | .duplicateTypeName _ => ["DuplicateTypeName"]
  | .recursionLimit _ _ _ => ["RecursionLimit"]
  | .typeResolution _ _ source => "TypeResolution" :: source.chain
  | .pipeline error => "Pipeline" :: error.chain

/-- The kinds of a pipeline error and of the errors that it wraps, from the outside in. -/
def PipelineError.chain : PipelineError → List String
  | .duplicateCapability _ _ _ => ["DuplicateCapability"]
  | .missingCapability _ => ["MissingCapability"]
  | .capabilityType _ => ["CapabilityType"]
  | .phaseType _ => ["PhaseType"]
  | .duplicateHook _ _ => ["DuplicateHook"]
  | .hookFailed _ _ source => "HookFailed" :: source.chain
  | .fieldDefinition _ source => "FieldDefinition" :: source.chain
  | .duplicateField _ _ => ["DuplicateField"]

/-- The kinds of a hook's error and of the errors that it wraps, from the outside in. -/
def HookError.chain : HookError → List String
  | .build error => error.chain
  | .pipeline error => error.chain
  | .message _ => ["Message"]

end

namespace BuildError

/-- Names the descriptor that was being resolved, unless the error names one already. -/
def resolving (descriptor : Descriptor) : BuildError → BuildError
  | .recursionLimit typeName kind limit => .recursionLimit typeName kind limit
  | .typeResolution typeName kind source => .typeResolution typeName kind source
  | error => .typeResolution descriptor.displayName descriptor.kind error

/-- Holds of the depth limit, directly or behind the descriptor being resolved, and of the failure
of a hook or of a field's definition whose own error is a build error of this sort. -/
def isRecursionLimit : BuildError → Bool
  | .recursionLimit _ _ _ => true
  | .typeResolution _ _ source => source.isRecursionLimit
  | .pipeline (.hookFailed _ _ (.build source)) => source.isRecursionLimit
  | .pipeline (.fieldDefinition _ (.build source)) => source.isRecursionLimit
  | _ => false

end BuildError

end CatalogSchema
