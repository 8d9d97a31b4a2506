/-
**Resolving database types.**

`resolve` turns a type id into schema types and a conversion, and files both. An override decides
alone; otherwise the descriptor does. A domain, an array and a range are built over the one type
they refer to, which is resolved first, one level deeper; the depth limit bounds the levels, so
types that refer to themselves are an error.
-/

import CatalogSchema.Resolution.Registry

namespace CatalogSchema

namespace Resolve

/-- The child of a descriptor in a role, which it must have. -/
def requireChild (descriptor : Descriptor) (role : ChildRole) : Resolve TypeId :=
  match descriptor.child? role with
  | some child => pure child
  | none =>
    throw (.configuration (.missingChild descriptor.displayName descriptor.kind role))

/-! ### Types that stand alone -/

/-- An enumeration, for output and input. -/
def enumType (setting : Setting) (descriptor : Descriptor) : Resolve TypeEntry := do
  let members ← ofExcept
    (enumMembers setting.naming descriptor.displayName (descriptor.labels.getD []))
  let type ← make fun pool => pool.make fun serial =>
    .enumeration serial (setting.naming.typeName descriptor) descriptor.description members
  return .both type

/-- The standard scalar and the conversion of a type of a category. -/
def scalarOf (setting : Setting) (descriptor : Descriptor) : SchemaType × Codec :=
  let name := descriptor.qualifiedName
  if descriptor.category = Category.boolean then (setting.scalars.boolean, .boolean name)
  else if descriptor.category = Category.numeric then (setting.scalars.bigFloat, .bigNumber name)
  else (setting.scalars.string, .identity name)

/-- A standard scalar by category. Numbers of unknown width are texts, so that no digit is lost. -/
def scalarType (setting : Setting) (descriptor : Descriptor) :
    Resolve (TypeEntry × Option SharedCodec) := do
  let (scalar, codec) := scalarOf setting descriptor
  let shared ← share codec
  return (.both scalar, some shared)

/-! ### Types over another type -/

/-- A list over the type of the items. -/
def arrayType (setting : Setting) (resolveChild : TypeId → Resolve TypeEntry)
    (descriptor : Descriptor) : Resolve (TypeEntry × Option SharedCodec) := do
  let itemId ← requireChild descriptor .arrayItem
  let item ← resolveChild itemId
  let itemDescriptor ← ofExcept (setting.catalog.require itemId (some descriptor))
  let itemCodec := (← get).partCodec itemId itemDescriptor
  let shared ← share (.array descriptor.displayName itemCodec itemDescriptor.qualifiedName)
  let output ← make (·.list item.output)
  let input ← item.input.mapM fun type => make (·.list type)
  return (⟨output, input⟩, some shared)

/-- Another name for a type. Lists and non-null types are not renamed. -/
def rename (name : String) (description : Option String) (type : SchemaType) : Resolve SchemaType :=
  match type with
  | .list serial inner => pure (.list serial inner)
  | .nonNull serial inner => pure (.nonNull serial inner)
  | type => make fun pool => pool.make fun serial => .«alias» serial name description type

/-- An alias of the type of the base, whose conversion the domain shares. -/
def domainType (setting : Setting) (resolveChild : TypeId → Resolve TypeEntry)
    (descriptor : Descriptor) : Resolve (TypeEntry × Option SharedCodec) := do
  let baseId ← requireChild descriptor .domainBase
  let base ← resolveChild baseId
  let name := setting.naming.typeName descriptor
  let output ← rename name descriptor.description base.output
  let input ← base.input.mapM fun type =>
    if type = base.output then pure output
    else rename (setting.naming.inputType name) descriptor.description type
  let baseDescriptor ← ofExcept (setting.catalog.require baseId (some descriptor))
  match (← get).codecs.find? baseId with
  | some shared => return (⟨output, input⟩, some shared)
  | none =>
    let shared ← share (.identity baseDescriptor.qualifiedName)
    return (⟨output, input⟩, some shared)

/-- The type at the bottom of a chain of domains, found within the levels that remain. -/
def domainBottom (setting : Setting) : Nat → Descriptor → Except BuildError Descriptor
  | remaining, descriptor =>
    if descriptor.kind = .domain then
      match remaining with
      | 0 =>
        .error (.recursionLimit descriptor.displayName descriptor.kind setting.config.depthLimit)
      | remaining + 1 =>
        match descriptor.domainBase with
        | none => .ok descriptor
        | some baseId => do
          let base ← setting.catalog.require baseId (some descriptor)
          domainBottom setting remaining base
    else
      .ok descriptor

/-- The fault of a range over a row type, which has no literals that could be split. -/
def compositeFault (sub bottom : Descriptor) : ConfigurationFault :=
  if bottom.id = sub.id then .rangeOverComposite bottom.displayName
  else .rangeOverCompositeDomain sub.displayName bottom.displayName

/-- The description of the object of a range. -/
def rangeDescription (subName : String) : String :=
  "A range of \x60" ++ subName ++ "\x60; a null bound is unbounded."

/-- The input objects of ranges over a type: a range has two bounds, a bound a value and a flag. -/
def makeRangeInput (setting : Setting) (subName : String) (inclusive subInput : SchemaType) :
    Resolve SchemaType := do
  let value ← make (·.nonNull subInput)
  let bound ← make (·.inputObject (setting.naming.rangeBoundInputType subName)
    (some "One end of a range.") [⟨"value", none, value⟩, ⟨"inclusive", none, inclusive⟩])
  make (·.inputObject (setting.naming.rangeInputType subName) (some (rangeDescription subName))
    [⟨"start", none, bound⟩, ⟨"end", none, bound⟩])

/-- The objects of ranges over a type: a range has two bounds, a bound has a value and a flag. -/
def makeRangeShape (setting : Setting) (subName : String) (sub : TypeEntry) :
    Resolve TypeEntry := do
  let inclusive ← make (·.nonNull setting.scalars.boolean)
  let value ← make (·.nonNull sub.output)
  let bound ← make (·.object (setting.naming.rangeBoundType subName) (some "One end of a range.")
    [.property "value" value, .property "inclusive" inclusive])
  let output ← make (·.object (setting.naming.rangeType subName) (some (rangeDescription subName))
    [.property "start" bound, .property "end" bound])
  let input ← sub.input.mapM (makeRangeInput setting subName inclusive)
  return ⟨output, input⟩

/-- The objects of ranges over a type with a name, made once for each name. -/
def rangeShape (setting : Setting) (subName : String) (sub : TypeEntry) : Resolve TypeEntry := do
  match (← get).rangeShapes.find? subName with
  | some shape => return shape
  | none =>
    let shape ← makeRangeShape setting subName sub
    modify fun registry =>
      { registry with rangeShapes := registry.rangeShapes.insert subName shape }
    return shape

/-- An object over the type of the bounds. The subtype must not be a row type, nor a domain over
one, and its schema type must have a name. -/
def rangeType (setting : Setting) (remaining : Nat) (resolveChild : TypeId → Resolve TypeEntry)
    (descriptor : Descriptor) : Resolve (TypeEntry × Option SharedCodec) := do
  let subId ← requireChild descriptor .rangeSubtype
  let subDescriptor ← ofExcept (setting.catalog.require subId (some descriptor))
  let bottom ← ofExcept (domainBottom setting remaining subDescriptor)
  if bottom.kind = .composite then
    throw (.configuration (compositeFault subDescriptor bottom))
  let sub ← resolveChild subId
  match sub.output.name? with
  | none =>
    throw (.configuration (.unnamedSubtype subDescriptor.displayName sub.output.text))
  | some subName =>
    let shape ← rangeShape setting subName sub
    let subCodec := (← get).partCodec subId subDescriptor
    let shared ← share (.range descriptor.qualifiedName subCodec)
    return (shape, some shared)

/-! ### One type, and the types below it -/

/-- The schema types and the conversion of a descriptor, given how its child is resolved and how
many levels remain below it. -/
def synthesize (setting : Setting) (remaining : Nat) (resolveChild : TypeId → Resolve TypeEntry)
    (id : TypeId) (descriptor : Descriptor) : Resolve (TypeEntry × Option SharedCodec) := do
  match (← get).overrides.find? id with
  | some mapping => return (⟨mapping.output, mapping.input⟩, mapping.codec)
  | none =>
    match descriptor.kind, descriptor.builtOver with
    | .enumeration, _ => return (← enumType setting descriptor, none)
    | .range, _ => rangeType setting remaining resolveChild descriptor
    | .domain, _ => domainType setting resolveChild descriptor
    | .array, _ | _, some _ => arrayType setting resolveChild descriptor
    | _, none => scalarType setting descriptor

/-- Resolves a type id that a referrer depends on, within the levels that remain. -/
def resolveAt (setting : Setting) (remaining : Nat) (id : TypeId) (referrer : Option Descriptor) :
    Resolve TypeEntry := do
  match (← get).types.find? id with
  | some entry => return entry
  | none =>
    let descriptor ← ofExcept (setting.catalog.require id referrer)
    match remaining with
    | 0 =>
      throw (.recursionLimit descriptor.displayName descriptor.kind setting.config.depthLimit)
    | remaining + 1 =>
      let (entry, codec) ← ExceptT.adapt (·.resolving descriptor)
        (synthesize setting remaining
          (fun child => resolveAt setting remaining child (some descriptor)) id descriptor)
      modify fun registry => registry.file id entry codec
      return entry

/-! ### What callers ask for -/

/-- The schema types of a type id. -/
def entry (setting : Setting) (id : TypeId) : Resolve TypeEntry :=
  resolveAt setting setting.config.depthLimit id none

/-- The output type of a type id. -/
def output (setting : Setting) (id : TypeId) : Resolve SchemaType := do
  return (← entry setting id).output

/-- The input type of a type id, if it has one. -/
def input (setting : Setting) (id : TypeId) : Resolve (Option SchemaType) := do
  return (← entry setting id).input

/-- The type of a result that is a set of values of a type id. -/
def setOutput (setting : Setting) (id : TypeId) : Resolve SchemaType := do
  match (← get).sets.find? id with
  | some type => return type
  | none =>
    let item ← output setting id
    let item ← if setting.config.forbidNullInSets then make (·.nonNull item) else pure item
    let type ← make (·.list item)
    modify fun registry => { registry with sets := registry.sets.insert id type }
    return type

/-- The name of a type id in messages. -/
def displayName (setting : Setting) (id : TypeId) : String :=
  match setting.catalog.find? id with
  | some descriptor => descriptor.displayName
  | none => "type " ++ toString id.toNat

/-- Registers an override, unless its type is resolved or has one. Tells whether it was taken. -/
def registerOverride (setting : Setting) (id : TypeId) (mapping : Override) (rule : ConflictRule) :
    Resolve Bool := do
  let registry ← get
  if registry.types.contains id then
    throw (.configuration (.lateOverride (displayName setting id)))
  else if registry.overrides.contains id then
    match rule with
    | .fail => throw (.duplicateOverride (displayName setting id))
    | .yield => return false
  else
    set { registry with overrides := registry.overrides.insert id mapping }
    return true

end Resolve

end CatalogSchema
