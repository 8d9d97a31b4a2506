/-
**Plugins made of actions.**

A script is a list of actions that a plugin performs when it registers: overrides, a refusal, and
hooks for each phase. Every hook leaves a notice of what it saw before it does anything else.
-/

import CatalogSchema.Build.Schema

namespace CatalogSchema

namespace Script

/-- A hook of the state phase: fails, or adds keys that all hold the plugin's name. -/
structure StateHook where
  hook : String
  failure : Option String
  keys : List String

/-- A hook of the types phase: contributes resolved types, results that are sets and made types,
then asks for a capability that must be a text, then fails if it is to. -/
structure TypesHook where
  hook : String
  resolved : List TypeId
  sets : List TypeId
  made : List SchemaType
  required : Option String
  failure : Option String

/-- A field that a script adds. -/
structure AddedField where
  name : String
  typeId : TypeId
  tags : FieldScope

/-- A hook of the fields phase: fails, or adds fields, to one object type if it is for that
alone. -/
structure FieldsHook where
  hook : String
  failure : Option String
  only : Option String
  /-- Whether the added fields have the tags of the object. -/
  sharesScope : Bool
  added : List AddedField

/-- A hook of the field phase. -/
structure FieldHook where
  hook : String
  /-- The field that is refused. -/
  refused : Option String
  /-- What is added to the description. -/
  description : Option String
  /-- The tag that makes a field non-null. -/
  nonNullTag : Option String

/-- What a script does when it registers. -/
inductive Action where
  | override (id : TypeId) (mapping : Override) (rule : ConflictRule)
  | refuse (text : String)
  | onState (hook : StateHook)
  | onTypes (hook : TypesHook)
  | onFields (hook : FieldsHook)
  | onField (hook : FieldHook)

/-- Fails with a text if there is one. -/
def failWith : Option String → HookStep Unit
  | none => pure ()
  | some text => throw (.message text)

/-- Runs a hook of the state phase. -/
def StateHook.run (plugin : String) (hook : StateHook) (state : BuildState)
    (context : StateContext) :
    HookStep BuildState := do
  (Build.report (.state plugin context.catalog.size state.version)).inHook
  failWith hook.failure
  PhaseStep.inHook
    (ExceptT.mk (pure (state.extend (hook.keys.map fun key => (key, .text plugin)) plugin)))

/-- The types that a hook contributes. -/
def TypesHook.contribution (hook : TypesHook) (setting : Setting) : Build (List SchemaType) := do
  let resolved ← hook.resolved.mapM fun id => Build.ofResolve (Resolve.output setting id)
  let sets ← hook.sets.mapM fun id => Build.ofResolve (Resolve.setOutput setting id)
  return resolved ++ sets ++ hook.made

/-- Runs a hook of the types phase. -/
def TypesHook.run (plugin : String) (hook : TypesHook) (contributed : List SchemaType)
    (context : TypesContext) : HookStep (List SchemaType) := do
  (Build.report (.types plugin contributed.length)).inHook
  let contribution ← (hook.contribution context.setting).inHook
  if let some key := hook.required then
    let _ ← PhaseStep.inHook (ExceptT.mk (pure (context.state.require Shared.text? key)))
  failWith hook.failure
  return contributed ++ contribution

/-- Adds one field. -/
def AddedField.addTo (added : AddedField) (context : ObjectContext) (scope : FieldScope)
    (fields : FieldSet Field) : HookStep (FieldSet Field) := do
  let type ← (Build.ofResolve (Resolve.output context.setting added.typeId)).inHook
  let tracker : FieldTracker (StateM Workspace) Field :=
    ⟨context.typeName, scope, context.finishField⟩
  PhaseStep.inHook do
    let field ← tracker.define added.name added.tags fun _ => pure (.property added.name type)
    ExceptT.mk (pure (fields.insert field))

/-- Runs a hook of the fields phase. -/
def FieldsHook.run (plugin : String) (hook : FieldsHook) (fields : FieldSet Field)
    (context : ObjectContext) : HookStep (FieldSet Field) := do
  (Build.report (.fields plugin context.typeName context.descriptor.id context.scope)).inHook
  failWith hook.failure
  if hook.only.any (· ≠ context.typeName) then
    return fields
  let scope := if hook.sharesScope then context.scope else .empty
  hook.added.foldlM (fun fields added => added.addTo context scope fields) fields

/-- Runs a hook of the field phase. -/
def FieldHook.run (plugin : String) (hook : FieldHook) (field : Field) (context : FieldContext) :
    HookStep Field := do
  (Build.report (.field plugin context.owner context.fieldName context.scope)).inHook
  failWith (if hook.refused = some context.fieldName then some "field refused" else none)
  let description :=
    match hook.description with
    | some text => some (field.description.getD "" ++ text)
    | none => field.description
  let type ←
    if hook.nonNullTag.any context.scope.isSet then (Build.make (·.nonNull field.type)).inHook
    else pure field.type
  return { field with description, type }

/-- Performs an action. -/
def Action.perform (plugin : String) (setting : Setting) (engine : BuildEngine) :
    Action → Build BuildEngine
  | .override id mapping rule => do
    let taken ← Build.ofResolve (Resolve.registerOverride setting id mapping rule)
    Build.report (.overridden id taken)
    return engine
  | .refuse text => throw (.configuration (.custom text))
  | .onState hook => engine.addHook .state hook.hook (hook.run plugin)
  | .onTypes hook => engine.addHook .types hook.hook (hook.run plugin)
  | .onFields hook => engine.addHook .fields hook.hook (hook.run plugin)
  | .onField hook => engine.addHook .field hook.hook (hook.run plugin)

end Script

/-- Performs actions in order. -/
def Plugin.script (name : String) (actions : List Script.Action) : Plugin where
  name := name
  register setting engine :=
    actions.foldlM (fun engine action => action.perform name setting engine) engine

end CatalogSchema
