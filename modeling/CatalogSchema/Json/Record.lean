/-
**Records in documents.**

A record is written as an object, in which a repeated member is refused and an unknown one is
ignored or refused, or as an array of its fields in declaration order, which may end early. Each
reader of a field says what it accepts; a field that is missing takes its default if it has one.
-/

import CatalogSchema.Json.Reader

namespace CatalogSchema

open Number

namespace JsonTree

/-- The value given for a field among the members of an object: at most one. -/
def memberOnce? (name : String) (members : List (Option String × JsonTree)) :
    Option (Option JsonTree) :=
  match members.filter (fun member => member.1 = some name) with
  | [] => some none
  | [(_, value)] => some (some value)
  | _ => none

/-- The values given for the fields of a record, in declaration order. -/
def recordFields? (closed : Bool) (names : List String) : JsonTree → Option (List (Option JsonTree))
  | .object members =>
    if members.any (fun member => member.1.isNone) then none
    else if closed && members.any (fun member => !names.any (fun name => member.1 = some name))
      then none
    else names.mapM (memberOnce? · members)
  | .array items =>
    if names.length < items.length then none
    else some (items.map some ++ List.replicate (names.length - items.length) none)
  | _ => none

/-- Reads a field that has a default. -/
def fieldOr (default : α) (read : JsonTree → Option α) : Option JsonTree → Option α
  | none => some default
  | some tree => read tree

/-- Reads a field that must be given. -/
def field? (read : JsonTree → Option α) : Option JsonTree → Option α
  | none => none
  | some tree => read tree

/-- Reads null as no value. -/
def optional? (read : JsonTree → Option α) : JsonTree → Option (Option α)
  | .null => some none
  | tree => (read tree).map some

/-- Reads every item of an array. -/
def list? (read : JsonTree → Option α) : JsonTree → Option (List α)
  | .array items => items.mapM read
  | _ => none

/-- Reads a string. -/
def string? : JsonTree → Option String
  | .string value => value
  | _ => none

/-- Reads a string of one character. -/
def char? (tree : JsonTree) : Option Char := do
  match (← tree.string?).toList with
  | [c] => some c
  | _ => none

/-- Reads a truth value. -/
def bool? : JsonTree → Option Bool
  | .bool value => some value
  | _ => none

/-- Reads an integer; a floating point number is none. -/
def integer? : JsonTree → Option Int
  | .number (some (.integer value)) => some value
  | _ => none

/-- Reads a natural number below a bound. -/
def natBelow? (bound : Nat) (tree : JsonTree) : Option Nat := do
  let value ← tree.integer?
  if 0 ≤ value ∧ value < bound then some value.toNat else none

/-- Reads a signed 64-bit integer. -/
def int64? (tree : JsonTree) : Option Int := do Number.int64? (← tree.integer?)

/-- Reads a finite number. -/
def finite? : JsonTree → Option Finite
  | .number (some (.integer value)) => (Binary64.ofInt value).finite?
  | .number (some (.float value)) => some value
  | _ => none

/-- Reads the name of a variant: a string, or an object whose only member is that name with null. -/
def variant? : JsonTree → Option String
  | .string name => name
  | .object [(name, .null)] => name
  | _ => none

end JsonTree

end CatalogSchema
