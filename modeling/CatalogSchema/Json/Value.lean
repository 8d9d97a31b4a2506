/-
**JSON values.**

Integers and floating point numbers are told apart, as they are in a document. An object lists its
members by increasing key (`Json.WellFormed`), so that equal objects have equal lists.
-/
import CatalogSchema.Number.Binary64
import CatalogSchema.SortedMap

namespace CatalogSchema

open Number

/-- A number of a document: an integer between `-2 ^ 63` and `2 ^ 64 - 1`, or a finite double. -/
inductive JsonNumber where
  | integer (value : Int)
  | float (value : Finite)
  deriving DecidableEq

/-- The integers of documents are the signed and the unsigned 64-bit integers. -/
def JsonNumber.InRange : JsonNumber → Prop
  | .integer value => -(Nat.pow 2 63 : Int) ≤ value ∧ value < Nat.pow 2 64
  | .float _ => True

/-- A JSON value. The members of an object are listed by increasing key. -/
inductive Json where
  | null
  | bool (value : Bool)
  | number (value : JsonNumber)
  | string (value : String)
  | array (items : List Json)
  | object (members : List (String × Json))

instance : Inhabited Json := ⟨.null⟩

namespace Json

/-- An integer value. -/
def ofInt (value : Int) : Json := .number (.integer value)

/-- A floating point value. -/
def ofFinite (value : Finite) : Json := .number (.float value)

/-- An object of members in any order; of two with one key the later stays. -/
def ofMembers (members : List (String × Json)) : Json := .object (SortedMap.ofList members).entries

/-- The member of an object under a key. -/
def field? (key : String) : Json → Option Json
  | .object members => members.lookup key
  | _ => none

/-- The text of a string value. -/
def string? : Json → Option String
  | .string value => some value
  | _ => none

/-- The truth value of a boolean. -/
def bool? : Json → Option Bool
  | .bool value => some value
  | _ => none

/-- What kind of value this is, as messages call it. -/
def kindText : Json → String
  | .null => "null"
  | .bool _ => "a boolean"
  | .number _ => "a number"
  | .string _ => "a string"
  | .array _ => "a list"
  | .object _ => "an object"

mutual

/-- Every number is one of documents and every object lists its members by strictly increasing key,
at every depth. -/
def WellFormed : Json → Prop
  | .number value => value.InRange
  | .array items => ItemsWellFormed items
  | .object members =>
    members.Pairwise (fun a b => a.1 < b.1) ∧ MembersWellFormed members
  | _ => True

/-- Every item is well formed. -/
def ItemsWellFormed : List Json → Prop
  | [] => True
  | item :: rest => WellFormed item ∧ ItemsWellFormed rest

/-- Every member's value is well formed. -/
def MembersWellFormed : List (String × Json) → Prop
  | [] => True
  | (_, value) :: rest => WellFormed value ∧ MembersWellFormed rest

end

theorem itemsWellFormed_iff {items : List Json} :
    ItemsWellFormed items ↔ ∀ item ∈ items, item.WellFormed := by
  induction items with
  | nil => exact ⟨fun _ => nofun, fun _ => trivial⟩
  | cons item items ih =>
    rw [List.forall_mem_cons, ← ih]
    exact Iff.rfl

section Numbers

variable (holds : JsonNumber → Prop)

mutual

/-- Every number in the value has a property, at every depth. -/
def EveryNumber : Json → Prop
  | .number value => holds value
  | .array items => ItemsEveryNumber items
  | .object members => MembersEveryNumber members
  | _ => True

/-- Every number in the items has a property. -/
def ItemsEveryNumber : List Json → Prop
  | [] => True
  | item :: rest => EveryNumber item ∧ ItemsEveryNumber rest

/-- Every number in the members' values has a property. -/
def MembersEveryNumber : List (String × Json) → Prop
  | [] => True
  | (_, value) :: rest => EveryNumber value ∧ MembersEveryNumber rest

end

theorem itemsEveryNumber_iff {items : List Json} :
    ItemsEveryNumber holds items ↔ ∀ item ∈ items, item.EveryNumber holds := by
  induction items with
  | nil => exact ⟨fun _ => nofun, fun _ => trivial⟩
  | cons item items ih =>
    rw [List.forall_mem_cons, ← ih]
    exact Iff.rfl

end Numbers

mutual

/-- How deep arrays and objects are nested. -/
def nesting : Json → Nat
  | .array items => itemNesting items + 1
  | .object members => memberNesting members + 1
  | _ => 0

/-- How deep the items of an array are nested. -/
def itemNesting : List Json → Nat
  | [] => 0
  | item :: rest => max (nesting item) (itemNesting rest)

/-- How deep the values of the members of an object are nested. -/
def memberNesting : List (String × Json) → Nat
  | [] => 0
  | (_, value) :: rest => max (nesting value) (memberNesting rest)

end

mutual

/-- Equality of values in which the two zeros of floating point count as equal. -/
def sameValue : Json → Json → Bool
  | .null, .null => true
  | .bool a, .bool b => a = b
  | .number (.integer a), .number (.integer b) => a = b
  | .number (.float a), .number (.float b) => a.signedUnits = b.signedUnits
  | .string a, .string b => a = b
  | .array a, .array b => sameItems a b
  | .object a, .object b => sameMembers a b
  | _, _ => false

/-- Item by item equality of two lists of one length. -/
def sameItems : List Json → List Json → Bool
  | [], [] => true
  | a :: as, b :: bs => sameValue a b && sameItems as bs
  | _, _ => false

/-- Member by member equality of two lists with the same keys. -/
def sameMembers : List (String × Json) → List (String × Json) → Bool
  | [], [] => true
  | (k, a) :: as, (l, b) :: bs => k = l && sameValue a b && sameMembers as bs
  | _, _ => false

end

end Json

end CatalogSchema
