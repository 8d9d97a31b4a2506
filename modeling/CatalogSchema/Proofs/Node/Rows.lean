/-
**Identifiers tell rows apart.**

The text of a document determines the document, so that no two aliases and keys share an identifier.
What an identifier is decoded to is another matter: the numbers in the key are read in steps, and
one whose own text is read as its neighbour comes back as the neighbour.

* `encodeNodeId_injective`: an identifier determines its alias and its key.
* `decodeNodeId_without_key`: an identifier without a key is refused.
* `resolve_nodeId`: what a field that identifies rows resolves to.
* `row_identifiers`: what holds of every identifier.
-/

import CatalogSchema.Proofs.Node.Identifiers
import CatalogSchema.Schema.Field
import Mathlib.Data.List.Forall2

namespace CatalogSchema

open Number Text

/-! ### Identifiers and their contents -/

theorem toUTF8_injective {first second : String}
    (same : first.toUTF8.data.toList = second.toUTF8.data.toList) : first = second := by
  have bytes : first.toUTF8 = second.toUTF8 := ByteArray.ext (Array.toList_inj.1 same)
  have read := fromUTF8?_toUTF8 first
  rw [bytes, fromUTF8?_toUTF8] at read
  exact (Option.some.inj read).symm

/-- **An identifier determines its alias and its key.** -/
theorem encodeNodeId_injective {typeAlias other : String} {key otherKey : List Json}
    (writable : IsWritable key) (otherWritable : IsWritable otherKey)
    (same : encodeNodeId other otherKey = encodeNodeId typeAlias key) :
    other = typeAlias ∧ otherKey = key := by
  have encoded := String.ofList_injective same
  have bytes := congrArg Base64.decode? encoded
  rw [Base64.decode?_encode, Base64.decode?_encode] at bytes
  have text := toUTF8_injective (Option.some.inj bytes)
  have contents : nodeContents other otherKey = nodeContents typeAlias key :=
    Json.text_injective (otherWritable.contents_wellFormed other)
      (writable.contents_wellFormed typeAlias)
      (otherWritable.contents_within other) (writable.contents_within typeAlias) text
  obtain ⟨sameAlias, sameKey⟩ := List.cons.inj (Json.array.inj contents)
  exact ⟨Json.string.inj sameAlias, sameKey⟩

/-- **An identifier without a key is refused.** -/
theorem decodeNodeId_without_key (typeAlias : String) {before after : List Char}
    (blank : ∀ c ∈ before ++ after, isBlank c = true) :
    decodeNodeId (String.ofList (before ++ ((encodeNodeId typeAlias []).toList ++ after))) =
      .error (.invalidNodeId .noKey) := by
  have wellFormed : (nodeContents typeAlias []).WellFormed := ⟨trivial, trivial⟩
  have within : (nodeContents typeAlias []).nesting ≤ Json.depthLimit :=
    Nat.succ_le_succ (Nat.zero_le 126)
  have survives : (nodeContents typeAlias []).Survives stepwise := ⟨trivial, trivial⟩
  have read : Json.read? (nodeContents typeAlias []).text = some (nodeContents typeAlias []) :=
    (Json.readBy?_text_iff stepwise wellFormed within).2 survives
  rw [decodeNodeId_eq typeAlias [] blank, read]
  rfl

/-- Whether the alias and the key come back does not depend on blanks around the identifier. -/
theorem decodeNodeId_between (typeAlias : String) (key : List Json) {before after : List Char}
    (blank : ∀ c ∈ before ++ after, isBlank c = true) :
    decodeNodeId (String.ofList (before ++ ((encodeNodeId typeAlias key).toList ++ after))) =
      decodeNodeId (encodeNodeId typeAlias key) := by
  rw [decodeNodeId_eq typeAlias key blank, decodeNodeId_alone]

/-! ### Fields that identify rows -/

theorem mapM_columnValue {row : Json} {columns : List String} {key : List Json}
    (present : List.Forall₂ (fun column value => row.field? column = some value) columns key) :
    columns.mapM (columnValue row) = Except.ok key := by
  induction present with
  | nil => rfl
  | cons first _ ih =>
    rw [List.mapM_cons, columnValue, first, ih]
    rfl

/-- **What a field that identifies rows resolves to**: the identifier of the values of the key
columns, in their order. -/
theorem resolve_nodeId {aliases : AliasTable → NodeAliases} {field : Field} {typeName : String}
    {columns : List String} {table : AliasTable} {row : Json} {key : List Json}
    (identifies : field.source = .nodeId typeName columns table)
    (present : List.Forall₂ (fun column value => row.field? column = some value) columns key) :
    field.resolve aliases row = .ok (.string ((aliases table).encode typeName key)) ∧
      ∀ cache, field.resolveCached aliases row cache =
        (.ok (.string ((aliases table).encode typeName key)), cache) := by
  have values := mapM_columnValue present
  refine ⟨?_, fun cache => ?_⟩
  · unfold Field.resolve Field.resolveWith FieldSource.resolveWith
    rw [identifies]
    dsimp only
    rw [values]
    rfl
  · unfold Field.resolveCached Field.resolveWith FieldSource.resolveWith
    rw [identifies]
    dsimp only
    rw [values]
    rfl

/-! ### Every identifier -/

/-- What holds of the identifier of an alias and a key. -/
structure RowIdentifier (typeAlias : String) (key : List Json) : Prop where
  /-- Between any blanks it is decoded to the alias and the key exactly if the numbers in the key
  survive reading in steps. -/
  decoded : ∀ {before after : List Char}, (∀ c ∈ before ++ after, isBlank c = true) →
    (decodeNodeId (String.ofList (before ++ ((encodeNodeId typeAlias key).toList ++ after))) =
      .ok (typeAlias, key) ↔ ∀ part ∈ key, part.Survives stepwise)
  /-- Integers and numbers of few digits survive. -/
  survives : (∀ part ∈ key, part.EveryNumber JsonNumber.IsShort) →
    ∀ part ∈ key, part.Survives stepwise
  /-- No other alias or key has it. -/
  unique : ∀ {other : String} {otherKey : List Json}, IsWritable otherKey →
    encodeNodeId other otherKey = encodeNodeId typeAlias key → other = typeAlias ∧ otherKey = key
  /-- A field that identifies the rows of a type with this alias resolves to it for every row with
  these values in the key columns. -/
  resolved : ∀ {aliases : AliasTable → NodeAliases} {field : Field} {typeName : String}
    {columns : List String} {table : AliasTable} {row : Json},
    field.source = .nodeId typeName columns table → (aliases table).«alias» typeName = typeAlias →
      List.Forall₂ (fun column value => row.field? column = some value) columns key →
        field.resolve aliases row = .ok (.string (encodeNodeId typeAlias key)) ∧
          ∀ cache, field.resolveCached aliases row cache =
            (.ok (.string (encodeNodeId typeAlias key)), cache)

/-- **What holds of every identifier.** Without a key it is refused, between blanks or not.
Otherwise no other alias or key has it, fields that identify rows resolve to it, and it is decoded
to its alias and its key exactly if every number in the key, at every depth, is what its own text is
read as. -/
theorem row_identifiers (typeAlias : String) :
    (∀ {before after : List Char}, (∀ c ∈ before ++ after, isBlank c = true) →
      decodeNodeId (String.ofList (before ++ ((encodeNodeId typeAlias []).toList ++ after))) =
        .error (.invalidNodeId .noKey)) ∧
      ∀ {key : List Json}, IsWritable key → RowIdentifier typeAlias key := by
  refine ⟨decodeNodeId_without_key typeAlias, fun {key} writable => ?_⟩
  exact {
    decoded := fun blank => by
      rw [decodeNodeId_between typeAlias key blank]
      exact decodeNodeId_encodeNodeId_iff typeAlias writable
    survives := fun short part found => Json.survives_stepwise (short part found)
    unique := fun otherWritable same => encodeNodeId_injective writable otherWritable same
    resolved := fun {aliases} _ _ _ _ _ identifies named present => by
      have resolved := @resolve_nodeId aliases _ _ _ _ _ _ identifies present
      unfold NodeAliases.encode at resolved
      rwa [named] at resolved }

/-! ### Samples -/

/-- The key of a row: an integer, a string, and a list with a fraction in it. -/
def sampleKey : List Json := [.ofInt 7, .string "seven", .array [.ofFinite half, .null]]

/-- The row of the key. -/
def sampleRow : Json := .object [("id", .ofInt 7), ("name", .string "seven"),
  ("parts", .array [.ofFinite half, .null])]

/-- The field that identifies the row. -/
def sampleNodeField : Field :=
  ⟨"nodeId", none, .scalar 0 "ID" none .string, .nodeId "Accounts" ["id", "name", "parts"] 0⟩

theorem isWritable_sampleKey : IsWritable sampleKey where
  present := List.cons_ne_nil _ _
  wellFormed := by
    simp [sampleKey, Json.ofInt, Json.ofFinite, Json.WellFormed, Json.ItemsWellFormed,
      JsonNumber.InRange]
  within := by
    simp [sampleKey, Json.ofInt, Json.ofFinite, Json.nesting, Json.itemNesting, Json.depthLimit]

theorem isShort_sampleKey : ∀ part ∈ sampleKey, part.EveryNumber JsonNumber.IsShort := by
  have shortSeven : JsonNumber.IsShort (.integer 7) := by
    unfold JsonNumber.IsShort JsonNumber.InRange
    decide
  simp only [sampleKey, List.forall_mem_cons]
  exact ⟨shortSeven, trivial, ⟨isShort_half, trivial, trivial⟩, nofun⟩

/-- A field over the columns of the key gives the row an identifier under the alias of its type.
Blanks around the identifier do not matter, and without the key it is refused. -/
theorem row_identifiers_sample :
    (∀ c ∈ [' '] ++ ['\n'], isBlank c = true) ∧ IsWritable sampleKey ∧
      (sampleNodeField.resolve (fun _ => NodeAliases.empty.setAlias "Accounts" "A") sampleRow =
        .ok (.string (encodeNodeId "A" sampleKey))) ∧
      decodeNodeId (String.ofList ([' '] ++ ((encodeNodeId "A" sampleKey).toList ++ ['\n']))) =
        .ok ("A", sampleKey) ∧
      decodeNodeId (String.ofList ([' '] ++ ((encodeNodeId "A" []).toList ++ ['\n']))) =
        .error (.invalidNodeId .noKey) := by
  have blank : ∀ c ∈ [' '] ++ ['\n'], isBlank c = true :=
    List.forall_mem_cons.2 ⟨by decide, List.forall_mem_singleton.2 (by decide)⟩
  obtain ⟨refused, every⟩ := row_identifiers "A"
  have identifier := every isWritable_sampleKey
  have named : (NodeAliases.empty.setAlias "Accounts" "A").«alias» "Accounts" = "A" := by decide
  have present : List.Forall₂ (fun column value => sampleRow.field? column = some value)
      ["id", "name", "parts"] sampleKey := .cons rfl (.cons rfl (.cons rfl .nil))
  exact ⟨blank, isWritable_sampleKey, (identifier.resolved rfl named present).1,
    (identifier.decoded blank).2 (identifier.survives isShort_sampleKey), refused blank⟩

/-- **A number of seventeen digits does not come back**: the identifier of a row with this key is
decoded to the key of another row. -/
theorem identifier_of_neighbour :
    IsWritable [.ofFinite longNumber] ∧ longNumber ≠ longNeighbour ∧
      decodeNodeId (encodeNodeId "A" [.ofFinite longNumber]) =
        .ok ("A", [.ofFinite longNeighbour]) := by
  have writable : IsWritable [.ofFinite longNumber] :=
    { present := List.cons_ne_nil _ _
      wellFormed := List.forall_mem_singleton.2 trivial
      within := List.forall_mem_singleton.2 (by decide) }
  have different : longNumber ≠ longNeighbour := by decide +kernel
  have read : Json.read? (nodeContents "A" [.ofFinite longNumber]).text =
      some (nodeContents "A" [.ofFinite longNeighbour]) := by
    refine (Json.readBy?_text stepwise _).trans ?_
    have tree : (nodeContents "A" [.ofFinite longNumber]).rereadTree stepwise =
        .array [.string (some "A"), .number ((JsonNumber.float longNumber).reread? stepwise)] := rfl
    rw [tree, reread_longNumber]
    rfl
  rw [decodeNodeId_alone, read]
  exact ⟨writable, different, rfl⟩

end CatalogSchema
