/-
**Numbers keep their digits.**

Without overrides, a base type of numbers is served as text, and so is whatever is built over it by
domains and lists: a domain has the conversion of its base, a list the one of its items, item by
item. No number of a document, which could have been rounded, is left in what they serve.

* `EndsInNumbers.prescribes`: what is prescribed for a chain of domains and lists over numbers.
* `Codec.written_decode`: lists of numbers are decoded to lists of texts.
* `numbers_served_as_text`: so are the values of every resolved id with such a chain.
-/

import CatalogSchema.Proofs.Conversion.Decoding
import CatalogSchema.Proofs.Resolution.Prescription

namespace CatalogSchema

/-! ### Chains that end in numbers -/

/-- The domains and lists from an id on, with a count of the lists, end in a base type of
numbers. -/
inductive EndsInNumbers (catalog : Catalog) : TypeId → Nat → Prop
  | number {id : TypeId} {descriptor : Descriptor} (known : catalog.find? id = some descriptor)
      (kind : descriptor.kind = .base) (numeric : descriptor.category = Category.numeric) :
      EndsInNumbers catalog id 0
  | domain {id baseId : TypeId} {levels : Nat} {descriptor : Descriptor}
      (known : catalog.find? id = some descriptor) (kind : descriptor.kind = .domain)
      (base : descriptor.domainBase = some baseId) (below : EndsInNumbers catalog baseId levels) :
      EndsInNumbers catalog id levels
  | array {id itemId : TypeId} {levels : Nat} {descriptor : Descriptor}
      (known : catalog.find? id = some descriptor) (listed : descriptor.IsArray)
      (item : descriptor.arrayItem = some itemId) (below : EndsInNumbers catalog itemId levels) :
      EndsInNumbers catalog id (levels + 1)

/-- Lists in lists, to a depth, of numbers that are served as text. -/
def Codec.ListsNumbers : Nat → Codec → Prop
  | 0, .bigNumber _ => True
  | levels + 1, .array _ item _ => item.ListsNumbers levels
  | _, _ => False

variable {setting : Setting}

theorem EndsInNumbers.known {catalog : Catalog} {id : TypeId} {levels : Nat}
    (ends : EndsInNumbers catalog id levels) :
    ∃ descriptor, catalog.find? id = some descriptor := by
  cases ends with
  | number known => exact ⟨_, known⟩
  | domain known => exact ⟨_, known⟩
  | array known => exact ⟨_, known⟩

/-- Numbers are no lists, and stand alone. -/
theorem Descriptor.categoryCodec_numeric {descriptor : Descriptor} (kind : descriptor.kind = .base)
    (numeric : descriptor.category = Category.numeric) :
    ¬descriptor.IsArray ∧ descriptor.categoryCodec = .bigNumber descriptor.qualifiedName := by
  refine ⟨?_, ?_⟩
  · rintro (array | ⟨-, array, -⟩)
    · exact absurd (kind.symm.trans array) (by decide)
    · exact absurd (numeric.symm.trans array) (by decide)
  · unfold categoryCodec
    rw [numeric, if_neg (by decide), if_pos rfl]

/-- **What is prescribed for a chain that ends in numbers**: lists of numbers as text, as deep as
there are lists on the chain. -/
theorem EndsInNumbers.prescribes {overrides : SortedMap TypeId Override}
    (plain : ∀ id, overrides.find? id = none) {id : TypeId} {levels : Nat}
    (ends : EndsInNumbers setting.catalog id levels) :
    ∃ codec, Prescribes setting overrides id codec ∧ codec.ListsNumbers levels := by
  induction ends with
  | @number id descriptor known kind numeric =>
    obtain ⟨unlisted, codec⟩ := Descriptor.categoryCodec_numeric kind numeric
    refine ⟨descriptor.categoryCodec, .generic (plain id) known (.inl kind) unlisted, ?_⟩
    rw [codec]
    trivial
  | @domain id _ _ _ known kind base _ ih =>
    obtain ⟨codec, prescribes, lists⟩ := ih
    exact ⟨codec, .domain (plain id) known kind base prescribes, lists⟩
  | @array id _ _ _ known listed item below ih =>
    obtain ⟨codec, prescribes, lists⟩ := ih
    obtain ⟨itemDescriptor, knownItem⟩ := below.known
    exact ⟨_, .array (plain id) known listed item knownItem prescribes, lists⟩

/-! ### What is served -/

/-- A leaf with its number as text: null stays null, a text stays as it is, and a number becomes its
text. -/
inductive Json.WrittenLeaf : Json → Json → Prop
  | null : WrittenLeaf .null .null
  | text (text : String) : WrittenLeaf (.string text) (.string text)
  | number (value : JsonNumber) : WrittenLeaf (.number value) (.string value.text)

/-- A value with its numbers as text: lists keep their items where they are to a depth, and nulls
stay; below that depth there are leaves. -/
def Json.Written : Nat → Json → Json → Prop
  | 0, value, result => Json.WrittenLeaf value result
  | levels + 1, value, result =>
    value = .null ∧ result = .null ∨
      ∃ items results, value = .array items ∧ result = .array results ∧
        List.Forall₂ (Json.Written levels) items results

theorem Json.written_null (levels : Nat) : Json.Written levels .null .null := by
  cases levels with
  | zero => exact .null
  | succ levels => exact .inl ⟨rfl, rfl⟩

/-- Text has no number in it. -/
theorem Json.Written.no_number {levels : Nat} {value result : Json}
    (written : Json.Written levels value result) :
    result.EveryNumber fun _ => False := by
  induction levels generalizing value result with
  | zero => cases written <;> trivial
  | succ levels ih =>
    rcases written with ⟨-, rfl⟩ | ⟨items, results, -, rfl, each⟩
    · trivial
    · change Json.ItemsEveryNumber (fun _ => False) results
      induction each with
      | nil => trivial
      | cons first _ others => exact ⟨ih first, others⟩

/-- A number, or text that looks like one, is its own text. -/
theorem written_of_readBigNumber {value : Json} {text : String}
    (read : readBigNumber value = .ok text) :
    Json.WrittenLeaf value (.string text) := by
  cases value with
  | number number =>
    cases read
    exact .number number
  | string literal =>
    rw [readBigNumber] at read
    split at read
    · cases read
      exact .text _
    · cases read
  | _ => cases read

/-- **Lists of numbers are decoded to lists of texts.** -/
theorem Codec.written_decode {levels : Nat} {codec : Codec} (lists : codec.ListsNumbers levels)
    {value result : Json} (decoded : codec.decode value = .ok result) :
    Json.Written levels value result := by
  induction levels generalizing codec value result with
  | zero =>
    cases codec with
    | bigNumber type =>
      by_cases present : value = .null
      · subst present
        rw [decode_null] at decoded
        cases decoded
        exact Json.written_null _
      · rw [decode_bigNumber present] at decoded
        obtain ⟨text, read, rfl⟩ := map_ok_iff.1 decoded
        exact written_of_readBigNumber read
    | _ => exact lists.elim
  | succ levels ih =>
    cases codec with
    | array typeName item elementType =>
      by_cases present : value = .null
      · subst present
        rw [decode_null] at decoded
        cases decoded
        exact Json.written_null _
      · obtain ⟨items, results, rfl, each, rfl⟩ := (decode_array_iff present).1 decoded
        exact .inr ⟨items, results, rfl, rfl, each.imp fun _ _ => ih lists⟩
    | _ => exact lists.elim

/-- **Numbers are served as text.** In a reachable registry without overrides, what a resolved id
with a chain of domains and lists over a base type of numbers serves is the stored value with its
numbers as text. No number is left in it. With a cache it is the same. -/
theorem numbers_served_as_text {registry : Registry} (reachable : Reachable setting registry)
    (plain : ∀ id, registry.overrides.find? id = none) {id : TypeId} {levels : Nat}
    (ends : EndsInNumbers setting.catalog id levels) {entry : TypeEntry}
    (resolved : registry.types.find? id = some entry) {value result : Json}
    (decoded : registry.decode setting id value = .ok result) :
    Json.Written levels value result ∧ (result.EveryNumber fun _ => False) ∧
      ∀ cache, (registry.decodeCached setting id value cache).1 = .ok result := by
  obtain ⟨codec, serves⟩ := reachable.sound.serves resolved
  obtain ⟨prescribed, prescribes, lists⟩ := ends.prescribes plain
  obtain rfl := (serves.prescribed prescribed).1 prescribes
  rw [serves.decode] at decoded
  have written := Codec.written_decode lists decoded
  refine ⟨written, written.no_number, fun cache => ?_⟩
  rw [serves.decodeCached, Codec.decodeCached_fst, decoded]

/-- The list over the domain is resolved, and nothing was registered before. -/
def scoresRegistry : Registry := Request.afterAll sampleSetting .initial [.entry 101]

/-- A number, a text and null in a list over a domain over a number type. -/
theorem numbers_served_as_text_scores :
    Reachable sampleSetting scoresRegistry ∧ (∀ id, scoresRegistry.overrides.find? id = none) ∧
      EndsInNumbers sampleSetting.catalog 101 1 ∧
      (∃ entry, scoresRegistry.types.find? 101 = some entry) ∧
      scoresRegistry.decode sampleSetting 101
        (.array [.ofInt 9007199254740993, .string "2.50", .null]) =
        .ok (.array [.string "9007199254740993", .string "2.50", .null]) ∧
      Json.Written 1 (.array [.ofInt 9007199254740993, .string "2.50", .null])
        (.array [.string "9007199254740993", .string "2.50", .null]) := by
  have reachable : Reachable sampleSetting scoresRegistry := .afterAll _
  have bare : scoresRegistry.overrides = .empty := by decide +kernel
  have plain (id : TypeId) : scoresRegistry.overrides.find? id = none := by
    rw [bare]
    rfl
  have resolved : (scoresRegistry.types.find? 101).isSome := by decide +kernel
  obtain ⟨entry, settled⟩ := Option.isSome_iff_exists.1 resolved
  have number : EndsInNumbers sampleSetting.catalog 23 0 := .number rfl rfl rfl
  have domain : EndsInNumbers sampleSetting.catalog 100 0 := .domain rfl rfl rfl number
  have list : EndsInNumbers sampleSetting.catalog 101 1 := .array rfl (.inl rfl) rfl domain
  have held : (scoresRegistry.codecs.find? 101).map (·.codec) = some (.array "app._score"
      (.bigNumber ⟨"pg_catalog", "int4"⟩) ⟨"app", "score"⟩) := by decide +kernel
  obtain ⟨shared, found, codec⟩ := Option.map_eq_some_iff.1 held
  have decoded : scoresRegistry.decode sampleSetting 101
      (.array [.ofInt 9007199254740993, .string "2.50", .null]) =
        .ok (.array [.string "9007199254740993", .string "2.50", .null]) := by
    unfold Registry.decode Registry.codecFor
    rw [found]
    change shared.codec.decode _ = _
    rw [codec]
    rfl
  exact ⟨reachable, plain, list, ⟨entry, settled⟩, decoded,
    (numbers_served_as_text reachable plain list settled decoded).1⟩

end CatalogSchema
