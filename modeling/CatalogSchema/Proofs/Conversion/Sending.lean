/-
**What is served can be sent back.**

A scalar that was decoded is encoded. So are lists item by item, and ranges that were stored as
literals, whose bounds went through the codec of the subtype. The bounds of a range that was stored
as an object did not, and what is served is encoded exactly if they are.

* `exists_encode_array_iff`: a list is encoded exactly if its items are.
* `exists_encode_range_iff`: the object of a range is encoded exactly if its bounds are.
* `sendable_iff`: when a decoded value is encoded.
-/

import CatalogSchema.Proofs.Conversion.Idempotence

namespace CatalogSchema

open Number

namespace Codec

/-! ### Scalars -/

/-- Whatever reads a value to show it reads it to send it. -/
theorem exists_encode_of_reader {α : Type} {codec : Codec} {value result : Json}
    {read : Conversion α} {shown : α → Json} {sent : α → Fragment}
    (decodes : codec.decode value = shown <$> read) (encodes : codec.encode value = sent <$> read)
    (decoded : codec.decode value = .ok result) :
    ∃ fragment, codec.encode value = .ok fragment := by
  rw [decodes, map_ok_iff] at decoded
  obtain ⟨outcome, reads, -⟩ := decoded
  rw [encodes, reads]
  exact ⟨_, rfl⟩

theorem exists_encode_identity (type : QualifiedName) (value : Json) :
    ∃ fragment, (Codec.identity type).encode value = .ok fragment := by
  cases value <;> exact ⟨_, rfl⟩

section Scalars

variable {type : QualifiedName} {value result : Json} (present : value ≠ .null)

include present

theorem exists_encode_integer (decoded : (Codec.integer type).decode value = .ok result) :
    ∃ fragment, (Codec.integer type).encode value = .ok fragment := by
  have encodes : (Codec.integer type).encode value =
      (fun n => .cast (.value (.ofInt n)) type) <$> readInteger value := by
    cases value <;> first | rfl | exact absurd rfl present
  exact exists_encode_of_reader (decode_integer present) encodes decoded

theorem exists_encode_float (decoded : (Codec.float type).decode value = .ok result) :
    ∃ fragment, (Codec.float type).encode value = .ok fragment := by
  have encodes : (Codec.float type).encode value =
      (fun x => .cast (.value (.ofFinite x)) type) <$> readFinite value := by
    cases value <;> first | rfl | exact absurd rfl present
  exact exists_encode_of_reader (decode_float present) encodes decoded

theorem exists_encode_boolean (decoded : (Codec.boolean type).decode value = .ok result) :
    ∃ fragment, (Codec.boolean type).encode value = .ok fragment := by
  have encodes : (Codec.boolean type).encode value =
      (fun b => .cast (.value (.bool b)) type) <$> readBoolean value := by
    cases value <;> first | rfl | exact absurd rfl present
  exact exists_encode_of_reader (decode_boolean present) encodes decoded

theorem exists_encode_bigNumber (decoded : (Codec.bigNumber type).decode value = .ok result) :
    ∃ fragment, (Codec.bigNumber type).encode value = .ok fragment := by
  have encodes : (Codec.bigNumber type).encode value =
      (fun text => .cast (.value (.string text)) type) <$> readBigNumber value := by
    cases value <;> first | rfl | exact absurd rfl present
  exact exists_encode_of_reader (decode_bigNumber present) encodes decoded

theorem exists_encode_point (decoded : (Codec.point type).decode value = .ok result) :
    ∃ fragment, (Codec.point type).encode value = .ok fragment := by
  have encodes : (Codec.point type).encode value =
      (fun place => .call type [.value place.1, .value place.2]) <$> Point.coordinates value := by
    cases value <;> first | rfl | exact absurd rfl present
  exact exists_encode_of_reader (decode_point present) encodes decoded

theorem exists_encode_interval (decoded : (Codec.interval type).decode value = .ok result) :
    ∃ fragment, (Codec.interval type).encode value = .ok fragment := by
  obtain ⟨interval, read, -⟩ := (decode_interval_iff present).1 decoded
  have step : (Codec.interval type).encode value =
      (intervalOf (m := Id) (fun literal => ExceptT.mk (Interval.parse literal)) value >>=
        fun interval => pure (.cast (.value (.string interval.literal)) type)).run := by
    cases value <;> first | rfl | exact absurd rfl present
  refine ⟨.cast (.value (.string interval.literal)) type, ?_⟩
  rw [step, run_bind_iff, run_intervalOf]
  exact ⟨interval, read, rfl⟩

omit present

/-- A number of documents is an amount, and so is a number in normal form. -/
theorem exists_encode_money {number : JsonNumber}
    (readable : ∃ amount, readFinite (.number number) = .ok amount) :
    ∃ fragment, (Codec.money type).encode (.number number) = .ok fragment := by
  obtain ⟨amount, read⟩ := readable
  have encodes : (Codec.money type).encode (.number number) =
      (fun amount => .cast (.cast (.value (.ofNumber amount)) (.inCatalog "numeric")) type) <$>
        readFinite (.number number) := rfl
  rw [encodes, read]
  exact ⟨_, rfl⟩

end Scalars

/-! ### Lists and ranges -/

theorem exists_forall₂_iff {α β : Type} {related : α → β → Prop} {items : List α} :
    (∃ results, List.Forall₂ related items results) ↔
      ∀ item ∈ items, ∃ result, related item result := by
  induction items with
  | nil => exact ⟨fun _ => nofun, fun _ => ⟨[], .nil⟩⟩
  | cons item items ih =>
    rw [List.forall_mem_cons, ← ih]
    constructor
    · rintro ⟨_, first | ⟨first, rest⟩⟩
      exact ⟨⟨_, first⟩, _, rest⟩
    · rintro ⟨⟨result, first⟩, results, rest⟩
      exact ⟨result :: results, .cons first rest⟩

/-- **A list is encoded exactly if its items are.** -/
theorem exists_encode_array_iff {typeName : String} {item : Codec} {elementType : QualifiedName}
    {items : List Json} :
    (∃ fragment, (Codec.array typeName item elementType).encode (.array items) = .ok fragment) ↔
      ∀ part ∈ items, ∃ element, item.encode part = .ok element := by
  have list : Json.array items ≠ .null := nofun
  simp only [encode_array_iff list, ← exists_forall₂_iff]
  constructor
  · rintro ⟨_, _, elements, ⟨⟩, encoded, -⟩
    exact ⟨elements, encoded⟩
  · rintro ⟨elements, encoded⟩
    exact ⟨_, items, elements, rfl, encoded, rfl⟩

/-- **The object of a range is encoded exactly if its bounds are.** -/
theorem exists_encode_range_iff {constructor : QualifiedName} {sub : Codec} {start stop : Json}
    {first last : Option Range.ObjectBound} (readStart : Range.readBound (some start) = .ok first)
    (readStop : Range.readBound (some stop) = .ok last) :
    (∃ fragment, (Codec.range constructor sub).encode (Range.toObject start stop) = .ok fragment) ↔
      (∃ fragment, sub.encodeEdge first = .ok fragment) ∧
        ∃ fragment, sub.encodeEdge last = .ok fragment := by
  have object : Range.toObject start stop ≠ .null := nofun
  have lookupStart : [("end", stop), ("start", start)].lookup "start" = some start := rfl
  have lookupStop : [("end", stop), ("start", start)].lookup "end" = some stop := rfl
  simp only [encode_range_iff object]
  constructor
  · rintro ⟨_, _, _, _, _, _, ⟨⟩, readFirst, encodedFirst, readLast, encodedLast, -⟩
    rw [lookupStart, readStart] at readFirst
    rw [lookupStop, readStop] at readLast
    cases readFirst
    cases readLast
    exact ⟨⟨_, encodedFirst⟩, _, encodedLast⟩
  · rintro ⟨⟨fragment, encodedFirst⟩, fragment', encodedLast⟩
    exact ⟨_, _, first, last, _, _, rfl, readStart, encodedFirst, readStop, encodedLast, rfl⟩

/-! ### Every codec -/

/-- Whatever is a bound in the object of a range, here or in an item of a list, is encoded by the
codec of the subtype. -/
def BoundsSendable : Codec → Json → Prop
  | .array _ item _, .array items => ∀ part ∈ items, item.BoundsSendable part
  | .range _ sub, .object members => ∀ key ∈ ["start", "end"], ∀ bound,
      Range.readBound (members.lookup key) = .ok (some bound) →
        ∃ fragment, sub.encode bound.value = .ok fragment
  | _, _ => True

theorem boundsSendable_null (codec : Codec) : codec.BoundsSendable .null := by
  cases codec <;> trivial

theorem boundsSendable_string (codec : Codec) (text : String) :
    codec.BoundsSendable (.string text) := by
  cases codec <;> trivial

theorem exists_encodeEdge_iff {sub : Codec} {read : Option Range.ObjectBound} :
    (∃ fragment, sub.encodeEdge read = .ok fragment) ↔
      ∀ bound, read = some bound → ∃ fragment, sub.encode bound.value = .ok fragment := by
  cases read with
  | none => exact ⟨fun _ _ => nofun, fun _ => ⟨_, rfl⟩⟩
  | some bound =>
    constructor
    · rintro encoded _ ⟨⟩
      exact encoded
    · exact fun each => each bound rfl

/-- The bound of a literal, which went through the codec of the subtype, is encoded. -/
theorem exists_encodeEdge_of_decodeEdge {sub : Codec} {bound : Range.LiteralBound} {edge : Json}
    (sendable : ∀ {text served}, sub.decode (.string text) = .ok served →
      ∃ fragment, sub.encode served = .ok fragment) (decoded : sub.decodeEdge bound = .ok edge) :
    ∃ read, Range.readBound (some edge) = .ok read ∧
      ∃ fragment, sub.encodeEdge read = .ok fragment := by
  unfold decodeEdge at decoded
  split at decoded
  · cases decoded
    exact ⟨none, rfl, _, rfl⟩
  · obtain ⟨value, decodedValue, rfl⟩ := map_ok_iff.1 decoded
    exact ⟨_, Range.readBound_boundObject value bound.inclusive, sendable decodedValue⟩

theorem exists_encode_range_of_literal {constructor : QualifiedName} {sub : Codec}
    {start stop : Json} {first last : Range.LiteralBound}
    (sendable : ∀ {text served}, sub.decode (.string text) = .ok served →
      ∃ fragment, sub.encode served = .ok fragment)
    (decodedStart : sub.decodeEdge first = .ok start)
    (decodedStop : sub.decodeEdge last = .ok stop) :
    ∃ fragment, (Codec.range constructor sub).encode (Range.toObject start stop) =
      .ok fragment := by
  obtain ⟨_, readStart, encodedStart⟩ := exists_encodeEdge_of_decodeEdge sendable decodedStart
  obtain ⟨_, readStop, encodedStop⟩ := exists_encodeEdge_of_decodeEdge sendable decodedStop
  exact (exists_encode_range_iff readStart readStop).2 ⟨encodedStart, encodedStop⟩

/-- A range that was stored as an object is encoded exactly if its bounds are. -/
theorem exists_encode_range_of_object {constructor : QualifiedName} {sub : Codec}
    {members : List (String × Json)} {served : Json}
    (checked : Range.checkObject members = .ok served) :
    (∃ fragment, (Codec.range constructor sub).encode served = .ok fragment) ↔
      (Codec.range constructor sub).BoundsSendable (.object members) := by
  obtain ⟨-, first, last, readStart, readStop, rfl⟩ := Range.checkObject_iff.1 checked
  rw [exists_encode_range_iff ((Range.readBound_getD _).trans readStart)
    ((Range.readBound_getD _).trans readStop), exists_encodeEdge_iff, exists_encodeEdge_iff]
  unfold BoundsSendable
  simp only [List.forall_mem_cons, readStart, readStop, Except.ok.injEq]
  exact ⟨fun ⟨starts, stops⟩ => ⟨starts, stops, nofun⟩, fun ⟨starts, stops, _⟩ => ⟨starts, stops⟩⟩

/-- Items are related to what they are decoded to. -/
theorem forall_mem_iff_of_forall₂ {α β : Type} {related : α → β → Prop} {items : List α}
    {results : List β} {before : α → Prop} {after : β → Prop}
    (each : List.Forall₂ related items results)
    (same : ∀ item ∈ items, ∀ result, related item result → (after result ↔ before item)) :
    (∀ result ∈ results, after result) ↔ ∀ item ∈ items, before item := by
  induction each with
  | nil => exact ⟨fun _ => nofun, fun _ => nofun⟩
  | cons first _ ih =>
    obtain ⟨here, rest⟩ := List.forall_mem_cons.1 same
    rw [List.forall_mem_cons, List.forall_mem_cons, here _ first, ih rest]

/-- Null is encoded, whatever the codec. -/
theorem sendable_of_present {codec : Codec} (sends : ∀ {value result}, value ≠ .null →
    codec.decode value = .ok result → ∃ fragment, codec.encode value = .ok fragment)
    (plain : ∀ type, codec.innermost ≠ .document type true) {stored served : Json}
    (decoded : codec.decode stored = .ok served) :
    ∃ fragment, codec.encode served = .ok fragment := by
  by_cases null : served = .null
  · exact ⟨_, null ▸ encode_null codec⟩
  · exact sends null (decode_again plain decoded)

/-- **When a decoded value is encoded.** There are no documents, and the stored value is one of
documents. What is served is encoded exactly if each bound of a range that was stored as an object
is. -/
theorem sendable_iff {codec : Codec}
    (plain : ∀ type structured, codec.innermost ≠ .document type structured) {stored served : Json}
    (wellFormed : stored.WellFormed) (decoded : codec.decode stored = .ok served) :
    (∃ fragment, codec.encode served = .ok fragment) ↔ codec.BoundsSendable stored := by
  induction codec generalizing stored served with
  | identity type => exact iff_of_true (exists_encode_identity type served) trivial
  | integer type =>
    exact iff_of_true (sendable_of_present exists_encode_integer (plain · true) decoded) trivial
  | float type =>
    exact iff_of_true (sendable_of_present exists_encode_float (plain · true) decoded) trivial
  | boolean type =>
    exact iff_of_true (sendable_of_present exists_encode_boolean (plain · true) decoded) trivial
  | bigNumber type =>
    exact iff_of_true (sendable_of_present exists_encode_bigNumber (plain · true) decoded) trivial
  | point constructor =>
    exact iff_of_true (sendable_of_present exists_encode_point (plain · true) decoded) trivial
  | interval type =>
    exact iff_of_true (sendable_of_present exists_encode_interval (plain · true) decoded) trivial
  | document type structured => exact absurd rfl (plain type structured)
  | money type =>
    refine iff_of_true ?_ trivial
    by_cases null : stored = .null
    · rw [null, decode_null] at decoded
      cases decoded
      exact ⟨_, encode_null _⟩
    obtain ⟨number, rfl, rfl | ⟨amount, form⟩⟩ := decode_money_cases null decoded
    · exact exists_encode_money (exists_readFinite wellFormed)
    · obtain ⟨again, read, -⟩ := readFinite_ofNumber amount
      exact exists_encode_money ⟨again, form ▸ read⟩
  | array typeName item elementType ih =>
    by_cases null : stored = .null
    · rw [null, decode_null] at decoded
      cases decoded
      exact iff_of_true ⟨_, encode_null _⟩ (null ▸ boundsSendable_null _)
    obtain ⟨items, results, rfl, each, rfl⟩ := (decode_array_iff null).1 decoded
    rw [exists_encode_array_iff]
    exact forall_mem_iff_of_forall₂ each fun part found result decoded =>
      ih plain (Json.itemsWellFormed_iff.1 wellFormed part found) decoded
  | range constructor sub ih =>
    by_cases null : stored = .null
    · rw [null, decode_null] at decoded
      cases decoded
      exact iff_of_true ⟨_, encode_null _⟩ (null ▸ boundsSendable_null _)
    rcases decode_range_cases null decoded with
      ⟨literal, rfl, rfl | ⟨first, last, start, stop, decodedStart, decodedStop, rfl⟩⟩ |
        ⟨members, rfl, checked⟩
    · exact iff_of_true ⟨_, encode_null _⟩ (boundsSendable_string _ literal)
    · refine iff_of_true (exists_encode_range_of_literal (fun {text served} decoded => ?_)
        decodedStart decodedStop) (boundsSendable_string _ literal)
      have wellFormedText : (Json.string text).WellFormed := trivial
      exact (ih plain wellFormedText decoded).2 (boundsSendable_string sub text)
    · exact exists_encode_range_of_object checked

/-- A literal, and an object with one bound. -/
def storedSpans (bound : Json) : Json :=
  .array [.string "[1,5)", .object [("start", Range.boundObject bound false)]]

/-- What is served for it. -/
def servedWith (bound : Json) : Json :=
  .array [Range.toObject (Range.boundObject (.ofInt 1) true) (Range.boundObject (.ofInt 5) false),
    Range.toObject (Range.boundObject bound false) .null]

/-- A bound that is the text of an integer is encoded. -/
theorem sendable_iff_spans :
    (storedSpans (.string "7")).WellFormed ∧
      spans.decode (storedSpans (.string "7")) = .ok (servedWith (.string "7")) ∧
      ∃ fragment, spans.encode (servedWith (.string "7")) = .ok fragment := by
  have plain : ∀ type structured, spans.innermost ≠ .document type structured := nofun
  have sorted : (Range.boundObject (.string "7") false).WellFormed :=
    ⟨List.pairwise_pair.2 (by decide), trivial, trivial, trivial⟩
  have wellFormed : (storedSpans (.string "7")).WellFormed :=
    ⟨trivial, ⟨List.pairwise_singleton _ _, sorted, trivial⟩, trivial⟩
  have decoded : spans.decode (storedSpans (.string "7")) = .ok (servedWith (.string "7")) := rfl
  have bounds : spans.BoundsSendable (storedSpans (.string "7")) := by
    refine List.forall_mem_cons.2 ⟨trivial, List.forall_mem_singleton.2 ?_⟩
    refine List.forall_mem_cons.2 ⟨?_, List.forall_mem_singleton.2 ?_⟩
    · rintro _ ⟨⟩
      exact ⟨_, rfl⟩
    · rintro _ ⟨⟩
  exact ⟨wellFormed, decoded, (sendable_iff plain wellFormed decoded).2 bounds⟩

/-- A bound that is no integer is served as it was stored, and cannot be sent back. -/
theorem served_not_sendable :
    spans.decode (storedSpans (.string "abc")) = .ok (servedWith (.string "abc")) ∧
      spans.encode (servedWith (.string "abc")) = .error (.malformedNumber "abc") := ⟨rfl, rfl⟩

end Codec

end CatalogSchema
