/-
**Decoding a decoded value changes nothing.**

Each scalar decoder accepts its own output and returns it: numbers in normal form, texts of numbers,
and the objects of points, intervals and ranges. A list is decoded item by item, and a range whose
bounds were decoded is not decoded again but checked.

* `decode_again`: what a codec decodes to, it decodes to itself.
-/

import CatalogSchema.Proofs.Conversion.Decoding

namespace CatalogSchema

open Number

namespace Codec

/-! ### Points -/

theorem exists_ofNumber {amount : Binary64} {value : Json}
    (normal : jsonOfBinary64 amount = .ok value) :
    ∃ number, value = Json.ofNumber number := by
  cases amount with
  | finite number =>
    cases normal
    exact ⟨number, rfl⟩
  | infinite negative => cases normal
  | notANumber => cases normal

theorem exists_of_readCoordinate {literal value : Json} {part : List Char}
    (read : Point.readCoordinate literal part = .ok value) :
    ∃ number, value = Json.ofNumber number := by
  unfold Point.readCoordinate at read
  split at read
  · exact exists_ofNumber read
  · cases read

/-- The coordinates of a point are numbers in normal form. -/
theorem coordinates_normal {value x y : Json} (read : Point.coordinates value = .ok (x, y)) :
    (∃ first, x = Json.ofNumber first) ∧ ∃ second, y = Json.ofNumber second := by
  unfold Point.coordinates at read
  split at read
  · split at read
    · simp only [bind_ok_iff] at read
      obtain ⟨first, readFirst, second, readSecond, same⟩ := read
      cases same
      exact ⟨exists_of_readCoordinate readFirst, exists_of_readCoordinate readSecond⟩
    · cases read
  · split at read
    · simp only [bind_ok_iff] at read
      obtain ⟨first, -, second, -, same⟩ := read
      cases same
      exact ⟨⟨first, rfl⟩, second, rfl⟩
    · cases read
  · cases read

/-- The object of numbers in normal form has these coordinates. -/
theorem coordinates_object (first second : Finite) :
    Point.coordinates (.object [("x", Json.ofNumber first), ("y", Json.ofNumber second)]) =
      .ok (Json.ofNumber first, Json.ofNumber second) := by
  obtain ⟨x, readX, sameX⟩ := readFinite_ofNumber first
  obtain ⟨y, readY, sameY⟩ := readFinite_ofNumber second
  change (readFinite (Json.ofNumber first) >>= fun x =>
      readFinite (Json.ofNumber second) >>= fun y =>
    pure (Json.ofNumber x, Json.ofNumber y)) = _
  rw [readX, readY, ← sameX, ← sameY]
  rfl

/-! ### Scalars -/

section Scalars

variable {type : QualifiedName} {value result : Json} (present : value ≠ .null)

include present

theorem decode_again_integer (decoded : (Codec.integer type).decode value = .ok result) :
    (Codec.integer type).decode result = .ok result := by
  rw [decode_integer present, map_ok_iff] at decoded
  obtain ⟨integer, read, rfl⟩ := decoded
  change Json.ofInt <$> readInteger (.ofInt integer) = _
  rw [readInteger_ofInt (int64?_of_readInteger read)]
  rfl

theorem decode_again_float (decoded : (Codec.float type).decode value = .ok result) :
    (Codec.float type).decode result = .ok result := by
  rw [decode_float present, map_ok_iff] at decoded
  obtain ⟨number, -, rfl⟩ := decoded
  rfl

theorem decode_again_boolean (decoded : (Codec.boolean type).decode value = .ok result) :
    (Codec.boolean type).decode result = .ok result := by
  rw [decode_boolean present, map_ok_iff] at decoded
  obtain ⟨truth, -, rfl⟩ := decoded
  rfl

theorem decode_again_money (decoded : (Codec.money type).decode value = .ok result) :
    (Codec.money type).decode result = .ok result := by
  obtain ⟨number, rfl, -⟩ := decode_money_cases present decoded
  rfl

theorem decode_again_document (decoded : (Codec.document type false).decode value = .ok result) :
    (Codec.document type false).decode result = .ok result := by
  cases value with
  | null => exact absurd rfl present
  | _ =>
    cases decoded
    rfl

theorem decode_again_bigNumber (decoded : (Codec.bigNumber type).decode value = .ok result) :
    (Codec.bigNumber type).decode result = .ok result := by
  rw [decode_bigNumber present, map_ok_iff] at decoded
  obtain ⟨text, read, rfl⟩ := decoded
  change Json.string <$> readBigNumber (.string text) = _
  rw [readBigNumber_of_read read]
  rfl

theorem decode_again_point (decoded : (Codec.point type).decode value = .ok result) :
    (Codec.point type).decode result = .ok result := by
  rw [decode_point present, map_ok_iff] at decoded
  obtain ⟨⟨x, y⟩, read, rfl⟩ := decoded
  obtain ⟨⟨first, rfl⟩, second, rfl⟩ := coordinates_normal read
  have object : Json.object [("x", Json.ofNumber first), ("y", Json.ofNumber second)] ≠ .null :=
    nofun
  rw [decode_point object, coordinates_object]
  rfl

theorem decode_again_interval (decoded : (Codec.interval type).decode value = .ok result) :
    (Codec.interval type).decode result = .ok result := by
  obtain ⟨interval, read, written⟩ := (decode_interval_iff present).1 decoded
  obtain ⟨members, again, rfl, readAgain, writtenAgain⟩ :=
    Interval.ofJson_toJson (Interval.inRange_of_ofValue read) written
  have object : Json.object members ≠ .null := nofun
  exact (decode_interval_iff object).2 ⟨again, readAgain, writtenAgain⟩

end Scalars

/-! ### Every codec -/

/-- Items that a codec leaves are left in a list. -/
theorem forall₂_again {item : Codec} {items results : List Json}
    (decoded : List.Forall₂ (fun part result => item.decode part = .ok result) items results)
    (again : ∀ {part result}, item.decode part = .ok result → item.decode result = .ok result) :
    List.Forall₂ (fun part result => item.decode part = .ok result) results results := by
  induction decoded with
  | nil => exact .nil
  | cons first _ ih => exact .cons (again first) ih

/-- The bound of a literal is a bound. -/
theorem readBound_of_decodeEdge {sub : Codec} {bound : Range.LiteralBound} {edge : Json}
    (decoded : sub.decodeEdge bound = .ok edge) :
    ∃ read, Range.readBound (some edge) = .ok read := by
  unfold decodeEdge at decoded
  split at decoded
  · cases decoded
    exact ⟨none, rfl⟩
  · obtain ⟨value, -, rfl⟩ := map_ok_iff.1 decoded
    exact ⟨_, Range.readBound_boundObject value bound.inclusive⟩

/-- What a range is decoded to is null or an object of two bounds. -/
theorem exists_toObject_of_decode_range {constructor : QualifiedName} {sub : Codec}
    {value result : Json} (present : value ≠ .null)
    (decoded : (Codec.range constructor sub).decode value = .ok result) :
    result = .null ∨ ∃ start stop first last, result = Range.toObject start stop ∧
      Range.readBound (some start) = .ok first ∧ Range.readBound (some stop) = .ok last := by
  rcases decode_range_cases present decoded with
    ⟨_, -, empty | ⟨_, _, start, stop, decodedStart, decodedStop, rfl⟩⟩ | ⟨members, -, checked⟩
  · exact .inl empty
  · obtain ⟨first, readStart⟩ := readBound_of_decodeEdge decodedStart
    obtain ⟨last, readStop⟩ := readBound_of_decodeEdge decodedStop
    exact .inr ⟨start, stop, first, last, rfl, readStart, readStop⟩
  · obtain ⟨-, first, last, readStart, readStop, rfl⟩ := Range.checkObject_iff.1 checked
    exact .inr ⟨_, _, first, last, rfl, (Range.readBound_getD _).trans readStart,
      (Range.readBound_getD _).trans readStop⟩

theorem decode_again_range {constructor : QualifiedName} {sub : Codec} {value result : Json}
    (present : value ≠ .null) (decoded : (Codec.range constructor sub).decode value = .ok result) :
    (Codec.range constructor sub).decode result = .ok result := by
  rcases exists_toObject_of_decode_range present decoded with
    rfl | ⟨start, stop, first, last, rfl, readStart, readStop⟩
  · exact decode_null _
  · exact Range.checkObject_toObject readStart readStop

/-- Null is decoded to null, whatever the codec. -/
theorem again_of_present {codec : Codec}
    (again : ∀ {value result}, value ≠ .null → codec.decode value = .ok result →
      codec.decode result = .ok result) {value result : Json}
    (decoded : codec.decode value = .ok result) :
    codec.decode result = .ok result := by
  by_cases null : value = .null
  · rw [null, decode_null] at decoded
    cases decoded
    exact decode_null codec
  · exact again null decoded

/-- **Decoding is idempotent.** What a codec without structured documents decodes a value to, it
decodes to itself. -/
theorem decode_again {codec : Codec} (plain : ∀ type, codec.innermost ≠ .document type true)
    {stored served : Json} (decoded : codec.decode stored = .ok served) :
    codec.decode served = .ok served := by
  induction codec generalizing stored served with
  | identity type => exact decode_identity type served
  | integer type => exact again_of_present decode_again_integer decoded
  | float type => exact again_of_present decode_again_float decoded
  | boolean type => exact again_of_present decode_again_boolean decoded
  | bigNumber type => exact again_of_present decode_again_bigNumber decoded
  | money type => exact again_of_present decode_again_money decoded
  | point constructor => exact again_of_present decode_again_point decoded
  | interval type => exact again_of_present decode_again_interval decoded
  | document type structured =>
    cases structured with
    | true => exact absurd rfl (plain type)
    | false => exact again_of_present decode_again_document decoded
  | array typeName item elementType ih =>
    refine again_of_present (fun {value result} present decoded => ?_) decoded
    obtain ⟨items, results, rfl, each, rfl⟩ := (decode_array_iff present).1 decoded
    have list : Json.array results ≠ .null := nofun
    exact (decode_array_iff list).2 ⟨results, results, rfl, forall₂_again each (ih plain), rfl⟩
  | range constructor sub _ => exact again_of_present decode_again_range decoded

/-- Lists of ranges over integers. -/
def spans : Codec :=
  .array "_span" (.range ⟨"app", "span"⟩ (.integer (.inCatalog "int4"))) ⟨"app", "span"⟩

/-- A range from one to five, and the empty range. -/
def servedSpans : Json :=
  .array [Range.toObject (Range.boundObject (.ofInt 1) true) (Range.boundObject (.ofInt 5) false),
    .null]

/-- Literals become objects, which stay what they are. -/
theorem decode_again_spans :
    spans.decode (.array [.string " [1,\"5\")", .string "empty"]) = .ok servedSpans ∧
      spans.decode servedSpans = .ok servedSpans := by
  have plain : ∀ type, spans.innermost ≠ .document type true := nofun
  have decoded :
      spans.decode (.array [.string " [1,\"5\")", .string "empty"]) = .ok servedSpans := rfl
  exact ⟨decoded, decode_again plain decoded⟩

end Codec

end CatalogSchema
