/-
**Range objects that are sent.**

Sending a range looks at its two bounds, and decoding looks at all members of the object. So an
object without other members is sent as the object it is decoded to, and one with another member is
sent although it cannot be decoded.

* `encode_congr_bounds`: what is sent depends on the two bounds only.
* `encoded_range_decoded_iff`: when an object that is sent is decoded, and to what.
* `misspelled_bound_sent`: an object whose second bound is misspelled.
-/

import CatalogSchema.Proofs.Conversion.Decoding

namespace CatalogSchema

namespace Range

/-- The members that an object of a range may have. -/
def IsBoundKey (key : String) : Prop := key = "start" ∨ key = "end"

/-- No member is unexpected if all are bounds. -/
theorem find?_eq_none_iff {members : List (String × Json)} :
    (members.find? fun member => member.1 ≠ "start" ∧ member.1 ≠ "end") = none ↔
      ∀ member ∈ members, IsBoundKey member.1 := by
  simp only [List.find?_eq_none, decide_eq_true_eq, not_and_or, Classical.not_not, IsBoundKey]

/-- The bounds of a completed object are those of the object. -/
theorem readBound_lookup_completed (members : List (String × Json)) :
    let completed :=
      [("end", (members.lookup "end").getD .null), ("start", (members.lookup "start").getD .null)]
    readBound (completed.lookup "start") = readBound (members.lookup "start") ∧
      readBound (completed.lookup "end") = readBound (members.lookup "end") :=
  ⟨readBound_getD _, readBound_getD _⟩

end Range

namespace Codec

/-- **What is sent for a range** depends on its two bounds only. -/
theorem encode_congr_bounds {constructor : QualifiedName} {sub : Codec}
    {members others : List (String × Json)}
    (start : Range.readBound (others.lookup "start") = Range.readBound (members.lookup "start"))
    (stop : Range.readBound (others.lookup "end") = Range.readBound (members.lookup "end")) :
    (Codec.range constructor sub).encode (.object others) =
      (Codec.range constructor sub).encode (.object members) := by
  unfold encode
  rw [encodeWith, encodeWith, start, stop]

/-- An object is decoded exactly if it has no other members and its bounds are bounds; its missing
bounds are null then. -/
theorem decode_range_object (constructor : QualifiedName) (sub : Codec)
    (members : List (String × Json)) :
    (Codec.range constructor sub).decode (.object members) = Range.checkObject members := rfl

/-- **When a range object that is sent can be decoded**: exactly if it has no members but bounds.
What it is decoded to is sent as the object is. -/
theorem encoded_range_decoded_iff {constructor : QualifiedName} {sub : Codec}
    {members : List (String × Json)} {fragment : Fragment}
    (encoded : (Codec.range constructor sub).encode (.object members) = .ok fragment) :
    (∃ served, (Codec.range constructor sub).decode (.object members) = .ok (.object served) ∧
      (Codec.range constructor sub).encode (.object served) = .ok fragment) ↔
        ∀ member ∈ members, Range.IsBoundKey member.1 := by
  rw [← Range.find?_eq_none_iff, decode_range_object]
  constructor
  · rintro ⟨_, checked, -⟩
    exact (Range.checkObject_iff.1 checked).1
  · intro noOther
    have object : Json.object members ≠ .null := nofun
    obtain ⟨_, first, last, _, _, ⟨⟩, readFirst, -, readLast, -, -⟩ :=
      (encode_range_iff object).1 encoded
    obtain ⟨start, stop⟩ := Range.readBound_lookup_completed members
    exact ⟨_, Range.checkObject_iff.2 ⟨noOther, first, last, readFirst, readLast, rfl⟩,
      (encode_congr_bounds start stop).trans encoded⟩

/-- Ranges over integers. -/
def spanOfIntegers : Codec := .range ⟨"app", "spans"⟩ (.integer (.inCatalog "int4"))

/-- A range from one on that has a second member. -/
def fromOne (key : String) (second : Json) : List (String × Json) :=
  [(key, second), ("start", Range.boundObject (.ofInt 1) true)]

/-- What is sent for a range from one on, with what is sent for its other bound. -/
def sentFromOne (last : Fragment) : Fragment :=
  .call ⟨"app", "spans"⟩
    [.cast (.value (.ofInt 1)) (.inCatalog "int4"), last, .value (.string "[)")]

/-- An object with both bounds is sent and decoded. -/
theorem encoded_range_decoded_iff_bounded :
    spanOfIntegers.encode (.object (fromOne "end" (Range.boundObject (.ofInt 5) false))) =
        .ok (sentFromOne (.cast (.value (.ofInt 5)) (.inCatalog "int4"))) ∧
      ∃ served,
        spanOfIntegers.decode (.object (fromOne "end" (Range.boundObject (.ofInt 5) false))) =
            .ok (.object served) ∧
          spanOfIntegers.encode (.object served) =
            .ok (sentFromOne (.cast (.value (.ofInt 5)) (.inCatalog "int4"))) := by
  have encoded :
      spanOfIntegers.encode (.object (fromOne "end" (Range.boundObject (.ofInt 5) false))) =
      .ok (sentFromOne (.cast (.value (.ofInt 5)) (.inCatalog "int4"))) := rfl
  have bounds : ∀ member ∈ fromOne "end" (Range.boundObject (.ofInt 5) false),
      Range.IsBoundKey member.1 :=
    List.forall_mem_cons.2 ⟨.inr rfl, List.forall_mem_singleton.2 (.inl rfl)⟩
  exact ⟨encoded, (encoded_range_decoded_iff encoded).2 bounds⟩

/-- **A range whose end is misspelled** is sent as a range without end, and cannot be decoded. -/
theorem misspelled_bound_sent :
    spanOfIntegers.encode (.object (fromOne "ending" (Range.boundObject (.ofInt 5) false))) =
        .ok (sentFromOne .null) ∧
      spanOfIntegers.decode (.object (fromOne "ending" (Range.boundObject (.ofInt 5) false))) =
        .error (.malformedRange
          (Json.object (fromOne "ending" (Range.boundObject (.ofInt 5) false))).text
          (.unexpectedRangeKey "ending")) := ⟨rfl, rfl⟩

end Codec

end CatalogSchema
