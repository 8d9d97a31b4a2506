/-
**How values are decoded.**

When a decoding succeeds, and what it gives then.

* `decode_array_iff`: a list is decoded item by item.
* `decode_range_cases`: a range is decoded to null or to an object of two bounds that are bounds.
* `decodeCached_fst`: decoding with a cache answers as decoding without.
* `innermost`: the codec under the lists and ranges.
-/

import CatalogSchema.Proofs.Conversion.Encoding
import CatalogSchema.Proofs.Conversion.Intervals

namespace CatalogSchema

open Number Text

namespace Range

/-! ### Objects of ranges -/

theorem readBound_boundObject (value : Json) (inclusive : Bool) :
    readBound (some (boundObject value inclusive)) = .ok (some ⟨value, inclusive⟩) := rfl

theorem readBound_getD (bound : Option Json) :
    readBound (some (bound.getD .null)) = readBound bound := by
  cases bound <;> rfl

/-- An object is a range if it has no other members and both bounds are bounds; a missing one is
null then. -/
theorem checkObject_iff {members : List (String × Json)} {result : Json} :
    checkObject members = .ok result ↔
      (members.find? fun member => member.1 ≠ "start" ∧ member.1 ≠ "end") = none ∧
        ∃ first last, readBound (members.lookup "start") = .ok first ∧
          readBound (members.lookup "end") = .ok last ∧
          result = toObject ((members.lookup "start").getD .null)
            ((members.lookup "end").getD .null) := by
  unfold checkObject
  cases members.find? fun member => member.1 ≠ "start" ∧ member.1 ≠ "end" with
  | some member => simp
  | none =>
    cases readBound (members.lookup "start") with
    | error error => simp [bind, Except.bind]
    | ok first =>
      cases readBound (members.lookup "end") with
      | error error => simp [bind, Except.bind]
      | ok last => simp [bind, Except.bind, pure, Except.pure, eq_comm]

/-- The object of two bounds is checked and stays what it is. -/
theorem checkObject_toObject {start stop : Json} {first last : Option ObjectBound}
    (readStart : readBound (some start) = .ok first) (readStop : readBound (some stop) = .ok last) :
    checkObject [("end", stop), ("start", start)] = .ok (toObject start stop) :=
  checkObject_iff.2 ⟨rfl, first, last, readStart, readStop, rfl⟩

end Range

namespace Codec

/-! ### Lists and ranges -/

theorem decode_null (codec : Codec) : codec.decode .null = .ok .null := by
  unfold decode decodeWith
  cases codec <;> rfl

/-- **A list is decoded item by item.** -/
theorem decode_array_iff {typeName : String} {item : Codec} {elementType : QualifiedName}
    {value : Json} (present : value ≠ .null) {result : Json} :
    (Codec.array typeName item elementType).decode value = .ok result ↔
      ∃ items results, value = .array items ∧
        List.Forall₂ (fun part result => item.decode part = .ok result) items results ∧
        result = .array results := by
  unfold decode
  cases value with
  | null => exact absurd rfl present
  | array items =>
    rw [decodeWith, run_map_iff]
    simp only [run_mapM_iff, Json.array.injEq]
    constructor
    · rintro ⟨results, decoded, rfl⟩
      exact ⟨items, results, rfl, decoded, rfl⟩
    · rintro ⟨_, results, rfl, decoded, rfl⟩
      exact ⟨results, decoded, rfl⟩
  | _ => simp [decodeWith, throw, throwThe, MonadExceptOf.throw, ExceptT.run, ExceptT.mk, pure]

/-- Decodes one end of a literal: no text is no bound. -/
def decodeEdge (sub : Codec) (bound : Range.LiteralBound) : Conversion Json :=
  match bound.text with
  | none => .ok .null
  | some text => (Range.boundObject · bound.inclusive) <$> sub.decode (.string (String.ofList text))

/-- Decoding one end of a literal, as a step of decoding the literal. -/
theorem run_decodeBound (sub : Codec) (bound : Range.LiteralBound) :
    (decodeBound (m := Id) (sub.decodeWith fun literal => ExceptT.mk (Interval.parse literal))
      bound).run = sub.decodeEdge bound := by
  obtain ⟨inclusive, text | text⟩ := bound
  · rfl
  · unfold decodeBound decodeEdge
    dsimp only
    rw [run_bind, map_eq_pure_bind]
    rfl

/-- **What a range is decoded to**: null for the empty range, and the two bounds of a literal or an
object otherwise. -/
theorem decode_range_cases {constructor : QualifiedName} {sub : Codec} {value result : Json}
    (present : value ≠ .null) (decoded : (Codec.range constructor sub).decode value = .ok result) :
    (∃ literal, value = .string literal ∧ (result = .null ∨ ∃ first last start stop,
      sub.decodeEdge first = .ok start ∧ sub.decodeEdge last = .ok stop ∧
        result = Range.toObject start stop)) ∨
    ∃ members, value = .object members ∧ Range.checkObject members = .ok result := by
  unfold decode at decoded
  cases value with
  | null => exact absurd rfl present
  | object members => exact .inr ⟨members, rfl, decoded⟩
  | string literal =>
    rw [decodeWith, decodeRange] at decoded
    by_cases empty : Range.isEmptyLiteral (trim literal.toList) = true
    · rw [if_pos empty, run_pure_iff] at decoded
      exact .inl ⟨literal, rfl, .inl decoded.symm⟩
    · rw [if_neg empty] at decoded
      split at decoded
      · cases decoded
      · rename_i first last _
        rw [run_bind_iff] at decoded
        simp only [run_bind_iff, run_pure_iff, run_decodeBound] at decoded
        obtain ⟨start, decodedStart, stop, decodedStop, rfl⟩ := decoded
        exact .inl ⟨literal, rfl, .inr ⟨first, last, start, stop, decodedStart, decodedStop, rfl⟩⟩
  | _ => cases decoded

/-! ### Scalars -/

theorem decode_identity (type : QualifiedName) (value : Json) :
    (Codec.identity type).decode value = .ok value := by
  cases value <;> rfl

theorem run_intervalOf (value : Json) :
    (intervalOf (m := Id) (fun literal => ExceptT.mk (Interval.parse literal)) value).run =
      Interval.ofValue value := by
  cases value <;> rfl

section Scalars

variable {type : QualifiedName} {value : Json} (present : value ≠ .null)

include present

theorem decode_integer : (Codec.integer type).decode value = Json.ofInt <$> readInteger value := by
  cases value <;> first | rfl | exact absurd rfl present

theorem decode_float : (Codec.float type).decode value = Json.ofFinite <$> readFinite value := by
  cases value <;> first | rfl | exact absurd rfl present

theorem decode_boolean : (Codec.boolean type).decode value = Json.bool <$> readBoolean value := by
  cases value <;> first | rfl | exact absurd rfl present

theorem decode_bigNumber :
    (Codec.bigNumber type).decode value = Json.string <$> readBigNumber value := by
  cases value <;> first | rfl | exact absurd rfl present

theorem decode_point : (Codec.point type).decode value =
    (fun (x, y) => Json.object [("x", x), ("y", y)]) <$> Point.coordinates value := by
  cases value <;> first | rfl | exact absurd rfl present

theorem decode_interval_iff {result : Json} : (Codec.interval type).decode value = .ok result ↔
    ∃ interval, Interval.ofValue value = .ok interval ∧ interval.toJson = .ok result := by
  have step : (Codec.interval type).decode value =
      (intervalOf (m := Id) (fun literal => ExceptT.mk (Interval.parse literal)) value >>=
        fun interval => lift interval.toJson).run := by
    cases value <;> first | rfl | exact absurd rfl present
  rw [step, run_bind_iff, run_intervalOf]
  exact Iff.rfl

/-- An amount is a number: the one that is stored, or the normal form of the one that its text
denotes. -/
theorem decode_money_cases {result : Json}
    (decoded : (Codec.money type).decode value = .ok result) :
    ∃ number, result = .number number ∧
      (value = .number number ∨ ∃ amount, Json.ofNumber amount = .number number) := by
  cases value with
  | number number =>
    cases decoded
    exact ⟨number, rfl, .inl rfl⟩
  | string text =>
    change (parseMoney text >>= jsonOfBinary64) = .ok result at decoded
    cases parsed : parseMoney text with
    | error error =>
      rw [parsed] at decoded
      cases decoded
    | ok amount =>
      rw [parsed] at decoded
      cases amount with
      | finite amount =>
        cases decoded
        rcases Json.ofNumber_cases amount with ⟨integer, form, -⟩ | form
        · exact ⟨.integer integer, form, .inr ⟨amount, form⟩⟩
        · exact ⟨.float amount, form, .inr ⟨amount, form⟩⟩
      | infinite negative => cases decoded
      | notANumber => cases decoded
  | null => exact absurd rfl present
  | _ => cases decoded

end Scalars

/-! ### With a cache -/

section Cache

variable {σ : Type} {decodeSub : Json → ExceptT ConversionError (StateM σ) Json}
  {plain : Json → ExceptT ConversionError Id Json}

theorem decodeBound_agrees (each : ∀ value, Agrees (decodeSub value) (plain value))
    (bound : Range.LiteralBound) :
    Agrees (decodeBound decodeSub bound) (decodeBound plain bound) := by
  obtain ⟨inclusive, text | text⟩ := bound
  · exact .pure _
  · exact (each _).bind fun value => .pure _

/-- Whatever decodes the bounds of a range as another does, decodes its literals so. -/
theorem decodeRange_agrees (each : ∀ value, Agrees (decodeSub value) (plain value))
    (literal : List Char) :
    Agrees (decodeRange decodeSub literal) (decodeRange plain literal) := by
  unfold decodeRange
  by_cases empty : Range.isEmptyLiteral literal = true
  · rw [if_pos empty, if_pos empty]
    exact .pure _
  rw [if_neg empty, if_neg empty]
  cases Range.readLiteral literal with
  | error fault => exact .throw _
  | ok bounds =>
    obtain ⟨first, last⟩ := bounds
    exact (decodeBound_agrees each first).bind fun start =>
      (decodeBound_agrees each last).bind fun stop => .pure _

end Cache

theorem decodeWith_agrees (codec : Codec) (value : Json) :
    Agrees (codec.decodeWith readCached value)
      (codec.decodeWith (fun literal => ExceptT.mk (Interval.parse literal)) value) := by
  induction codec generalizing value with
  | array typeName item elementType ih =>
    cases value with
    | null => exact .pure _
    | array items => exact (Agrees.mapM ih items).bind fun items => .pure _
    | _ => exact .throw _
  | range constructor sub ih =>
    cases value with
    | null => exact .pure _
    | string literal => exact decodeRange_agrees ih _
    | object members => exact .lift _
    | _ => exact .throw _
  | interval type =>
    cases value with
    | null => exact .pure _
    | _ => exact (intervalOf_agrees _).bind fun interval => .lift _
  | document type structured =>
    cases structured with
    | true =>
      cases value with
      | string text => exact .lift _
      | _ => exact .pure _
    | false => cases value <;> exact .pure _
  | money type =>
    cases value with
    | null => exact .pure _
    | number value => exact .pure _
    | string text => exact .lift _
    | _ => exact .throw _
  | identity type => cases value <;> exact .pure _
  | _ =>
    cases value with
    | null => exact .pure _
    | _ => exact .lift _

/-- **Decoding with a cache** answers as decoding without. -/
theorem decodeCached_fst (codec : Codec) (value : Json) (cache : IntervalCache) :
    (codec.decodeCached value cache).1 = codec.decode value :=
  decodeWith_agrees codec value cache

/-- The codec under the lists and ranges. -/
def innermost : Codec → Codec
  | .array _ item _ => item.innermost
  | .range _ sub => sub.innermost
  | codec => codec

end Codec

end CatalogSchema
