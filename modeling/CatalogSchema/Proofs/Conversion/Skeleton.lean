/-
**Values reach SQL only as bound values.**

`Codec.skeleton` keeps of a value what the text of its encoding may depend on: where it is null, how
long its lists are, and which bounds its ranges have. `Codec.shapeOf` is the shape of every fragment
that a codec makes of values with a skeleton.

* `encode_shape`: an encoding has the shape of the skeleton.
* `encode_text_of_skeleton`: two values with one skeleton are encoded with the same text.
-/

import CatalogSchema.Proofs.Conversion.Encoding
import CatalogSchema.Proofs.Sql.Reading

namespace CatalogSchema

/-! ### Skeletons -/

/-- What is left of a value without its texts, numbers, flags and documents. -/
inductive Skeleton where
  | null
  /-- A value that is sent as a whole. -/
  | single
  | list (items : List Skeleton)
  /-- A range, with the skeletons of its bounds. -/
  | bounds (first last : Option Skeleton)

/-- The skeleton of the value at a bound; a missing bound and a null have none. -/
def Range.edgeSkeleton (skeleton : Json → Skeleton) : Option Json → Option Skeleton
  | some (.object members) => (members.lookup "value").map skeleton
  | _ => none

namespace Codec

/-- The skeleton of a value under a codec. -/
def skeleton : Codec → Json → Skeleton
  | _, .null => .null
  | .array _ item _, .array items => .list (items.map item.skeleton)
  | .range _ sub, .object members =>
    .bounds (Range.edgeSkeleton sub.skeleton (members.lookup "start"))
      (Range.edgeSkeleton sub.skeleton (members.lookup "end"))
  | _, _ => .single

/-- The shape of the fragments that a codec makes of values with a skeleton. -/
def shapeOf : Codec → Skeleton → Fragment
  | _, .null => .null
  | .array _ item elementType, .list items => .array (items.map item.shapeOf) elementType
  | .range constructor sub, .bounds first last =>
    .call constructor [first.elim .null sub.shapeOf, last.elim .null sub.shapeOf, .value .null]
  | .point constructor, _ => .call constructor [.value .null, .value .null]
  | .money type, _ => .cast (.cast (.value .null) (.inCatalog "numeric")) type
  | .identity type, _ | .integer type, _ | .float type, _ | .boolean type, _ | .bigNumber type, _
  | .interval type, _ | .document type _, _ => .cast (.value .null) type
  | .array _ _ _, _ | .range _ _, _ => .null

end Codec

/-! ### The shape of an encoding -/

/-- A bound that is accepted has the skeleton of its value. -/
theorem Range.edgeSkeleton_of_readBound (skeleton : Json → Skeleton) {edge : Option Json}
    {bound : Option Range.ObjectBound} (read : Range.readBound edge = .ok bound) :
    Range.edgeSkeleton skeleton edge = bound.map fun bound => skeleton bound.value := by
  unfold Range.readBound at read
  split at read
  · cases read
    rfl
  · cases read
    rfl
  · rename_i members
    dsimp only at read
    split at read
    · cases read
    · cases read
    · rename_i value inclusive foundValue foundFlag
      split at read
      · cases read
      · cases read
        simp [Range.edgeSkeleton, foundValue]
  · cases read

namespace Codec

/-- The shape of one end of a range. -/
theorem encodeEdge_shape {sub : Codec}
    (inner : ∀ {value fragment}, sub.encode value = .ok fragment →
      fragment.shape = sub.shapeOf (sub.skeleton value))
    {edge : Option Json} {bound : Option Range.ObjectBound} {fragment : Fragment}
    (read : Range.readBound edge = .ok bound) (encoded : sub.encodeEdge bound = .ok fragment) :
    fragment.shape = (Range.edgeSkeleton sub.skeleton edge).elim .null sub.shapeOf := by
  rw [Range.edgeSkeleton_of_readBound sub.skeleton read]
  cases bound with
  | none =>
    cases encoded
    rfl
  | some bound => exact inner encoded

/-- The shapes of the elements of a list. -/
theorem listShape_of_forall₂ {item : Codec}
    (inner : ∀ {value fragment}, item.encode value = .ok fragment →
      fragment.shape = item.shapeOf (item.skeleton value))
    {items : List Json} {elements : List Fragment}
    (encoded : List.Forall₂ (fun part element => item.encode part = .ok element) items elements) :
    Fragment.listShape elements = (items.map item.skeleton).map item.shapeOf := by
  induction encoded with
  | nil => rfl
  | cons first _ ih => rw [Fragment.listShape_cons, inner first, ih]; rfl

/-- **An encoding has the shape of the skeleton**: nothing else of a value enters it. -/
theorem encode_shape (codec : Codec) {value : Json} {fragment : Fragment}
    (encoded : codec.encode value = .ok fragment) :
    fragment.shape = codec.shapeOf (codec.skeleton value) := by
  induction codec generalizing value fragment with
  | identity type => cases value <;> cases encoded <;> rfl
  | integer type | float type | boolean type | bigNumber type | money type | point type =>
    -- Each reads the value and binds what it has read.
    cases value with
    | null => cases encoded; rfl
    | _ => obtain ⟨read, -, rfl⟩ := map_ok_iff.1 encoded; rfl
  | interval type =>
    cases value with
    | null => cases encoded; rfl
    | _ =>
      obtain ⟨interval, -, written⟩ := run_bind_iff.1 encoded
      cases written
      rfl
  | document type structured =>
    cases structured with
    | true => cases value <;> cases encoded <;> rfl
    | false =>
      cases value with
      | null => cases encoded; rfl
      | string text => obtain ⟨document, -, rfl⟩ := map_ok_iff.1 encoded; rfl
      | _ => cases encoded
  | array typeName item elementType ih =>
    by_cases absent : value = .null
    · subst absent
      rw [encode_null] at encoded
      cases encoded
      rfl
    · obtain ⟨items, elements, rfl, parts, rfl⟩ := (encode_array_iff absent).1 encoded
      rw [Fragment.shape, listShape_of_forall₂ ih parts]
      rfl
  | range constructor sub ih =>
    by_cases absent : value = .null
    · subst absent
      rw [encode_null] at encoded
      cases encoded
      rfl
    · obtain ⟨members, first, last, start, stop, rfl, read, encodedStart, readLast,
        encodedStop, rfl⟩ :=
        (encode_range_iff absent).1 encoded
      have startShape := encodeEdge_shape ih read encodedStart
      have stopShape := encodeEdge_shape ih readLast encodedStop
      rw [Fragment.shape, Fragment.listShape_cons, Fragment.listShape_cons, startShape, stopShape]
      rfl

end Codec

/-! ### One text for a skeleton -/

/-- Two fragments that differ in nothing but the values bound to their placeholders. -/
structure Fragment.DifferInValues (first second : Fragment) : Prop where
  shape : first.shape = second.shape
  text : first.compile.text = second.compile.text
  count : first.compile.parameters.length = second.compile.parameters.length

theorem Fragment.DifferInValues.of_shape {first second : Fragment}
    (same : first.shape = second.shape) :
    first.DifferInValues second where
  shape := same
  text := compile_text_eq_iff.2 same
  count := by
    rw [compile_parameters, compile_parameters]
    exact length_values_of_shape same

namespace Codec

/-- **Values reach SQL only as bound values.** The encodings of two values with one skeleton have
the same text and equally many bound values, with a cache of interval literals and without. -/
theorem encode_text_of_skeleton (codec : Codec) {value other : Json}
    (alike : codec.skeleton value = codec.skeleton other) :
    (∀ first second, codec.encode value = .ok first → codec.encode other = .ok second →
      first.DifferInValues second) ∧
    ∀ (cache later : IntervalCache) (first second : Fragment),
      (codec.encodeCached value cache).1 = .ok first →
      (codec.encodeCached other later).1 = .ok second → first.DifferInValues second := by
  have plain (first second : Fragment) (encoded : codec.encode value = .ok first)
      (encodedOther : codec.encode other = .ok second) : first.DifferInValues second := by
    refine .of_shape ?_
    rw [codec.encode_shape encoded, codec.encode_shape encodedOther, alike]
  refine ⟨plain, fun cache later first second encoded encodedOther => ?_⟩
  rw [encodeCached_fst] at encoded encodedOther
  exact plain first second encoded encodedOther

/-- Lists of ranges over texts. -/
def skeletonSample : Codec :=
  .array "_spans" (.range ⟨"app", "spans"⟩ (.identity (.inCatalog "text"))) ⟨"app", "spans"⟩

/-- A null and a range without an end, which starts at a text. -/
def skeletonValue (text : String) (inclusive : Bool) : Json :=
  .array [.null, .object [("end", .null), ("start", Range.boundObject (.string text) inclusive)]]

theorem encode_text_of_skeleton_sample :
    let tame := skeletonValue "a" true
    let wild := skeletonValue "$1); drop table t; --" false
    skeletonSample.skeleton tame = skeletonSample.skeleton wild ∧
      ∃ first second, skeletonSample.encode tame = .ok first ∧
        skeletonSample.encode wild = .ok second ∧
        (skeletonSample.encodeCached tame (.empty 1)).1 = .ok first ∧
        (skeletonSample.encodeCached wild (.empty 8)).1 = .ok second ∧
        first.DifferInValues second ∧ second.DifferInValues first := by
  intro tame wild
  have alike : skeletonSample.skeleton tame = skeletonSample.skeleton wild := rfl
  obtain ⟨plain, -⟩ := encode_text_of_skeleton skeletonSample alike
  obtain ⟨-, cached⟩ := encode_text_of_skeleton skeletonSample alike.symm
  exact ⟨alike, _, _, rfl, rfl, rfl, rfl, plain _ _ rfl rfl,
    cached (.empty 8) (.empty 1) _ _ rfl rfl⟩

end Codec

end CatalogSchema
