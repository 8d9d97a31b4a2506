/-
**How values are encoded.**

When an encoding succeeds, and of what it is made then. A cache of interval literals changes the
outcome of none.

* `encode_array_iff`, `encode_range_iff`: lists and ranges are encoded part by part.
* `Agrees`: a step that uses a state has the outcome of one that uses none.
* `encodeCached_fst`: encoding with a cache answers as encoding without.
-/

import CatalogSchema.Conversion.Codec
import Mathlib.Data.List.Forall2

namespace CatalogSchema

/-! ### Steps without a state -/

section Run

variable {ε α β : Type}

theorem run_bind (step : ExceptT ε Id α) (next : α → ExceptT ε Id β) :
    (step >>= next).run = Except.bind step.run fun value => (next value).run := by
  change (match step.run with
    | .ok value => (next value).run
    | .error error => .error error) = _
  cases step.run <;> rfl

theorem run_bind_iff {step : ExceptT ε Id α} {next : α → ExceptT ε Id β} {result : β} :
    (step >>= next).run = .ok result ↔
      ∃ value, step.run = .ok value ∧ (next value).run = .ok result := by
  change (match step.run with
    | .ok value => (next value).run
    | .error error => .error error) = .ok result ↔ _
  cases step.run with
  | ok value =>
    refine ⟨fun ran => ⟨value, rfl, ran⟩, ?_⟩
    rintro ⟨_, same, ran⟩
    cases same
    exact ran
  | error error =>
    refine ⟨nofun, ?_⟩
    rintro ⟨_, same, -⟩
    cases same

theorem run_map_iff {step : ExceptT ε Id α} {change : α → β} {result : β} :
    (change <$> step).run = .ok result ↔ ∃ value, step.run = .ok value ∧ change value = result := by
  change (match step.run with
    | .ok value => Except.ok (change value)
    | .error error => Except.error error) = Except.ok result ↔ _
  cases step.run with
  | ok value =>
    refine ⟨fun ran => ⟨value, rfl, Except.ok.inj ran⟩, ?_⟩
    rintro ⟨_, same, rfl⟩
    cases same
    rfl
  | error error =>
    refine ⟨nofun, ?_⟩
    rintro ⟨_, same, -⟩
    cases same

theorem run_pure_iff {value result : α} :
    (pure value : ExceptT ε Id α).run = .ok result ↔ value = result :=
  ⟨Except.ok.inj, congrArg Except.ok⟩

/-- A list is converted item by item. -/
theorem run_mapM_iff {convert : α → ExceptT ε Id β} {items : List α} {results : List β} :
    (items.mapM convert).run = .ok results ↔
      List.Forall₂ (fun item result => (convert item).run = .ok result) items results := by
  induction items generalizing results with
  | nil => rw [List.mapM_nil, run_pure_iff, List.forall₂_nil_left_iff, eq_comm]
  | cons item items ih =>
    simp only [List.mapM_cons, run_bind_iff, run_pure_iff, ih, List.forall₂_cons_left_iff]
    constructor
    · rintro ⟨first, converted, rest, convertedRest, rfl⟩
      exact ⟨first, rest, converted, convertedRest, rfl⟩
    · rintro ⟨first, rest, converted, convertedRest, rfl⟩
      exact ⟨first, converted, rest, convertedRest, rfl⟩

end Run

namespace Codec

theorem run_lift_iff {α : Type} {outcome : Conversion α} {result : α} :
    (lift (m := Id) outcome).run = .ok result ↔ outcome = .ok result := Iff.rfl

theorem map_ok_iff {α β : Type} {change : α → β} {outcome : Conversion α} {result : β} :
    change <$> outcome = .ok result ↔ ∃ value, outcome = .ok value ∧ change value = result := by
  cases outcome <;> simp [Functor.map, Except.map]

theorem bind_ok_iff {α β : Type} {outcome : Conversion α} {next : α → Conversion β} {result : β} :
    (outcome >>= next) = .ok result ↔ ∃ value, outcome = .ok value ∧ next value = .ok result := by
  cases outcome <;> simp [bind, Except.bind]

/-! ### Lists and ranges -/

theorem encode_null (codec : Codec) : codec.encode .null = .ok .null := by
  unfold encode encodeWith
  cases codec <;> rfl

/-- **A list is encoded item by item.** -/
theorem encode_array_iff {typeName : String} {item : Codec} {elementType : QualifiedName}
    {value : Json} (present : value ≠ .null) {fragment : Fragment} :
    (Codec.array typeName item elementType).encode value = .ok fragment ↔
      ∃ items elements, value = .array items ∧
        List.Forall₂ (fun part element => item.encode part = .ok element) items elements ∧
        fragment = .array elements elementType := by
  unfold encode
  cases value with
  | null => exact absurd rfl present
  | array items =>
    rw [encodeWith, run_bind_iff]
    simp only [run_mapM_iff, run_pure_iff, Json.array.injEq]
    constructor
    · rintro ⟨elements, encoded, rfl⟩
      exact ⟨items, elements, rfl, encoded, rfl⟩
    · rintro ⟨_, elements, rfl, encoded, rfl⟩
      exact ⟨elements, encoded, rfl⟩
  | _ => simp [encodeWith, throw, throwThe, MonadExceptOf.throw, ExceptT.run, ExceptT.mk, pure]

/-- Encodes one end of a range: no bound is null. -/
def encodeEdge (sub : Codec) : Option Range.ObjectBound → Conversion Fragment
  | none => .ok .null
  | some bound => sub.encode bound.value

/-- **A range is encoded bound by bound**, and its brackets are a value of their own. -/
theorem encode_range_iff {constructor : QualifiedName} {sub : Codec} {value : Json}
    (present : value ≠ .null) {fragment : Fragment} :
    (Codec.range constructor sub).encode value = .ok fragment ↔
      ∃ members first last start stop, value = .object members ∧
        Range.readBound (members.lookup "start") = .ok first ∧ sub.encodeEdge first = .ok start ∧
        Range.readBound (members.lookup "end") = .ok last ∧ sub.encodeEdge last = .ok stop ∧
        fragment = .call constructor [start, stop, .value (.string (Range.flags first last))] := by
  have edge (bound : Option Range.ObjectBound) :
      (encodeBound (m := Id) (sub.encodeWith fun literal => ExceptT.mk (Interval.parse literal))
        bound).run = sub.encodeEdge bound := by
    cases bound <;> rfl
  unfold encode
  cases value with
  | null => exact absurd rfl present
  | object members =>
    rw [encodeWith, run_bind_iff]
    simp only [run_bind_iff, run_lift_iff, run_pure_iff, edge, Json.object.injEq]
    constructor
    · rintro ⟨first, read, start, encoded, last, readLast, stop, encodedLast, rfl⟩
      exact ⟨members, first, last, start, stop, rfl, read, encoded, readLast, encodedLast, rfl⟩
    · rintro ⟨_, first, last, start, stop, rfl, read, encoded, readLast, encodedLast, rfl⟩
      exact ⟨first, read, start, encoded, last, readLast, stop, encodedLast, rfl⟩
  | _ => simp [encodeWith, throw, throwThe, MonadExceptOf.throw, ExceptT.run, ExceptT.mk, pure]

/-! ### With a cache -/

section Agrees

variable {σ α β : Type}

/-- A step that uses a state has the outcome of a step that uses none, whatever the state. -/
def Agrees (step : ExceptT ConversionError (StateM σ) α)
    (plain : ExceptT ConversionError Id α) : Prop :=
  ∀ state, (step.run.run state).1 = plain.run

theorem Agrees.pure (value : α) :
    Agrees (Pure.pure value : ExceptT ConversionError (StateM σ) α) (Pure.pure value) :=
  fun _ => rfl

theorem Agrees.throw (error : ConversionError) :
    Agrees (MonadExcept.throw error : ExceptT ConversionError (StateM σ) α)
      (MonadExcept.throw error) := fun _ => rfl

theorem Agrees.lift (outcome : Conversion α) :
    Agrees (Codec.lift outcome : ExceptT ConversionError (StateM σ) α) (Codec.lift outcome) :=
  fun _ => rfl

theorem Agrees.bind {step : ExceptT ConversionError (StateM σ) α}
    {plain : ExceptT ConversionError Id α} {next : α → ExceptT ConversionError (StateM σ) β}
    {plainNext : α → ExceptT ConversionError Id β} (first : Agrees step plain)
    (later : ∀ value, Agrees (next value) (plainNext value)) :
    Agrees (step >>= next) (plain >>= plainNext) := by
  intro state
  have outcome : (step.run.run state).1 = plain.run := first state
  rw [ExceptT.run_bind, ExceptT.run_bind, StateT.run_bind, ← outcome]
  generalize step.run.run state = ran
  rcases ran with ⟨error | value, after⟩
  · rfl
  · exact later value after

theorem Agrees.mapM {convert : α → ExceptT ConversionError (StateM σ) β}
    {plain : α → ExceptT ConversionError Id β} (each : ∀ item, Agrees (convert item) (plain item))
    (items : List α) : Agrees (items.mapM convert) (items.mapM plain) := by
  induction items with
  | nil => exact .pure []
  | cons item items ih =>
    rw [List.mapM_cons, List.mapM_cons]
    exact (each item).bind fun first => ih.bind fun rest => .pure (first :: rest)

/-- A lookup answers as reading the literal does. -/
theorem readCached_agrees (literal : String) :
    Agrees (readCached literal) (ExceptT.mk (Interval.parse literal)) :=
  fun cache => cache.read_fst literal

/-- Whatever encodes the bounds of a range as another does, encodes its ends so. -/
theorem encodeBound_agrees {encodeSub : Json → ExceptT ConversionError (StateM σ) Fragment}
    {plain : Json → ExceptT ConversionError Id Fragment}
    (each : ∀ value, Agrees (encodeSub value) (plain value)) (bound : Option Range.ObjectBound) :
    Agrees (encodeBound encodeSub bound) (encodeBound plain bound) := by
  cases bound with
  | none => exact .pure _
  | some bound => exact each bound.value

theorem intervalOf_agrees (value : Json) :
    Agrees (intervalOf readCached value)
      (intervalOf (fun literal => ExceptT.mk (Interval.parse literal)) value) := by
  cases value with
  | string literal => exact readCached_agrees literal
  | object members => exact .lift _
  | _ => exact .throw _

theorem encodeWith_agrees (codec : Codec) (value : Json) :
    Agrees (codec.encodeWith readCached value)
      (codec.encodeWith (fun literal => ExceptT.mk (Interval.parse literal)) value) := by
  induction codec generalizing value with
  | array typeName item elementType ih =>
    cases value with
    | null => exact .pure _
    | array items => exact (Agrees.mapM ih items).bind fun elements => .pure _
    | _ => exact .throw _
  | range constructor sub ih =>
    cases value with
    | null => exact .pure _
    | object members =>
      refine (Agrees.lift _).bind fun first => (encodeBound_agrees ih first).bind fun start => ?_
      exact (Agrees.lift _).bind fun last => (encodeBound_agrees ih last).bind fun stop => .pure _
    | _ => exact .throw _
  | interval type =>
    cases value with
    | null => exact .pure _
    | _ => exact (intervalOf_agrees _).bind fun interval => .pure _
  | document type structured =>
    cases structured with
    | true => cases value <;> exact .pure _
    | false =>
      cases value with
      | null => exact .pure _
      | string text => exact .lift _
      | _ => exact .throw _
  | identity type => cases value <;> exact .pure _
  | _ =>
    cases value with
    | null => exact .pure _
    | _ => exact .lift _

/-- **Encoding with a cache** answers as encoding without. -/
theorem encodeCached_fst (codec : Codec) (value : Json) (cache : IntervalCache) :
    (codec.encodeCached value cache).1 = codec.encode value :=
  encodeWith_agrees codec value cache

end Agrees

end Codec

end CatalogSchema
