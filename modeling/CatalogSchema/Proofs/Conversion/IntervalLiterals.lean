/-
**The literal of an interval denotes the interval.**

A literal is a row of phrases, each an amount and the name of its unit: one for every component that
is not zero, and `0 seconds` if all are.

* `Interval.phrases`, `literal_eq`: the phrases of an interval, and the literal made of them.
* `parse_phrases`: a row of phrases is read as its components.
* `accumulate_phrases`: added up, the phrases of an interval give the interval.
* `interval_literals_denote`: so a literal is parsed as the interval it was made of, and the object
  of an interval is sent as a literal that is decoded to the object.
-/

import CatalogSchema.Proofs.Conversion.Decoding
import CatalogSchema.Proofs.Conversion.IntervalNotation
import CatalogSchema.Proofs.Json.Tokens
import CatalogSchema.Proofs.Number.FreeText

namespace CatalogSchema

open Number Text

/-! ### Adding to nothing -/

namespace Number.Finite

/-- The sum of zero and a number that is not zero is the number. -/
theorem zero_add_of_nonzero {value : Finite} (nonzero : value.isZero = false) :
    (Finite.zero false).add value = .finite value := by
  have positive : value.units ≠ 0 := of_decide_eq_false nonzero
  have total : (Finite.zero false).signedUnits + value.signedUnits = value.signedUnits :=
    Int.zero_add _
  have apart : value.signedUnits ≠ 0 ∧ decide (value.signedUnits < 0) = value.negative ∧
      value.signedUnits.natAbs = value.units := by
    unfold signedUnits
    cases value.negative with
    | false => exact ⟨by simpa using positive, by simp, by simp⟩
    | true => exact ⟨by simpa using positive, by simp; omega, by simp⟩
  obtain ⟨present, sign, magnitude⟩ := apart
  unfold add
  simp only [total]
  rw [if_neg present, sign, magnitude]
  exact Binary64.ofQuotient_exact value Nat.one_pos (Nat.mul_one _).symm

end Number.Finite

namespace Interval

/-! ### Phrases -/

/-- An amount and the name of its unit, with what they denote. -/
structure Phrase where
  amount : List Char
  name : List Char
  value : Binary64
  unit : IntervalUnit

namespace Phrase

/-- The two words of a phrase. -/
def words (phrase : Phrase) : List (List Char) := [phrase.amount, phrase.name]

/-- The text of a phrase. -/
def text (phrase : Phrase) : List Char := phrase.amount ++ ' ' :: phrase.name

/-- The component that a phrase denotes. -/
def component (phrase : Phrase) : Component := .amount phrase.value phrase.unit

/-- The words of a phrase denote what they are to. -/
structure Proper (phrase : Phrase) : Prop where
  amount_ne_nil : phrase.amount ≠ []
  amount_numeral : ∀ c ∈ phrase.amount, isNumeralChar c = true
  value : readBinary64? phrase.amount = some phrase.value
  name_word : IsWord phrase.name
  unit : IntervalUnit.ofName? (String.ofList (phrase.name.map Char.toLower)) = some phrase.unit

namespace Proper

variable {phrase : Phrase} (proper : phrase.Proper)

include proper

theorem amount_word : IsWord phrase.amount :=
  ⟨proper.amount_ne_nil, fun c found => isBlank_of_isNumeralChar (proper.amount_numeral c found)⟩

theorem words_words : ∀ word ∈ phrase.words, IsWord word := by
  intro word listed
  rcases List.mem_cons.1 listed with rfl | listed
  · exact proper.amount_word
  · rw [List.mem_singleton.1 listed]
    exact proper.name_word

/-- An amount is no clock. -/
theorem amount_no_clock : phrase.amount.contains ':' = false := by
  refine Bool.eq_false_iff.2 fun colon => ?_
  have numeral := proper.amount_numeral ':' (List.contains_iff_mem.1 colon)
  cases numeral

/-- No word of a phrase turns the signs of the others. -/
theorem words_ne_ago : ∀ word ∈ phrase.words, word ≠ agoWord := by
  rintro word listed rfl
  rcases List.mem_cons.1 listed with same | listed
  · have numeral := proper.amount_numeral 'a' (same ▸ List.mem_cons_self)
    cases numeral
  · have unit := proper.unit
    rw [← List.mem_singleton.1 listed] at unit
    cases unit

end Proper

end Phrase

/-- Phrases with spaces between them are their words with spaces between them. -/
theorem join_texts (phrases : List Phrase) :
    join [' '] (phrases.map Phrase.text) = join [' '] (phrases.flatMap Phrase.words) := by
  induction phrases with
  | nil => rfl
  | cons phrase phrases ih =>
    cases phrases with
    | nil => simp [Phrase.text, Phrase.words, join]
    | cons next phrases =>
      rw [List.map_cons, List.map_cons, join_cons_cons, ← List.map_cons, ih]
      simp [Phrase.text, Phrase.words, join, List.flatMap_cons]

/-- **A row of phrases is read as its components.** -/
theorem readVerbose?_phrases {phrases : List Phrase} (each : ∀ phrase ∈ phrases, phrase.Proper) :
    readVerbose? (phrases.flatMap Phrase.words) = some (phrases.map Phrase.component) := by
  induction phrases with
  | nil => rfl
  | cons phrase phrases ih =>
    have proper := each phrase List.mem_cons_self
    have later := ih fun other listed => each other (.tail _ listed)
    have words : (phrase :: phrases).flatMap Phrase.words =
        phrase.amount :: phrase.name :: phrases.flatMap Phrase.words := rfl
    rw [words, readVerbose?_amount proper.amount_no_clock, proper.value, proper.unit, later]
    rfl

/-- **A literal made of phrases denotes the sum of their components.** -/
theorem parse?_phrases {phrases : List Phrase} (present : phrases ≠ [])
    (each : ∀ phrase ∈ phrases, phrase.Proper) :
    parse? (join [' '] (phrases.map Phrase.text)) = accumulate? (phrases.map Phrase.component) := by
  have words : ∀ word ∈ phrases.flatMap Phrase.words, IsWord word := fun word listed => by
    obtain ⟨phrase, found, inPhrase⟩ := List.mem_flatMap.1 listed
    exact (each phrase found).words_words word inPhrase
  have noAgo : (phrases.flatMap Phrase.words).getLast? ≠ some agoWord := fun last => by
    obtain ⟨phrase, found, inPhrase⟩ := List.mem_flatMap.1 (List.mem_of_mem_getLast? last)
    exact (each phrase found).words_ne_ago _ inPhrase rfl
  have read := readVerbose?_phrases each
  obtain ⟨phrase, others, rfl⟩ := List.exists_cons_of_ne_nil present
  -- The literal begins with the first amount, so neither `P` nor `@` stands at its start.
  have start : ∀ c ∈ phrase.amount.head?, c ≠ 'P' ∧ c ≠ '@' := fun c first => by
    have numeral := (each phrase List.mem_cons_self).amount_numeral c (List.mem_of_mem_head? first)
    constructor <;> rintro rfl <;> cases numeral
  have shape : (phrase :: others).flatMap Phrase.words =
      phrase.amount :: phrase.name :: others.flatMap Phrase.words := rfl
  rw [join_texts]
  rw [shape] at words noAgo read ⊢
  rw [parse?_join words start noAgo, read]
  rfl

/-! ### The phrases of an interval -/

/-- The phrase of a whole component, unless it is zero. -/
def wholePhrase (amount : Int) (name : String) (unit : IntervalUnit) : List Phrase :=
  if amount = 0 then [] else [⟨textOfInt amount, name.toList, .ofInt amount, unit⟩]

/-- The phrase of the seconds, unless they are zero. -/
def secondsPhrase (seconds : Binary64) : List Phrase :=
  if seconds.isZero then [] else [⟨seconds.plainText.toList, "seconds".toList, seconds, .seconds⟩]

/-- The phrases of the components that are not zero. -/
def nonzeroPhrases (interval : Interval) : List Phrase :=
  wholePhrase interval.years "years" .years ++ wholePhrase interval.months "months" .months ++
    wholePhrase interval.days "days" .days ++ wholePhrase interval.hours "hours" .hours ++
    wholePhrase interval.minutes "minutes" .minutes ++ secondsPhrase interval.seconds

/-- No seconds. -/
def zeroPhrase : Phrase := ⟨['0'], "seconds".toList, .zero, .seconds⟩

/-- The phrases of an interval. -/
def phrases (interval : Interval) : List Phrase :=
  if interval.nonzeroPhrases.isEmpty then [zeroPhrase] else interval.nonzeroPhrases

theorem phrases_ne_nil (interval : Interval) : interval.phrases ≠ [] := by
  unfold phrases
  split
  · nofun
  · rename_i some?
    exact fun empty => some? (List.isEmpty_iff.2 empty)

/-- **The literal of an interval is made of its phrases.** -/
theorem literal_eq (interval : Interval) :
    interval.literal = String.ofList (join [' '] (interval.phrases.map Phrase.text)) := by
  have whole (amount : Int) (name : String) (unit : IntervalUnit) :
      componentText amount name = (wholePhrase amount name unit).map Phrase.text := by
    unfold componentText wholePhrase
    split <;> rfl
  have seconds :
      secondsText interval.seconds = (secondsPhrase interval.seconds).map Phrase.text := by
    unfold secondsText secondsPhrase
    split <;> rfl
  have parts : componentText interval.years "years" ++ componentText interval.months "months" ++
      componentText interval.days "days" ++ componentText interval.hours "hours" ++
      componentText interval.minutes "minutes" ++ secondsText interval.seconds =
        interval.nonzeroPhrases.map Phrase.text := by
    unfold nonzeroPhrases
    rw [whole _ _ .years, whole _ _ .months, whole _ _ .days, whole _ _ .hours,
      whole _ _ .minutes, seconds]
    simp only [List.map_append]
  unfold literal phrases
  rw [parts]
  dsimp only
  rw [List.isEmpty_map]
  split <;> rfl

/-- The whole components have at most 53 bits, and the seconds are finite. -/
structure Exact (interval : Interval) (seconds : Finite) : Prop where
  seconds : interval.seconds = .finite seconds
  minutes : interval.minutes.natAbs ≤ Nat.pow 2 53
  hours : interval.hours.natAbs ≤ Nat.pow 2 53
  days : interval.days.natAbs ≤ Nat.pow 2 53
  months : interval.months.natAbs ≤ Nat.pow 2 53
  years : interval.years.natAbs ≤ Nat.pow 2 53

/-- The text of an integer is a row of digits, perhaps after a sign. -/
theorem textOfInt_numeral (amount : Int) :
    textOfInt amount ≠ [] ∧ ∀ c ∈ textOfInt amount, isNumeralChar c = true := by
  have digits : ∀ c ∈ digitsOfNat amount.natAbs, isNumeralChar c = true := fun c found =>
    isNumeralChar_of_isDigit (isDigit_of_mem_digitsOfNat found)
  unfold textOfInt
  split
  · refine ⟨nofun, fun c found => ?_⟩
    rcases List.mem_cons.1 found with rfl | found
    · rfl
    · exact digits c found
  · exact ⟨digitsOfNat_ne_nil _, digits⟩

/-- The plain text of a finite number is made of the characters of numbers. -/
theorem plainText_numeral (value : Finite) :
    plainLayout.text value ≠ [] ∧ ∀ c ∈ plainLayout.text value, isNumeralChar c = true := by
  obtain ⟨spelling, proper, -, text, -⟩ := plainLayout.text_spelling value
  have numeral : ∀ c ∈ spelling.text, isNumeralChar c = true := fun c found => by
    rcases proper.mem_text found with digit | rfl | rfl | rfl | rfl
    · exact isNumeralChar_of_isDigit digit
    all_goals rfl
  obtain ⟨c, more, shape, -⟩ := proper.text_eq_cons
  rw [text]
  split
  · refine ⟨nofun, fun c found => ?_⟩
    rcases List.mem_cons.1 found with rfl | found
    · rfl
    · exact numeral c found
  · exact ⟨by rw [shape]; nofun, numeral⟩

theorem proper_wholePhrase {amount : Int} (small : amount.natAbs ≤ Nat.pow 2 53) {name : String}
    {unit : IntervalUnit} (word : IsWord name.toList)
    (named : IntervalUnit.ofName? (String.ofList (name.toList.map Char.toLower)) = some unit) :
    ∀ phrase ∈ wholePhrase amount name unit, phrase.Proper := by
  intro phrase listed
  unfold wholePhrase at listed
  split at listed
  · cases listed
  · rw [List.mem_singleton.1 listed]
    obtain ⟨present, numeral⟩ := textOfInt_numeral amount
    have few : (digitsOfNat amount.natAbs).length ≤ 16 :=
      length_digitsOfNat_le (Nat.lt_of_le_of_lt small (by decide)) (by omega)
    have value := readBinary64?_textOfInt (few.trans (by omega))
    generalize Binary64.ofInt amount = number at value ⊢
    exact ⟨present, numeral, value, word, named⟩

theorem proper_secondsPhrase (seconds : Finite) :
    ∀ phrase ∈ secondsPhrase (.finite seconds), phrase.Proper := by
  intro phrase listed
  unfold secondsPhrase at listed
  split at listed
  · cases listed
  · rw [List.mem_singleton.1 listed]
    obtain ⟨present, numeral⟩ := plainText_numeral seconds
    have text : (Binary64.plainText (.finite seconds)).toList = plainLayout.text seconds :=
      String.toList_ofList
    have value := readBinary64?_layout plainLayout seconds
    have name : IsWord "seconds".toList := by decide
    rw [← text] at present numeral value
    exact ⟨present, numeral, value, name, rfl⟩

/-- **The phrases of an interval denote what they are to.** -/
theorem proper_phrases {interval : Interval} {seconds : Finite} (exact : interval.Exact seconds) :
    ∀ phrase ∈ interval.phrases, phrase.Proper := by
  have nonzero : ∀ phrase ∈ interval.nonzeroPhrases, phrase.Proper := by
    unfold nonzeroPhrases
    rw [exact.seconds]
    simp only [List.forall_mem_append]
    exact ⟨⟨⟨⟨⟨proper_wholePhrase exact.years (by decide) rfl,
      proper_wholePhrase exact.months (by decide) rfl⟩,
      proper_wholePhrase exact.days (by decide) rfl⟩,
      proper_wholePhrase exact.hours (by decide) rfl⟩,
      proper_wholePhrase exact.minutes (by decide) rfl⟩, proper_secondsPhrase seconds⟩
  unfold phrases
  split
  · intro phrase listed
    rw [List.mem_singleton.1 listed]
    exact ⟨nofun, List.all_eq_true.1 rfl, rfl, by decide, rfl⟩
  · exact nonzero

/-! ### Adding the phrases up -/

/-- Adding the phrase of a whole component to none of it gives the component. -/
theorem foldlM_wholePhrase {amount : Int} (small : amount.natAbs ≤ Nat.pow 2 53) (name : String)
    (unit : IntervalUnit) {interval : Interval} (store : Int → Interval)
    (nothing : store 0 = interval)
    (adds : ∀ value, interval.addAmount? value unit = (addWhole? 0 value 1).map store) :
    ((wholePhrase amount name unit).map Phrase.component).foldlM addComponent? interval =
      some (store amount) := by
  unfold wholePhrase
  split
  · rename_i zero
    rw [zero, nothing]
    rfl
  · have inRange : int64? amount = some amount := by
      have bits : Nat.pow 2 53 < Nat.pow 2 63 := by decide
      exact if_pos ⟨by omega, by omega⟩
    obtain ⟨number, exact, isWhole, truncate⟩ := Finite.ofInt_of_small small
    have whole : addWhole? 0 number 1 = some amount := by
      unfold addWhole? whole?
      rw [if_pos isWhole, truncate, inRange]
      show (int64? (amount * 1)).bind (fun scaled => int64? (0 + scaled)) = _
      rw [Int.mul_one, inRange, Option.bind_some, Int.zero_add, inRange]
    have added : interval.addComponent? (.amount (.ofInt amount) unit) = some (store amount) := by
      rw [addComponent?, exact]
      show interval.addAmount? number unit = _
      rw [adds, whole]
      rfl
    simp only [List.map_cons, List.map_nil, List.foldlM_cons, List.foldlM_nil,
      Phrase.component, added, Option.bind_eq_bind, Option.bind_some, Option.pure_def]

/-- Adding the phrase of the seconds to no seconds gives the seconds; zero has no sign then. -/
theorem foldlM_secondsPhrase (seconds : Finite) {interval : Interval}
    (nothing : interval.seconds = .zero) :
    ((secondsPhrase (.finite seconds)).map Phrase.component).foldlM addComponent? interval =
      some { interval with seconds := .finite seconds.plainZero } := by
  unfold secondsPhrase
  split
  · rename_i zero
    have plain : seconds.plainZero = .zero false := Finite.plainZero_of_isZero zero
    rw [plain]
    obtain ⟨_, _, _, _, _, _⟩ := interval
    cases nothing
    rfl
  · rename_i nonzero
    replace nonzero : seconds.isZero = false := Bool.eq_false_iff.2 nonzero
    show (interval.addSeconds? (.finite seconds)).bind some = _
    unfold addSeconds?
    rw [nothing]
    dsimp only [Binary64.zero]
    rw [Finite.zero_add_of_nonzero nonzero, Finite.plainZero_of_nonzero nonzero]
    rfl

/-- **The phrases of an interval add up to it**; zero seconds have no sign then. -/
theorem accumulate?_phrases {interval : Interval} {seconds : Finite}
    (exact : interval.Exact seconds) :
    accumulate? (interval.phrases.map Phrase.component) =
      some { interval with seconds := .finite seconds.plainZero } := by
  have nonzero : accumulate? (interval.nonzeroPhrases.map Phrase.component) =
      some { interval with seconds := .finite seconds.plainZero } := by
    obtain ⟨_, minutes, hours, days, months, years⟩ := interval
    obtain ⟨rfl, smallMinutes, smallHours, smallDays, smallMonths, smallYears⟩ := exact
    unfold accumulate? nonzeroPhrases
    have someYears := foldlM_wholePhrase smallYears "years" .years
      (fun years => ⟨.zero, 0, 0, 0, 0, years⟩) (rfl : _ = zero) fun _ => rfl
    have someMonths := foldlM_wholePhrase smallMonths "months" .months
      (fun months => ⟨.zero, 0, 0, 0, months, years⟩) rfl fun _ => rfl
    have someDays := foldlM_wholePhrase smallDays "days" .days
      (fun days => ⟨.zero, 0, 0, days, months, years⟩) rfl fun _ => rfl
    have someHours := foldlM_wholePhrase smallHours "hours" .hours
      (fun hours => ⟨.zero, 0, hours, days, months, years⟩) rfl fun _ => rfl
    have someMinutes := foldlM_wholePhrase smallMinutes "minutes" .minutes
      (fun minutes => ⟨.zero, minutes, hours, days, months, years⟩) rfl fun _ => rfl
    simp only [List.map_append, List.foldlM_append, Option.bind_eq_bind, someYears,
      someMonths, someDays, someHours, someMinutes, Option.bind_some]
    exact foldlM_secondsPhrase seconds rfl
  unfold phrases
  split
  · rename_i none
    rw [List.isEmpty_iff.1 none] at nonzero
    exact nonzero
  · exact nonzero

/-! ### Literals and objects -/

/-- **The literal of an interval is parsed as the interval**; zero seconds have no sign then. -/
theorem parse_literal {interval : Interval} {seconds : Finite} (exact : interval.Exact seconds) :
    parse interval.literal = .ok { interval with seconds := .finite seconds.plainZero } := by
  have parsed : parse? interval.literal.toList =
      some { interval with seconds := .finite seconds.plainZero } := by
    rw [literal_eq, String.toList_ofList,
      parse?_phrases interval.phrases_ne_nil (proper_phrases exact), accumulate?_phrases exact]
  unfold parse
  rw [parsed]

/-- The sign of zero seconds does not show in the object. -/
theorem toJson_plainZero (interval : Interval) {seconds : Finite}
    (finite : interval.seconds = .finite seconds) :
    toJson { interval with seconds := .finite seconds.plainZero } = interval.toJson := by
  rw [toJson_eq, toJson_eq, finite]
  simp only [jsonOfBinary64, Json.ofNumber_plainZero]

/-- An interval is exact if the whole numbers of its object are small. -/
theorem exact_of_toJson {interval : Interval} {members : List (String × Json)}
    (written : interval.toJson = .ok (.object members))
    (small : ∀ name amount, (name, Json.ofInt amount) ∈ members → name ≠ "seconds" →
      amount.natAbs ≤ Nat.pow 2 53) : ∃ seconds, interval.Exact seconds := by
  obtain ⟨seconds, minutes, hours, days, months, years⟩ := interval
  rw [toJson_eq] at written
  cases seconds with
  | finite seconds =>
    cases written
    exact ⟨seconds, rfl, small "minutes" _ (by simp) (by decide),
      small "hours" _ (by simp) (by decide),
      small "days" _ (by simp) (by decide), small "months" _ (by simp) (by decide),
      small "years" _ (by simp) (by decide)⟩
  | infinite negative => cases written
  | notANumber => cases written

end Interval

namespace Codec

/-- The object of an interval is sent as the literal of the interval. -/
theorem encode_interval_object {type : QualifiedName} {members : List (String × Json)}
    {interval : Interval} (read : Interval.ofJson (.object members) = .ok interval) :
    (Codec.interval type).encode (.object members) =
      .ok (.cast (.value (.string interval.literal)) type) := by
  unfold encode
  rw [encodeWith, run_bind, run_intervalOf, Interval.ofValue, read]
  · rfl
  · intro missing
    cases missing

/-- **Intervals survive being sent.** The literal of an interval of whole components of at most 53
bits and finite seconds is parsed as the interval, zero seconds without a sign; and if an interval
codec decodes a value to an object of such components, then it sends the object as a literal that it
decodes to the object. -/
theorem interval_literals_denote :
    (∀ (interval : Interval) (seconds : Finite), interval.Exact seconds →
      Interval.parse interval.literal =
        .ok { interval with seconds := .finite seconds.plainZero }) ∧
    ∀ (type : QualifiedName) (value : Json) (members : List (String × Json)),
      (Codec.interval type).decode value = .ok (.object members) →
      (∀ name amount, (name, Json.ofInt amount) ∈ members → name ≠ "seconds" →
        amount.natAbs ≤ Nat.pow 2 53) →
      ∃ literal,
        (Codec.interval type).encode (.object members) =
          .ok (.cast (.value (.string literal)) type) ∧
          (Codec.interval type).decode (.string literal) = .ok (.object members) := by
  refine ⟨fun interval seconds exact => Interval.parse_literal exact,
    fun type value members decoded small => ?_⟩
  have present : value ≠ .null := by
    rintro rfl
    rw [decode_null] at decoded
    cases decoded
  obtain ⟨interval, read, written⟩ := (decode_interval_iff present).1 decoded
  obtain ⟨_, again, same, readAgain, writtenAgain⟩ :=
    Interval.ofJson_toJson (Interval.inRange_of_ofValue read) written
  cases same
  obtain ⟨seconds, exact⟩ := Interval.exact_of_toJson writtenAgain small
  have literal : Json.string again.literal ≠ .null := nofun
  refine ⟨again.literal, encode_interval_object readAgain, (decode_interval_iff literal).2 ⟨_,
    Interval.parse_literal exact, ?_⟩⟩
  rw [Interval.toJson_plainZero again exact.seconds, writtenAgain]

/-- Components of both signs, none of two units, and half a second; and an object that came from a
literal. -/
theorem interval_literals_denote_sample :
    Interval.Exact ⟨.finite half, -3, 0, 1, 0, -2⟩ half ∧
    Interval.parse (Interval.literal ⟨.finite half, -3, 0, 1, 0, -2⟩) =
      .ok ⟨.finite half.plainZero, -3, 0, 1, 0, -2⟩ ∧
    (Codec.interval (.inCatalog "interval")).decode (.string "@ 1 day 2 hours ago") =
      .ok (Interval.object (.ofInt 0) (.ofInt 0) (.ofInt (-2)) (.ofInt (-1))
        (.ofInt 0) (.ofInt 0)) ∧
    ∃ literal,
      (Codec.interval (.inCatalog "interval")).encode
          (Interval.object (.ofInt 0) (.ofInt 0) (.ofInt (-2)) (.ofInt (-1))
            (.ofInt 0) (.ofInt 0)) =
        .ok (.cast (.value (.string literal)) (.inCatalog "interval")) ∧
      (Codec.interval (.inCatalog "interval")).decode (.string literal) =
        .ok (Interval.object (.ofInt 0) (.ofInt 0) (.ofInt (-2)) (.ofInt (-1)) (.ofInt 0)
          (.ofInt 0)) := by
  have exact : Interval.Exact ⟨.finite half, -3, 0, 1, 0, -2⟩ half :=
    ⟨rfl, by decide, by decide, by decide, by decide, by decide⟩
  have decoded : (Codec.interval (.inCatalog "interval")).decode (.string "@ 1 day 2 hours ago") =
      .ok (Interval.object (.ofInt 0) (.ofInt 0) (.ofInt (-2)) (.ofInt (-1)) (.ofInt 0)
        (.ofInt 0)) := by
    have parsed : Interval.parse? "@ 1 day 2 hours ago".toList =
        some ⟨.finite (.zero true), 0, -2, -1, 0, 0⟩ := by decide +kernel
    have text : Json.string "@ 1 day 2 hours ago" ≠ .null := nofun
    refine (decode_interval_iff text).2 ⟨⟨.finite (.zero true), 0, -2, -1, 0, 0⟩, ?_, ?_⟩
    · rw [Interval.ofValue, Interval.parse, parsed]
    · have none : Json.ofNumber (.zero true) = .ofInt 0 := by
        rw [Json.ofNumber_of_isInteger (Finite.isInteger_of_isZero rfl)]
        exact congrArg Json.ofInt (by decide +kernel : (Finite.zero true).truncate = 0)
      rw [Interval.toJson_eq, jsonOfBinary64, none]
      rfl
  refine ⟨exact, interval_literals_denote.1 _ _ exact, decoded,
    interval_literals_denote.2 _ _ _ decoded fun name amount listed _ => ?_⟩
  simp only [List.mem_cons, Prod.mk.injEq, Json.ofInt, Json.number.injEq, JsonNumber.integer.injEq,
    List.not_mem_nil, or_false] at listed
  have few : 2 ≤ Nat.pow 2 53 := by decide
  omega

end Codec

end CatalogSchema
