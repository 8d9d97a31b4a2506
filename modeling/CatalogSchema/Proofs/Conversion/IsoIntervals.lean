/-
**The ISO notation says what the verbose notation says.**

A row of entries, first of date units and then of time units, is written in both notations, with the
same amounts. An amount is any text of digits, points and minus signs; it need not be a number.

* `Entry`: an amount and a unit that has a letter and a name.
* `readIso?_entries`, `readVerbose?_entries`: each notation is read entry by entry.
* `notations_agree`: so both literals denote the same interval or none.
-/

import CatalogSchema.Proofs.Conversion.IntervalNotation
import CatalogSchema.Proofs.Conversion.Numbers

namespace CatalogSchema.Interval

open Number Text

/-! ### Entries -/

/-- The units that stand before the time mark of the ISO notation, and those that stand behind
it. -/
inductive IsoUnit : Bool → Type where
  | years : IsoUnit false
  | months : IsoUnit false
  | weeks : IsoUnit false
  | days : IsoUnit false
  | hours : IsoUnit true
  | minutes : IsoUnit true
  | seconds : IsoUnit true

namespace IsoUnit

variable {inTime : Bool}

/-- The letter of a unit. -/
def letter : IsoUnit inTime → Char
  | .years => 'Y'
  | .months => 'M'
  | .weeks => 'W'
  | .days => 'D'
  | .hours => 'H'
  | .minutes => 'M'
  | .seconds => 'S'

/-- The name of a unit. -/
def name : IsoUnit inTime → String
  | .years => "years"
  | .months => "months"
  | .weeks => "weeks"
  | .days => "days"
  | .hours => "hours"
  | .minutes => "minutes"
  | .seconds => "seconds"

/-- The unit that is meant. -/
def unit : IsoUnit inTime → IntervalUnit
  | .years => .years
  | .months => .months
  | .weeks => .weeks
  | .days => .days
  | .hours => .hours
  | .minutes => .minutes
  | .seconds => .seconds

theorem ofDesignator?_letter (unit : IsoUnit inTime) :
    IntervalUnit.ofDesignator? inTime unit.letter = some unit.unit := by
  cases unit <;> rfl

theorem ofName?_name (unit : IsoUnit inTime) :
    IntervalUnit.ofName? (String.ofList (unit.name.toList.map Char.toLower)) = some unit.unit := by
  cases unit <;> rfl

theorem isWord_name (unit : IsoUnit inTime) : IsWord unit.name.toList := by
  cases unit <;> decide

end IsoUnit

/-- An amount of a unit. -/
structure Entry (inTime : Bool) where
  amount : List Char
  unit : IsoUnit inTime
  present : amount ≠ []
  chars : ∀ c ∈ amount, isAmountChar c = true

namespace Entry

variable {inTime : Bool}

/-- An entry in the ISO notation. -/
def iso (entry : Entry inTime) : List Char := entry.amount ++ [entry.unit.letter]

/-- The two words of an entry in the verbose notation. -/
def words (entry : Entry inTime) : List (List Char) := [entry.amount, entry.unit.name.toList]

/-- The component that an entry denotes, if its amount is a number. -/
def component? (entry : Entry inTime) : Option Component :=
  (readBinary64? entry.amount).map (.amount · entry.unit.unit)

end Entry

/-! ### Characters and words -/

theorem isNumeralChar_of_isAmountChar {c : Char} (char : isAmountChar c = true) :
    isNumeralChar c = true := by
  have mark : (c.isDigit = true ∨ c = '.') ∨ c = '-' := by simpa [isAmountChar] using char
  rcases mark with (digit | rfl) | rfl
  · exact isNumeralChar_of_isDigit digit
  · rfl
  · rfl

namespace Entry

variable {inTime : Bool} (entry : Entry inTime)

theorem isWord_amount : IsWord entry.amount :=
  ⟨entry.present, fun c listed =>
    isBlank_of_isNumeralChar (isNumeralChar_of_isAmountChar (entry.chars c listed))⟩

theorem isWord_words : ∀ word ∈ entry.words, IsWord word :=
  List.forall_mem_cons.2 ⟨entry.isWord_amount, List.forall_mem_singleton.2 entry.unit.isWord_name⟩

theorem noColon_amount : entry.amount.contains ':' = false := by
  refine Bool.eq_false_iff.2 fun colon => ?_
  have char := entry.chars ':' (List.contains_iff_mem.1 colon)
  cases char

theorem visible_iso : ∀ c ∈ entry.iso, isBlank c = false :=
  List.forall_mem_append.2
    ⟨entry.isWord_amount.2, List.forall_mem_singleton.2 (by cases entry.unit <;> rfl)⟩

/-- No word of an entry turns the signs of the others. -/
theorem words_ne_agoWord : ∀ word ∈ entry.words, word ≠ agoWord := by
  refine List.forall_mem_cons.2 ⟨fun same => ?_, List.forall_mem_singleton.2 ?_⟩
  · have char := entry.chars 'a' (same ▸ List.mem_cons_self)
    cases char
  · cases entry.unit <;> decide

/-- An amount begins neither as the ISO notation does nor with an `@`. -/
theorem amount_start : ∀ c ∈ entry.amount.head?, c ≠ 'P' ∧ c ≠ '@' := by
  intro c first
  have char := entry.chars c (List.mem_of_mem_head? first)
  constructor <;> rintro rfl <;> cases char

end Entry

/-! ### Reading entries -/

section Reading

variable {inTime : Bool}

theorem readIso?_entry (entry : Entry inTime) (text : List Char) :
    readIso? inTime [] (entry.iso ++ text) =
      entry.component?.bind fun component => (readIso? inTime [] text).map (component :: ·) := by
  have shape : entry.iso ++ text = entry.amount ++ entry.unit.letter :: text := List.append_assoc ..
  rw [shape, readIso?_amount entry.chars entry.unit.ofDesignator?_letter, Entry.component?]
  cases readBinary64? entry.amount <;> rfl

theorem readVerbose?_entry (entry : Entry inTime) (words : List (List Char)) :
    readVerbose? (entry.words ++ words) =
      entry.component?.bind fun component => (readVerbose? words).map (component :: ·) := by
  have shape : entry.words ++ words = entry.amount :: entry.unit.name.toList :: words := rfl
  rw [shape, readVerbose?_amount entry.noColon_amount, entry.unit.ofName?_name, Entry.component?]
  cases readBinary64? entry.amount <;> rfl

/-- **Whatever is read entry by entry** is read as the components of all entries, and then what
follows. -/
theorem read_entries {α : Type} {read : List α → Option (List Component)}
    {write : Entry inTime → List α} (first : ∀ entry rest, read (write entry ++ rest) =
      entry.component?.bind fun component => (read rest).map (component :: ·))
    (entries : List (Entry inTime)) (rest : List α) :
    read (entries.flatMap write ++ rest) =
      (entries.mapM Entry.component?).bind fun components => (read rest).map (components ++ ·) := by
  induction entries with
  | nil =>
    rw [List.flatMap_nil, List.nil_append, List.mapM_nil]
    cases read rest <;> rfl
  | cons entry entries ih =>
    rw [List.flatMap_cons, List.append_assoc, first, ih, List.mapM_cons]
    cases entry.component? with
    | none => rfl
    | some component =>
      cases entries.mapM Entry.component? with
      | none => rfl
      | some components => cases read rest <;> rfl

end Reading

/-! ### Both notations -/

section Literals

variable (dates : List (Entry false)) (times : List (Entry true))

/-- What stands behind the entries of date units: the time mark and the entries of time units, if
there are any. -/
def isoTimes : List Char := if times.isEmpty then [] else 'T' :: times.flatMap Entry.iso

/-- Entries in the ISO notation. -/
def isoLiteral : String := String.ofList ('P' :: (dates.flatMap Entry.iso ++ isoTimes times))

/-- The words of entries in the verbose notation. -/
def verboseWords : List (List Char) := dates.flatMap Entry.words ++ times.flatMap Entry.words

/-- Entries in the verbose notation. -/
def verboseLiteral : String := String.ofList (join [' '] (verboseWords dates times))

theorem visible_isoTimes : ∀ c ∈ isoTimes times, isBlank c = false := by
  unfold isoTimes
  split
  · exact List.forall_mem_nil _
  · refine List.forall_mem_cons.2 ⟨rfl, fun c listed => ?_⟩
    obtain ⟨entry, -, inEntry⟩ := List.mem_flatMap.1 listed
    exact entry.visible_iso c inEntry

/-- The time mark is no entry, and what stands behind it is read entry by entry. -/
theorem readIso?_isoTimes : readIso? false [] (isoTimes times) = times.mapM Entry.component? := by
  unfold isoTimes
  split
  · rename_i none
    rw [List.isEmpty_iff.1 none]
    rfl
  · have read := read_entries readIso?_entry times []
    rw [List.append_nil] at read
    rw [readIso?, if_pos ⟨rfl, rfl, rfl⟩, read]
    cases times.mapM Entry.component? <;> simp [readIso?]

/-- **The ISO literal is read as the entries denote.** -/
theorem parse?_isoLiteral : parse? (isoLiteral dates times).toList =
    (readVerbose? (verboseWords dates times)).bind accumulate? := by
  have visible : ∀ c ∈ 'P' :: (dates.flatMap Entry.iso ++ isoTimes times), isBlank c = false := by
    refine List.forall_mem_cons.2
      ⟨rfl, List.forall_mem_append.2 ⟨fun c listed => ?_, visible_isoTimes times⟩⟩
    obtain ⟨entry, -, inEntry⟩ := List.mem_flatMap.1 listed
    exact entry.visible_iso c inEntry
  have later := read_entries readVerbose?_entry times []
  rw [List.append_nil] at later
  have both : readIso? false [] (dates.flatMap Entry.iso ++ isoTimes times) =
      readVerbose? (verboseWords dates times) := by
    rw [verboseWords, read_entries readIso?_entry, read_entries readVerbose?_entry,
      readIso?_isoTimes, later]
    cases times.mapM Entry.component? <;> simp [readVerbose?]
  rw [isoLiteral, String.toList_ofList, ← both, parse?, trim_of_no_blank visible]
  rfl

variable {dates times}

/-- **The verbose literal is read as the entries denote**, if there are any. -/
theorem parse?_verboseLiteral (present : dates ≠ [] ∨ times ≠ []) :
    parse? (verboseLiteral dates times).toList =
      (readVerbose? (verboseWords dates times)).bind accumulate? := by
  have each : ∀ word ∈ verboseWords dates times, IsWord word ∧ word ≠ agoWord := by
    refine List.forall_mem_append.2 ⟨fun word listed => ?_, fun word listed => ?_⟩
    all_goals
      obtain ⟨entry, -, inEntry⟩ := List.mem_flatMap.1 listed
      exact ⟨entry.isWord_words word inEntry, entry.words_ne_agoWord word inEntry⟩
  have last : (verboseWords dates times).getLast? ≠ some agoWord := fun last =>
    (each _ (List.mem_of_mem_getLast? last)).2 rfl
  -- The first word is the amount of the first entry, of whichever kind.
  obtain ⟨word, words, shape, start⟩ : ∃ word words, verboseWords dates times = word :: words ∧
      ∀ c ∈ word.head?, c ≠ 'P' ∧ c ≠ '@' := by
    unfold verboseWords
    cases dates with
    | cons entry dates => exact ⟨entry.amount, _, rfl, entry.amount_start⟩
    | nil =>
      cases times with
      | cons entry times => exact ⟨entry.amount, _, rfl, entry.amount_start⟩
      | nil => exact absurd rfl (present.resolve_left (absurd rfl))
  rw [shape] at each last
  rw [verboseLiteral, String.toList_ofList, shape]
  exact parse?_join (fun other listed => (each other listed).1) start last

/-- **The two notations agree.** Entries, first of date units and then of time units, are parsed in
the ISO notation exactly if they are in the verbose one, and denote the same interval. -/
theorem notations_agree (dates : List (Entry false)) (times : List (Entry true))
    (present : dates ≠ [] ∨ times ≠ []) (interval : Interval) :
    parse (isoLiteral dates times) = .ok interval ↔
      parse (verboseLiteral dates times) = .ok interval := by
  rw [parse_eq_ok_iff, parse_eq_ok_iff, parse?_isoLiteral, parse?_verboseLiteral present]

end Literals

/-- A month, and two weeks less. -/
def someDates : List (Entry false) :=
  [⟨['1'], .months, nofun, List.all_eq_true.1 rfl⟩,
    ⟨['-', '2'], .weeks, nofun, List.all_eq_true.1 rfl⟩]

/-- Three minutes and a half second. -/
def someTimes : List (Entry true) :=
  [⟨['3'], .minutes, nofun, List.all_eq_true.1 rfl⟩,
    ⟨['.', '5'], .seconds, nofun, List.all_eq_true.1 rfl⟩]

/-- One letter stands for months and, behind the time mark, for minutes. -/
theorem notations_agree_sample :
    isoLiteral someDates someTimes = "P1M-2WT3M.5S" ∧
    verboseLiteral someDates someTimes = "1 months -2 weeks 3 minutes .5 seconds" ∧
    (someDates ≠ [] ∨ someTimes ≠ []) ∧
    parse (isoLiteral someDates someTimes) = .ok ⟨.finite half, 3, 0, -14, 1, 0⟩ ∧
    parse (verboseLiteral someDates someTimes) = .ok ⟨.finite half, 3, 0, -14, 1, 0⟩ := by
  have present : someDates ≠ [] ∨ someTimes ≠ [] := .inl nofun
  have parsed : parse (isoLiteral someDates someTimes) = .ok ⟨.finite half, 3, 0, -14, 1, 0⟩ :=
    parse_eq_ok_iff.2 (by decide +kernel)
  exact ⟨by decide, by decide, present, parsed, (notations_agree _ _ present _).1 parsed⟩

end CatalogSchema.Interval
