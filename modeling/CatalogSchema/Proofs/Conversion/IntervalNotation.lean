/-
**The components that the text of an interval spells.**

What a text says is stated here without the arithmetic: which words are clocks, how words and ISO
amounts make up a row of components, and whether a last `ago` turns all signs. Amounts need not be
whole, finite or small for that.

* `VerboseWords`, `IsoText`, `Spells`: the two notations, and a literal in either of them.
* `Spells.parse?_eq`: the components of a literal are added up, and negated behind `ago`.
* `exists_spells`: a literal that is parsed spells components.
-/

import CatalogSchema.Conversion.Interval
import CatalogSchema.Proofs.Text.Blank

namespace CatalogSchema.Interval

open Number Text

/-! ### Clocks -/

/-- A word is a clock: perhaps a sign, then hours, minutes and perhaps seconds between colons. -/
inductive ClockWord (word : List Char) : Component → Prop
  | short {negative : Bool} {clock hours minutes : List Char} {hourCount minuteCount : Int}
      (sign : splitSign word = (negative, clock))
      (pieces : splitAt (· = ':') clock = [hours, minutes])
      (readHours : readInt64? hours = some hourCount)
      (readMinutes : readInt64? minutes = some minuteCount) :
      ClockWord word (.clock negative hourCount minuteCount .zero)
  | full {negative : Bool} {clock hours minutes seconds : List Char} {hourCount minuteCount : Int}
      {amount : Binary64} (sign : splitSign word = (negative, clock))
      (pieces : splitAt (· = ':') clock = [hours, minutes, seconds])
      (readHours : readInt64? hours = some hourCount)
      (readMinutes : readInt64? minutes = some minuteCount)
      (readSeconds : readBinary64? seconds = some amount) :
      ClockWord word (.clock negative hourCount minuteCount amount)

theorem eq_finite_of_finite? {amount : Binary64} {number : Finite}
    (finite : amount.finite? = some number) :
    amount = .finite number := by
  cases amount with
  | finite value =>
    cases finite
    rfl
  | infinite negative => cases finite
  | notANumber => cases finite

/-- What is read as a clock is one. -/
theorem clockWord_of_readClock? {word : List Char} {component : Component}
    (read : readClock? word = some component) : ClockWord word component := by
  unfold readClock? at read
  cases sign : splitSign word with
  | mk negative clock =>
    rw [sign] at read
    dsimp only at read
    split at read
    · rename_i pieces
      simp only [Option.bind_eq_bind, Option.bind_eq_some_iff, Option.pure_def,
        Option.some.injEq] at read
      obtain ⟨hours, readHours, minutes, readMinutes, rfl⟩ := read
      exact .short sign pieces readHours readMinutes
    · rename_i pieces
      simp only [Option.bind_eq_bind, Option.bind_eq_some_iff, Option.pure_def,
        Option.some.injEq] at read
      obtain ⟨hours, readHours, minutes, readMinutes, amount, readSeconds, number, finite, rfl⟩ :=
        read
      rw [eq_finite_of_finite? finite] at readSeconds
      exact .full sign pieces readHours readMinutes readSeconds
    · cases read

/-- A clock is read, unless its seconds are not finite; they cannot be added to anything then. -/
theorem ClockWord.read_or_refused {word : List Char} {component : Component}
    (clock : ClockWord word component) :
    readClock? word = some component ∨
      readClock? word = none ∧ ∀ interval : Interval, interval.addComponent? component = none := by
  have refused {negative : Bool} {hours minutes : Int} {seconds : Binary64}
      (endless : ∀ interval : Interval, interval.addSeconds? seconds = none)
      (turned : ∀ interval : Interval, interval.addSeconds? seconds.negate = none)
      (interval : Interval) :
      interval.addComponent? (.clock negative hours minutes seconds) = none := by
    unfold addComponent?
    simp only [Option.bind_eq_bind, Option.bind_eq_none_iff]
    intros
    split
    · exact turned _
    · exact endless _
  cases clock with
  | short sign pieces readHours readMinutes =>
    left
    unfold readClock?
    rw [sign]
    dsimp only
    rw [pieces]
    dsimp only
    rw [readHours, readMinutes]
    rfl
  | @full _ _ _ _ _ _ _ amount sign pieces readHours readMinutes readSeconds =>
    unfold readClock?
    rw [sign]
    dsimp only
    rw [pieces]
    dsimp only
    rw [readHours, readMinutes, readSeconds]
    cases amount with
    | finite amount => exact .inl rfl
    | infinite negative =>
      refine .inr ⟨rfl, refused (fun interval => ?_) fun interval => ?_⟩ <;>
        cases interval with | mk seconds => cases seconds <;> rfl
    | notANumber =>
      refine .inr ⟨rfl, refused (fun interval => ?_) fun interval => ?_⟩ <;>
        cases interval with | mk seconds => cases seconds <;> rfl

/-! ### The verbose notation -/

/-- A row of words spells components: a word with a colon is a clock, and any other one is an amount
that the name of a unit follows. -/
inductive VerboseWords : List (List Char) → List Component → Prop
  | nil : VerboseWords [] []
  | clock {word : List Char} {words : List (List Char)} {component : Component}
      {components : List Component}
      (colon : word.contains ':' = true) (clock : ClockWord word component)
      (rest : VerboseWords words components) :
        VerboseWords (word :: words) (component :: components)
  | amount {word name : List Char} {words : List (List Char)} {value : Binary64}
      {unit : IntervalUnit} {components : List Component} (noColon : word.contains ':' = false)
      (number : readBinary64? word = some value)
      (named : IntervalUnit.ofName? (String.ofList (name.map Char.toLower)) = some unit)
      (rest : VerboseWords words components) :
      VerboseWords (word :: name :: words) (.amount value unit :: components)

theorem readVerbose?_clock {word : List Char} (colon : word.contains ':' = true)
    (words : List (List Char)) :
    readVerbose? (word :: words) =
      (readClock? word).bind fun component => (readVerbose? words).map (component :: ·) := by
  cases words with
  | nil =>
    rw [readVerbose?.eq_2, if_pos colon]
    cases readClock? word <;> rfl
  | cons next words =>
    rw [readVerbose?, if_pos colon]
    cases readClock? word with
    | none => rfl
    | some component => cases readVerbose? (next :: words) <;> rfl

theorem readVerbose?_amount {word : List Char} (noColon : word.contains ':' = false)
    (name : List Char) (words : List (List Char)) :
    readVerbose? (word :: name :: words) = (readBinary64? word).bind fun value =>
      (IntervalUnit.ofName? (String.ofList (name.map Char.toLower))).bind fun unit =>
        (readVerbose? words).map (.amount value unit :: ·) := by
  rw [readVerbose?, noColon, if_neg Bool.false_ne_true]
  cases readBinary64? word with
  | none => rfl
  | some value =>
    cases IntervalUnit.ofName? (String.ofList (name.map Char.toLower)) with
    | none => rfl
    | some unit => cases readVerbose? words <;> rfl

/-- Words that are read spell what is read. -/
theorem verboseWords_of_readVerbose? {words : List (List Char)} {components : List Component}
    (read : readVerbose? words = some components) : VerboseWords words components := by
  induction words using readVerbose?.induct generalizing components with
  | case1 =>
    cases read
    exact .nil
  | case2 word colon =>
    rw [readVerbose?_clock colon] at read
    obtain ⟨component, clock, rest⟩ := Option.bind_eq_some_iff.1 read
    cases rest
    exact .clock colon (clockWord_of_readClock? clock) .nil
  | case3 word noColon =>
    rw [readVerbose?, if_neg noColon] at read
    cases read
  | case4 word next words colon ih =>
    rw [readVerbose?_clock colon] at read
    obtain ⟨component, clock, read⟩ := Option.bind_eq_some_iff.1 read
    obtain ⟨others, rest, rfl⟩ := Option.map_eq_some_iff.1 read
    exact .clock colon (clockWord_of_readClock? clock) (ih rest)
  | case5 word next words noColon ih =>
    replace noColon : word.contains ':' = false := Bool.eq_false_iff.2 noColon
    rw [readVerbose?_amount noColon] at read
    obtain ⟨value, number, read⟩ := Option.bind_eq_some_iff.1 read
    obtain ⟨unit, named, read⟩ := Option.bind_eq_some_iff.1 read
    obtain ⟨others, rest, rfl⟩ := Option.map_eq_some_iff.1 read
    exact .amount noColon number named (ih rest)

/-- Words that spell components are read as them, unless these cannot be added to anything. -/
theorem VerboseWords.read_or_refused {words : List (List Char)} {components : List Component}
    (spelled : VerboseWords words components) :
    readVerbose? words = some components ∨ readVerbose? words = none ∧
      ∀ interval : Interval, components.foldlM addComponent? interval = none := by
  induction spelled with
  | nil => exact .inl rfl
  | clock colon clock rest ih =>
    rw [readVerbose?_clock colon]
    rcases clock.read_or_refused with read | ⟨read, refused⟩
    · rcases ih with readRest | ⟨readRest, refusedRest⟩
      · exact .inl (by rw [read, readRest]; rfl)
      · refine .inr ⟨by rw [read, readRest]; rfl, fun interval => ?_⟩
        rw [List.foldlM_cons]
        exact Option.bind_eq_none_iff.2 fun next _ => refusedRest next
    · refine .inr ⟨by rw [read]; rfl, fun interval => ?_⟩
      rw [List.foldlM_cons, refused]
      rfl
  | amount noColon number named rest ih =>
    rw [readVerbose?_amount noColon, number, named]
    rcases ih with readRest | ⟨readRest, refusedRest⟩
    · exact .inl (by rw [readRest]; rfl)
    · refine .inr ⟨by rw [readRest]; rfl, fun interval => ?_⟩
      rw [List.foldlM_cons]
      exact Option.bind_eq_none_iff.2 fun next _ => refusedRest next

/-- **Words that spell components** are read and added up to the sum of these. -/
theorem VerboseWords.accumulate?_eq {words : List (List Char)} {components : List Component}
    (spelled : VerboseWords words components) :
    (readVerbose? words).bind accumulate? = accumulate? components := by
  rcases spelled.read_or_refused with read | ⟨read, refused⟩
  · rw [read]
    rfl
  · rw [read]
    exact (refused zero).symm

/-- The word behind which all signs are turned. -/
def agoWord : List Char := ['a', 'g', 'o']

/-- The last word of a row that spells components is the name of a unit or a clock. -/
theorem VerboseWords.getLast?_ne_agoWord {words : List (List Char)} {components : List Component}
    (spelled : VerboseWords words components) : words.getLast? ≠ some agoWord := by
  induction spelled with
  | nil => nofun
  | @clock word words _ _ colon _ rest ih =>
    cases words with
    | nil =>
      rintro ⟨⟩
      cases colon
    | cons next words => rwa [List.getLast?_cons_cons]
  | @amount word name words _ _ _ _ _ named rest ih =>
    rw [List.getLast?_cons_cons]
    cases words with
    | nil =>
      rintro ⟨⟩
      cases named
    | cons next words => rwa [List.getLast?_cons_cons]

/-! ### The ISO notation -/

/-- A text behind the leading `P` spells components, before or after the time mark: amounts, each
with the designator of its unit behind it. -/
inductive IsoText : Bool → List Char → List Component → Prop
  | nil (inTime : Bool) : IsoText inTime [] []
  | time {text : List Char} {components : List Component} (rest : IsoText true text components) :
      IsoText false ('T' :: text) components
  | amount {inTime : Bool} {amount text : List Char} {designator : Char} {value : Binary64}
      {unit : IntervalUnit}
      {components : List Component} (chars : ∀ c ∈ amount, isAmountChar c = true)
      (number : readBinary64? amount = some value)
      (designates : IntervalUnit.ofDesignator? inTime designator = some unit)
      (rest : IsoText inTime text components) :
      IsoText inTime (amount ++ designator :: text) (.amount value unit :: components)

/-- The characters of an amount are gathered. -/
theorem readIso?_append (inTime : Bool) (gathered : List Char) {amount : List Char}
    (chars : ∀ c ∈ amount, isAmountChar c = true) (text : List Char) :
    readIso? inTime gathered (amount ++ text) = readIso? inTime (gathered ++ amount) text := by
  induction amount generalizing gathered with
  | nil => rw [List.append_nil, List.nil_append]
  | cons c amount ih =>
    have char := chars c List.mem_cons_self
    have noMark : ¬ (c = 'T' ∧ inTime = false ∧ gathered.isEmpty = true) := by
      rintro ⟨rfl, -⟩
      cases char
    rw [List.cons_append, readIso?, if_neg noMark, if_pos char,
      ih (gathered ++ [c]) fun other listed => chars other (.tail _ listed), List.append_assoc]
    rfl

/-- No designator is a character of an amount or the time mark. -/
theorem isAmountChar_of_ofDesignator? {inTime : Bool} {designator : Char} {unit : IntervalUnit}
    (designates : IntervalUnit.ofDesignator? inTime designator = some unit) :
    designator ≠ 'T' ∧ isAmountChar designator = false := by
  unfold IntervalUnit.ofDesignator? at designates
  split at designates <;> cases designates <;> exact ⟨by decide, rfl⟩

/-- An amount and its designator are read before what follows. -/
theorem readIso?_amount {inTime : Bool} {amount : List Char}
    (chars : ∀ c ∈ amount, isAmountChar c = true) {designator : Char} {unit : IntervalUnit}
    (designates : IntervalUnit.ofDesignator? inTime designator = some unit) (text : List Char) :
    readIso? inTime [] (amount ++ designator :: text) = (readBinary64? amount).bind fun value =>
      (readIso? inTime [] text).map (.amount value unit :: ·) := by
  obtain ⟨noMark, noChar⟩ := isAmountChar_of_ofDesignator? designates
  rw [readIso?_append inTime [] chars, List.nil_append, readIso?,
    if_neg fun mark => noMark mark.1, noChar, if_neg Bool.false_ne_true, designates]
  cases readBinary64? amount with
  | none => rfl
  | some value => cases readIso? inTime [] text <;> rfl

/-- **A text that spells components is read as them.** -/
theorem IsoText.readIso?_eq {inTime : Bool} {text : List Char} {components : List Component}
    (spelled : IsoText inTime text components) : readIso? inTime [] text = some components := by
  induction spelled with
  | nil inTime => rfl
  | time rest ih =>
    rw [readIso?, if_pos ⟨rfl, rfl, rfl⟩]
    exact ih
  | amount chars number designates rest ih =>
    rw [readIso?_amount chars designates, number, ih]
    rfl

/-- A text that is read behind the characters of an amount spells what is read, with them in
front. -/
theorem isoText_of_readIso? {inTime : Bool} {gathered text : List Char}
    {components : List Component} (chars : ∀ c ∈ gathered, isAmountChar c = true)
    (read : readIso? inTime gathered text = some components) :
    IsoText inTime (gathered ++ text) components := by
  induction text generalizing inTime gathered components with
  | nil =>
    rw [readIso?] at read
    split at read
    · rename_i empty
      cases read
      rw [List.isEmpty_iff.1 empty]
      exact .nil inTime
    · cases read
  | cons c text ih =>
    rw [readIso?] at read
    split at read
    · rename_i mark
      obtain ⟨rfl, rfl, empty⟩ := mark
      rw [List.isEmpty_iff.1 empty]
      exact .time (ih (List.forall_mem_nil _) read)
    · split at read
      · rename_i char
        have more : ∀ d ∈ gathered ++ [c], isAmountChar d = true :=
          List.forall_mem_append.2 ⟨chars, List.forall_mem_singleton.2 char⟩
        rw [List.append_cons]
        exact ih more read
      · simp only [Option.bind_eq_bind, Option.bind_eq_some_iff, Option.pure_def,
          Option.some.injEq] at read
        obtain ⟨value, number, unit, designates, rest, readRest, rfl⟩ := read
        exact .amount chars number designates (ih (List.forall_mem_nil _) readRest)

/-! ### Literals -/

theorem parse_eq_ok_iff {literal : String} {interval : Interval} :
    parse literal = .ok interval ↔ parse? literal.toList = some interval := by
  unfold parse
  cases parse? literal.toList with
  | none => exact ⟨nofun, nofun⟩
  | some parsed =>
    exact ⟨fun same => congrArg some (Except.ok.inj same), fun same =>
        congrArg Except.ok (Option.some.inj same)⟩

theorem parse_eq_error_iff {literal : String} :
    parse literal = .error (.malformedInterval literal) ↔ parse? literal.toList = none := by
  unfold parse
  cases parse? literal.toList with
  | none => exact ⟨fun _ => rfl, fun _ => rfl⟩
  | some parsed => exact ⟨nofun, nofun⟩

/-- What the verbose notation says behind a leading `@`. -/
def withoutAt : List Char → List Char
  | '@' :: text => text
  | text => text

/-- A literal spells components, and whether their signs are turned: in the ISO notation behind a
`P`, and in the verbose one otherwise, perhaps with an `@` in front and with `ago` at its end. -/
inductive Spells (literal : List Char) : Bool → List Component → Prop
  | iso {text : List Char} {components : List Component} (shape : trim literal = 'P' :: text)
      (spelled : IsoText false text components) : Spells literal false components
  | verbose {ago : Bool} {words : List (List Char)} {components : List Component}
      (present : trim literal ≠ []) (start : (trim literal).head? ≠ some 'P')
      (split : blankSeparated (withoutAt (trim literal)) = words ++ if ago then [agoWord] else [])
      (spelled : VerboseWords words components) : Spells literal ago components

/-- An interval as it stands, or with all signs turned. -/
def settle? (ago : Bool) (interval : Interval) : Option Interval :=
  if ago then interval.negate? else some interval

theorem parseVerbose?_eq (text : List Char) :
    parseVerbose? text =
      (readVerbose? (splitAgo (blankSeparated (withoutAt text))).2).bind fun components =>
      (accumulate? components).bind (settle? (splitAgo (blankSeparated (withoutAt text))).1) := by
  unfold parseVerbose?
  dsimp only
  split
  · rfl
  · rename_i noAt
    rw [withoutAt.eq_2 text noAt]
    rfl

theorem splitAgo_append {ago : Bool} {words : List (List Char)}
    (last : words.getLast? ≠ some agoWord) :
    splitAgo (words ++ if ago then [agoWord] else []) = (ago, words) := by
  cases ago with
  | true =>
    have final : (words ++ [agoWord]).getLast? = some agoWord := List.getLast?_concat
    exact (if_pos final).trans (by rw [if_pos rfl, List.dropLast_concat])
  | false =>
    rw [if_neg Bool.false_ne_true, List.append_nil]
    exact if_neg last

/-- Words without their `ago`, put together again. -/
theorem append_of_splitAgo {words others : List (List Char)} {ago : Bool}
    (split : splitAgo words = (ago, others)) :
    words = others ++ if ago then [agoWord] else [] := by
  unfold splitAgo at split
  split at split
  · rename_i last
    obtain ⟨front, rfl⟩ := List.getLast?_eq_some_iff.1 last
    cases split
    rw [List.dropLast_concat]
    rfl
  · cases split
    exact (List.append_nil _).symm

/-- A literal that is neither empty nor in the ISO notation is read in the verbose one. -/
theorem parse?_of_verbose {literal : List Char} (present : trim literal ≠ [])
    (start : (trim literal).head? ≠ some 'P') : parse? literal = parseVerbose? (trim literal) := by
  unfold parse?
  split
  · rename_i empty
    exact absurd empty present
  · rename_i text shape
    rw [shape] at start
    exact absurd rfl start
  · rfl

/-- **A row of words with spaces between them** is read word by word, if the first one shows the
verbose notation and the last one is not `ago`. -/
theorem parse?_join {word : List Char} {words : List (List Char)}
    (each : ∀ other ∈ word :: words, IsWord other) (start : ∀ c ∈ word.head?, c ≠ 'P' ∧ c ≠ '@')
    (last : (word :: words).getLast? ≠ some agoWord) :
    parse? (join [' '] (word :: words)) = (readVerbose? (word :: words)).bind accumulate? := by
  have split := blankSeparated_join each
  have visible := visible_getLast?_join each
  have head : (join [' '] (word :: words)).head? = word.head? :=
    head?_join (each word List.mem_cons_self).1 words
  obtain ⟨c, more, shape⟩ := List.exists_cons_of_ne_nil (each word List.mem_cons_self).1
  obtain ⟨text, begins⟩ : ∃ text, join [' '] (word :: words) = c :: text :=
    List.head?_eq_some_iff.1 (head.trans (by rw [shape]; rfl))
  obtain ⟨notIso, notAt⟩ := start c (by rw [shape]; rfl)
  have plain : isBlank c = false := (each word List.mem_cons_self).2 c (shape ▸ List.mem_cons_self)
  have trimmed : trim (join [' '] (word :: words)) = join [' '] (word :: words) := by
    refine trim_of_visible_ends (fun d first => ?_) visible
    rw [begins] at first
    cases first
    exact plain
  have bare : withoutAt (join [' '] (word :: words)) = join [' '] (word :: words) := by
    rw [begins]
    refine withoutAt.eq_2 _ fun rest same => ?_
    cases same
    exact notAt rfl
  rw [parse?_of_verbose (by rw [trimmed, begins]; nofun)
      (by rw [trimmed, begins]; exact fun same => notIso (Option.some.inj same)),
    trimmed, parseVerbose?_eq, bare, split]
  have noAgo := @splitAgo_append false _ last
  rw [if_neg Bool.false_ne_true, List.append_nil] at noAgo
  rw [noAgo]
  exact congrArg (Option.bind _) (funext fun components => Option.bind_fun_some _)

/-- **The components of a literal are added up**, and all signs turned behind `ago`. -/
theorem Spells.parse?_eq {literal : List Char} {ago : Bool} {components : List Component}
    (spells : Spells literal ago components) :
    parse? literal = (accumulate? components).bind (settle? ago) := by
  cases spells with
  | iso shape spelled =>
    unfold parse? parseIso?
    rw [shape]
    show (readIso? false [] _).bind accumulate? = _
    rw [spelled.readIso?_eq, Option.bind_some]
    exact (Option.bind_fun_some _).symm
  | verbose present start split spelled =>
    rw [parse?_of_verbose present start, parseVerbose?_eq, split,
      splitAgo_append spelled.getLast?_ne_agoWord, ← Option.bind_assoc, spelled.accumulate?_eq]

/-- **A literal that is parsed spells components.** -/
theorem exists_spells {literal : List Char} {interval : Interval}
    (parsed : parse? literal = some interval) :
    ∃ ago components, Spells literal ago components := by
  unfold parse? at parsed
  split at parsed
  · cases parsed
  · rename_i text shape
    obtain ⟨components, read, -⟩ := Option.bind_eq_some_iff.1 parsed
    exact ⟨false, components, .iso shape (isoText_of_readIso? (List.forall_mem_nil _) read)⟩
  · rename_i present noIso
    rw [parseVerbose?_eq] at parsed
    obtain ⟨components, read, -⟩ := Option.bind_eq_some_iff.1 parsed
    have start : (trim literal).head? ≠ some 'P' := fun first => by
      obtain ⟨text, shape⟩ := List.head?_eq_some_iff.1 first
      exact noIso text shape
    exact ⟨_, components,
      .verbose present start (append_of_splitAgo rfl) (verboseWords_of_readVerbose? read)⟩

end CatalogSchema.Interval
