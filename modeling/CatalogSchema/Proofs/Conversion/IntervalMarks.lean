/-
**Literals without a component.**

A literal of an interval is read by dropping its marks and adding up the components that are left.
Nothing asks whether there are any, so a few literals of marks alone are read as the interval of no
length.

* `HasComponent`: a component stands in a literal.
* `Spells.hasComponent`, `Spells.bareMarks`: a literal that spells components contains one, and a
  literal that spells none is one of the `BareMarks`.
* `OfMarks.not_hasComponent`: blanks and marks are no components.
* `components_unless_bare`: what is parsed without a component.
-/

import CatalogSchema.Proofs.Conversion.IntervalNotation
import CatalogSchema.Proofs.Conversion.Numbers
import CatalogSchema.Proofs.Number.Decimals

namespace CatalogSchema.Interval

open Number Text

/-! ### Components in a text -/

/-- The words of a literal in the verbose notation. -/
def wordsOf (literal : List Char) : List (List Char) := blankSeparated (withoutAt (trim literal))

/-- **A component stands in a literal.** -/
inductive HasComponent (literal : List Char) : Prop
  /-- One of its words is a clock. -/
  | clock {word : List Char} {component : Component} (listed : word ∈ wordsOf literal)
      (clock : ClockWord word component) : HasComponent literal
  /-- One of its words is an amount, and the next one is the name of a unit. -/
  | amount {word name : List Char} {value : Binary64} {unit : IntervalUnit}
      (near : [word, name] <:+: wordsOf literal) (number : readBinary64? word = some value)
      (named : IntervalUnit.ofName? (String.ofList (name.map Char.toLower)) = some unit) :
        HasComponent literal
  /-- Behind its `P` stands an amount, and behind that the designator of a unit. -/
  | iso {text amount : List Char} {designator : Char} {inTime : Bool} {value : Binary64}
      {unit : IntervalUnit}
      (start : trim literal = 'P' :: text) (near : amount ++ [designator] <:+: text)
      (number : readBinary64? amount = some value)
      (designates : IntervalUnit.ofDesignator? inTime designator = some unit) : HasComponent literal

variable {literal : List Char}

/-- Words that spell components begin with one. -/
theorem VerboseWords.hasComponent {words after : List (List Char)} {components : List Component}
    (spelled : VerboseWords words components) (some? : components ≠ [])
    (inside : wordsOf literal = words ++ after) :
    HasComponent literal := by
  cases spelled with
  | nil => exact absurd rfl some?
  | clock colon clock rest =>
    refine .clock ?_ clock
    rw [inside]
    exact List.mem_cons_self
  | @amount word name words _ _ _ noColon number named rest =>
    refine .amount ⟨[], words ++ after, ?_⟩ number named
    rw [inside]
    rfl

/-- An ISO text that spells components has one behind its time mark, if not in front of it. -/
theorem IsoText.exists_component {inTime : Bool} {text : List Char} {components : List Component}
    (spelled : IsoText inTime text components) (some? : components ≠ []) :
    ∃ amount designator inTime value unit, amount ++ [designator] <:+: text ∧
      readBinary64? amount = some value ∧
      IntervalUnit.ofDesignator? inTime designator = some unit := by
  induction spelled with
  | nil => exact absurd rfl some?
  | time rest ih =>
    obtain ⟨amount, designator, inTime, value, unit, near, number, designates⟩ := ih some?
    exact ⟨amount, designator, inTime, value, unit, List.infix_cons near, number, designates⟩
  | @amount inTime amount text designator value unit _ chars number designates rest =>
    exact ⟨amount, designator, inTime, value, unit, ⟨[], text, by simp⟩, number, designates⟩

/-- **A literal that spells components contains one.** -/
theorem Spells.hasComponent {ago : Bool} {components : List Component}
    (spells : Spells literal ago components) (some? : components ≠ []) : HasComponent literal := by
  cases spells with
  | iso shape spelled =>
    obtain ⟨amount, designator, inTime, value, unit, near, number, designates⟩ :=
      spelled.exists_component some?
    exact .iso shape near number designates
  | verbose present start split spelled => exact spelled.hasComponent some? split

/-! ### Marks -/

/-- The marks of both notations. -/
def marks : List (List Char) := [['@'], agoWord, ['P'], ['T']]

/-- A text consists of blanks and marks. -/
inductive OfMarks : List Char → Prop
  | nil : OfMarks []
  | blank {c : Char} {text : List Char} (blank : isBlank c = true) (rest : OfMarks text) :
      OfMarks (c :: text)
  | mark {mark text : List Char} (listed : mark ∈ marks) (rest : OfMarks text) :
      OfMarks (mark ++ text)

/-- The characters of such a text. -/
theorem OfMarks.mem {text : List Char} (ofMarks : OfMarks text) {c : Char} (inside : c ∈ text) :
    isBlank c = true ∨ ∃ mark ∈ marks, c ∈ mark := by
  induction ofMarks with
  | nil => cases inside
  | blank blank rest ih =>
    rcases List.mem_cons.1 inside with rfl | later
    · exact .inl blank
    · exact ih later
  | mark listed rest ih =>
    rcases List.mem_append.1 inside with here | later
    · exact .inr ⟨_, listed, here⟩
    · exact ih later

/-- No character of such a text is a digit, the letter `n` or a colon. -/
theorem OfMarks.plain {text : List Char} (ofMarks : OfMarks text) {c : Char} (inside : c ∈ text) :
    c.isDigit = false ∧ c ≠ 'n' ∧ c ≠ 'N' ∧ c ≠ ':' := by
  rcases ofMarks.mem inside with blank | ⟨mark, listed, here⟩
  · refine ⟨Bool.eq_false_iff.2 fun digit => ?_, ?_, ?_, ?_⟩
    · exact absurd (isBlank_of_isNumeralChar (isNumeralChar_of_isDigit digit)) (by simp [blank])
    all_goals
      rintro rfl
      cases blank
  · have each : ∀ mark ∈ marks, ∀ c ∈ mark, c.isDigit = false ∧ c ≠ 'n' ∧ c ≠ 'N' ∧ c ≠ ':' := by
      simp [marks, agoWord]
    exact each mark listed c here

theorem OfMarks.append {first second : List Char} (before : OfMarks first)
    (after : OfMarks second) :
    OfMarks (first ++ second) := by
  induction before with
  | nil => exact after
  | blank blank rest ih => exact .blank blank ih
  | mark listed rest ih =>
    rw [List.append_assoc]
    exact .mark listed ih

theorem ofMarks_of_blank {text : List Char}
    (blank : ∀ c ∈ text, isBlank c = true) : OfMarks text := by
  induction text with
  | nil => exact .nil
  | cons c text ih =>
    exact .blank (blank c List.mem_cons_self) (ih fun other listed => blank other (.tail _ listed))

/-- A clock has a colon in it. -/
theorem ClockWord.colon {word : List Char} {component : Component}
    (clock : ClockWord word component) :
    ':' ∈ word := by
  obtain ⟨sign, -, shape⟩ := exists_of_splitSign word
  rw [shape]
  refine List.mem_append_right _ ?_
  refine Decidable.byContradiction fun noColon => ?_
  have single : splitAt (· = ':') (splitSign word).2 = [(splitSign word).2] :=
    splitAt_of_none fun c listed => decide_eq_false fun same => noColon (same ▸ listed)
  cases clock with
  | short sign pieces =>
    rw [sign, pieces] at single
    cases single
  | full sign pieces =>
    rw [sign, pieces] at single
    cases single

/-- The characters of the words stand in the literal. -/
theorem mem_of_mem_wordsOf {word : List Char} (listed : word ∈ wordsOf literal) {c : Char}
    (inside : c ∈ word) :
    c ∈ literal := by
  have inBody := mem_of_mem_blankSeparated listed inside
  unfold withoutAt at inBody
  split at inBody
  · rename_i shape
    exact mem_of_mem_trim (shape ▸ List.mem_cons_of_mem _ inBody)
  · exact mem_of_mem_trim inBody

/-- **Blanks and marks are no components.** -/
theorem OfMarks.not_hasComponent (ofMarks : OfMarks literal) : ¬ HasComponent literal := by
  -- A component has a colon, a digit or the letter of a special value in it, and the literal has
  -- none of them.
  have noNumber {amount : List Char} {value : Binary64} (inside : ∀ c ∈ amount, c ∈ literal)
      (number : readBinary64? amount = some value) : False := by
    obtain ⟨c, listed, digit | rfl | rfl⟩ :=
      exists_mem_of_readBinary64? (Option.ne_none_iff_exists'.2 ⟨_, number⟩)
    · exact Bool.false_ne_true ((ofMarks.plain (inside c listed)).1.symm.trans digit)
    · exact (ofMarks.plain (inside _ listed)).2.1 rfl
    · exact (ofMarks.plain (inside _ listed)).2.2.1 rfl
  intro component
  cases component with
  | clock listed clock => exact (ofMarks.plain (mem_of_mem_wordsOf listed clock.colon)).2.2.2 rfl
  | amount near number named =>
    exact noNumber (fun c => mem_of_mem_wordsOf (near.subset List.mem_cons_self)) number
  | iso start near number designates =>
    refine noNumber (fun c inside => mem_of_mem_trim ?_) number
    rw [start]
    exact .tail _ (near.subset (List.mem_append_left _ inside))

/-! ### Marks alone -/

/-- **The marks that are read without a component**: `P` and `PT`, and `@` and `ago` alone or
together. -/
inductive BareMarks : List Char → Prop
  | iso : BareMarks ['P']
  | isoTime : BareMarks ['P', 'T']
  | atSign : BareMarks ['@']
  | ago : BareMarks agoWord
  | atSignAgo {between : List Char} (blank : ∀ c ∈ between, isBlank c = true) :
      BareMarks ('@' :: (between ++ agoWord))

theorem BareMarks.ofMarks {text : List Char} (bare : BareMarks text) : OfMarks text := by
  have single {mark : List Char} (listed : mark ∈ marks) : OfMarks mark := by
    have alone := OfMarks.mark listed .nil
    rwa [List.append_nil] at alone
  cases bare with
  | iso => exact single (by decide)
  | isoTime => exact @OfMarks.mark ['P'] ['T'] (by decide) (single (by decide))
  | atSign => exact single (by decide)
  | ago => exact single (by decide)
  | atSignAgo blank =>
    exact @OfMarks.mark ['@'] _ (by decide) ((ofMarks_of_blank blank).append (single (by decide)))

/-- A literal of bare marks between blanks has no component. -/
theorem BareMarks.not_hasComponent (bare : BareMarks (trim literal)) : ¬ HasComponent literal := by
  obtain ⟨before, after, blank, around⟩ := exists_around_trim literal
  obtain ⟨blankBefore, blankAfter⟩ := List.forall_mem_append.1 blank
  have ofMarks : OfMarks literal := by
    rw [around]
    exact (ofMarks_of_blank blankBefore).append (bare.ofMarks.append (ofMarks_of_blank blankAfter))
  exact ofMarks.not_hasComponent

/-- Words in front of nothing but an `ago`. -/
theorem eq_of_no_words {body : List Char} {ago : Bool}
    (visible : ∀ c ∈ body.getLast?, isBlank c = false)
    (split : blankSeparated body = if ago then [agoWord] else []) :
    ago = false ∧ body = [] ∨
      ∃ between, body = between ++ agoWord ∧ ∀ c ∈ between, isBlank c = true := by
  cases ago with
  | false => exact .inl ⟨rfl, eq_nil_of_blankSeparated_nil visible split⟩
  | true => exact .inr (exists_of_blankSeparated_singleton visible split)

/-- **A literal that spells no component** is one of the bare marks. -/
theorem Spells.bareMarks {ago : Bool} (spells : Spells literal ago []) :
    BareMarks (trim literal) := by
  cases spells with
  | iso shape spelled =>
    rw [shape]
    cases spelled with
    | nil => exact .iso
    | time rest =>
      cases rest
      exact .isoTime
  | verbose present start split spelled =>
    cases spelled
    rw [List.nil_append] at split
    have first := visible_head?_trim literal
    have last := visible_getLast?_trim literal
    generalize trim literal = text at present split first last ⊢
    unfold withoutAt at split
    split at split
    · rename_i body
      have final : ∀ c ∈ body.getLast?, isBlank c = false := fun c final =>
        last c (by rw [List.getLast?_cons, Option.mem_def.1 final]; rfl)
      rcases eq_of_no_words final split with ⟨-, rfl⟩ | ⟨between, rfl, blank⟩
      · exact .atSign
      · exact .atSignAgo blank
    · rcases eq_of_no_words last split with ⟨-, rfl⟩ | ⟨between, rfl, blank⟩
      · exact absurd rfl present
      · cases between with
        | nil => exact .ago
        | cons c between =>
          exact absurd (blank c List.mem_cons_self) (by simp [first c rfl])

/-- **Bare marks spell no component.** -/
theorem BareMarks.exists_spells (bare : BareMarks (trim literal)) :
    ∃ ago, Spells literal ago [] := by
  generalize shape : trim literal = text at bare
  cases bare with
  | iso => exact ⟨false, .iso shape (.nil false)⟩
  | isoTime => exact ⟨false, .iso shape (.time (.nil true))⟩
  | atSign => exact ⟨false,
    .verbose (by rw [shape]; nofun) (by rw [shape]; decide) (by rw [shape]; rfl) .nil⟩
  | ago => exact ⟨true,
    .verbose (by rw [shape]; nofun) (by rw [shape]; decide) (by rw [shape]; rfl) .nil⟩
  | @atSignAgo between blank =>
    have split : blankSeparated (between ++ agoWord) = [agoWord] := by
      rw [blankSeparated_append_of_blank blank]
      rfl
    exact ⟨true, .verbose (by rw [shape]; nofun) (by rw [shape]; nofun)
      (by rw [shape]; exact split) .nil⟩

theorem settle?_zero (ago : Bool) :
    settle? ago zero = some ⟨.finite (.zero ago), 0, 0, 0, 0, 0⟩ := by
  cases ago <;> rfl

/-- **What is parsed without a component.** A literal that is parsed has a component in it, unless
it is one of the bare marks. Those have none and are parsed as the interval of no length. Blanks and
marks are refused otherwise. -/
theorem components_unless_bare (literal : String) :
    (∀ interval, parse literal = .ok interval →
      (HasComponent literal.toList ↔ ¬ BareMarks (trim literal.toList))) ∧
    (BareMarks (trim literal.toList) →
      ∃ ago, parse literal = .ok ⟨.finite (.zero ago), 0, 0, 0, 0, 0⟩) ∧
    (OfMarks literal.toList →
      (parse literal = .error (.malformedInterval literal) ↔
        ¬ BareMarks (trim literal.toList))) := by
  have component {interval : Interval} (parsed : parse literal = .ok interval)
      (unmarked : ¬ BareMarks (trim literal.toList)) : HasComponent literal.toList := by
    obtain ⟨ago, components, spells⟩ := Interval.exists_spells (parse_eq_ok_iff.1 parsed)
    exact spells.hasComponent fun none => unmarked (none ▸ spells).bareMarks
  have nothing (bare : BareMarks (trim literal.toList)) :
      ∃ ago, parse literal = .ok ⟨.finite (.zero ago), 0, 0, 0, 0, 0⟩ := by
    obtain ⟨ago, spells⟩ := bare.exists_spells
    exact ⟨ago, parse_eq_ok_iff.2 (spells.parse?_eq.trans (settle?_zero ago))⟩
  refine ⟨fun interval parsed => ⟨fun here bare => bare.not_hasComponent here, component parsed⟩,
    nothing, fun ofMarks => ⟨fun refused bare => ?_, fun unmarked => ?_⟩⟩
  · obtain ⟨ago, parsed⟩ := nothing bare
    rw [parsed] at refused
    cases refused
  · refine parse_eq_error_iff.2 (Option.eq_none_iff_forall_ne_some.2 fun interval parsed => ?_)
    exact ofMarks.not_hasComponent (component (parse_eq_ok_iff.2 parsed) unmarked)

/-- Two marks between blanks, which are parsed, and two marks in the wrong notation, which are
refused. -/
theorem components_unless_bare_sample :
    (OfMarks " @ ago".toList ∧ BareMarks (trim " @ ago".toList) ∧
      (∃ ago, parse " @ ago" = .ok ⟨.finite (.zero ago), 0, 0, 0, 0, 0⟩) ∧
      ¬ HasComponent " @ ago".toList ∧
      parse " @ ago" ≠ .error (.malformedInterval " @ ago")) ∧
    OfMarks "P ago".toList ∧ parse "P ago" = .error (.malformedInterval "P ago") := by
  have blank : ∀ c ∈ [' '], isBlank c = true := List.forall_mem_singleton.2 rfl
  have bare : BareMarks (trim " @ ago".toList) := .atSignAgo blank
  have ofMarks : OfMarks " @ ago".toList := .blank rfl bare.ofMarks
  have others : OfMarks "P ago".toList :=
    @OfMarks.mark ['P'] _ (by decide) (.blank rfl BareMarks.ago.ofMarks)
  have unmarked : ¬ BareMarks (trim "P ago".toList) := by
    have text : trim "P ago".toList = ['P', ' ', 'a', 'g', 'o'] := by decide +kernel
    rw [text]
    nofun
  obtain ⟨exact, nothing, refused⟩ := components_unless_bare " @ ago"
  obtain ⟨ago, parsed⟩ := nothing bare
  refine ⟨⟨ofMarks, bare, ⟨ago, parsed⟩, fun here => (exact _ parsed).1 here bare,
    fun none => (refused ofMarks).1 none bare⟩, others, ?_⟩
  exact ((components_unless_bare "P ago").2.2 others).2 unmarked

/-- **A mark without a component is parsed.** -/
theorem bare_mark_parsed :
    parse "@" = .ok zero ∧ ¬ HasComponent "@".toList ∧ OfMarks "@".toList :=
  ⟨rfl, BareMarks.not_hasComponent .atSign, BareMarks.ofMarks .atSign⟩

end CatalogSchema.Interval
