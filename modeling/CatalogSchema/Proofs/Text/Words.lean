/-
**Words of a text, and texts that are shouted already.**

The words of a text are its pieces between the characters that are neither letters nor digits, cut
at their case boundaries. Cutting loses no letter and no digit (`flatten_wordsOf`). A text is
shouted if it is words of capital letters and digits with single underscores between them: it has no
case boundaries, and `shoutySnake` leaves it as it is.

* `join_splitAt`: a text is its pieces, joined by the separator.
* `flatten_wordsOf`: the words of a text are its letters and digits, in their order.
* `Shouted.append`, `Shouted.join`: shouted texts with an underscore between them are one.
* `Shouted.shoutySnake`: a shouted text stays as it is.
-/

import CatalogSchema.Proofs.Text.Blank
import CatalogSchema.Text.Word
import Mathlib.Data.List.Basic

namespace CatalogSchema.Text

/-! ### Characters of ASCII -/

/-- What holds of the first 128 characters one by one holds of every character of ASCII. -/
theorem forall_ascii {P : Char → Prop} (each : ∀ n : Fin 128, P (Char.ofNat n)) {c : Char}
    (ascii : c.toNat < 128) : P c := by
  have here := each ⟨c.toNat, ascii⟩
  rwa [Char.ofNat_toNat] at here

theorem isAlphanumeric_ascii {c : Char} (ascii : c.toNat < 128) : isAlphanumeric c = c.isAlphanum :=
  forall_ascii (P := fun c => isAlphanumeric c = c.isAlphanum) (by decide +kernel) ascii

theorem upperChar_ascii {c : Char} (ascii : c.toNat < 128) : upperChar c = [c.toUpper] :=
  forall_ascii (P := fun c => upperChar c = [c.toUpper]) (by decide +kernel) ascii

/-- Holds of the capital letters and the digits of ASCII. -/
def isCapital (c : Char) : Bool := c.isUpper || c.isDigit

theorem isUpper_iff {c : Char} : c.isUpper = true ↔ 65 ≤ c.toNat ∧ c.toNat ≤ 90 :=
  decide_eq_true_iff (p := c.val ≥ 'A'.val ∧ c.val ≤ 'Z'.val)

theorem isLower_iff {c : Char} : c.isLower = true ↔ 97 ≤ c.toNat ∧ c.toNat ≤ 122 := by
  change (decide (c.val ≥ 'a'.val) && decide (c.val ≤ 'z'.val)) = true ↔ _
  rw [Bool.and_eq_true, decide_eq_true_eq, decide_eq_true_eq]
  exact Iff.rfl

theorem isAlphanum_iff {c : Char} :
    c.isAlphanum = true ↔ (c.isUpper = true ∨ c.isLower = true) ∨ c.isDigit = true := by
  change (c.isUpper || c.isLower || c.isDigit) = true ↔ _
  rw [Bool.or_eq_true, Bool.or_eq_true]

theorem isAlpha_iff {c : Char} : c.isAlpha = true ↔ c.isUpper = true ∨ c.isLower = true := by
  change (c.isUpper || c.isLower) = true ↔ _
  rw [Bool.or_eq_true]

theorem isCapital_iff {c : Char} : isCapital c = true ↔ c.isUpper = true ∨ c.isDigit = true := by
  rw [isCapital, Bool.or_eq_true]

theorem isAlphanum_of_isCapital {c : Char} (capital : isCapital c = true) : c.isAlphanum = true :=
  isAlphanum_iff.2 ((isCapital_iff.1 capital).imp_left .inl)

theorem ascii_of_isAlphanum {c : Char} (alphanumeric : c.isAlphanum = true) : c.toNat < 128 := by
  rw [isAlphanum_iff, isUpper_iff, isLower_iff, Char.isDigit_iff_toNat] at alphanumeric
  change (_ ∨ _) ∨ 48 ≤ c.toNat ∧ c.toNat ≤ 57 at alphanumeric
  omega

theorem isDigit_of_isUpper {c : Char} (upper : c.isUpper = true) : c.isDigit = false := by
  rw [isUpper_iff] at upper
  refine Bool.eq_false_iff.2 fun digit => ?_
  have between : 48 ≤ c.toNat ∧ c.toNat ≤ 57 := Char.isDigit_iff_toNat.1 digit
  omega

/-- Capital letters and digits are letters or digits, none is lower case, and upper case leaves
them. -/
theorem capital_cases {c : Char} (capital : isCapital c = true) :
    isAlphanumeric c = true ∧ isLowercase c = false ∧ upperChar c = [c] :=
  forall_ascii (P := fun c => isCapital c = true →
      isAlphanumeric c = true ∧ isLowercase c = false ∧ upperChar c = [c])
    (by decide +kernel) (ascii_of_isAlphanum (isAlphanum_of_isCapital capital)) capital

/-! ### Cutting at separators -/

variable {separates : Char → Bool}

theorem exists_splitAt (separates : Char → Bool) (text : List Char) :
    ∃ piece pieces, splitAt separates text = piece :: pieces := by
  cases text with
  | nil => exact ⟨[], [], rfl⟩
  | cons c text =>
    unfold splitAt
    split
    · exact ⟨_, _, rfl⟩
    · split <;> exact ⟨_, _, rfl⟩

theorem splitAt_cons_of_separates {c : Char} (separating : separates c = true) (text : List Char) :
    splitAt separates (c :: text) = [] :: splitAt separates text := if_pos separating

theorem splitAt_cons_of_not {c : Char} (continues : separates c = false) {text piece : List Char}
    {pieces : List (List Char)} (cut : splitAt separates text = piece :: pieces) :
    splitAt separates (c :: text) = (c :: piece) :: pieces := by
  rw [splitAt, if_neg (by simp [continues]), cut]

/-- A separator cuts a text in two, whose pieces follow each other. -/
theorem splitAt_append_separator {separator : Char} (separating : separates separator = true)
    (before after : List Char) : splitAt separates (before ++ separator :: after) =
      splitAt separates before ++ splitAt separates after := by
  induction before with
  | nil => exact splitAt_cons_of_separates separating after
  | cons c before ih =>
    rw [List.cons_append]
    cases cuts : separates c with
    | true => rw [splitAt_cons_of_separates cuts, splitAt_cons_of_separates cuts,
      ih, List.cons_append]
    | false =>
      obtain ⟨piece, pieces, cut⟩ := exists_splitAt separates before
      rw [cut, List.cons_append] at ih
      rw [splitAt_cons_of_not cuts ih, splitAt_cons_of_not cuts cut, List.cons_append]

/-- The pieces hold everything but the separators. -/
theorem flatten_splitAt (separates : Char → Bool) (text : List Char) :
    (splitAt separates text).flatten = text.filter fun c => !separates c := by
  induction text with
  | nil => rfl
  | cons c text ih =>
    cases cuts : separates c with
    | true =>
      rw [splitAt_cons_of_separates cuts, List.flatten_cons, List.nil_append, ih,
        List.filter_cons_of_neg (by simp [cuts])]
    | false =>
      obtain ⟨piece, pieces, cut⟩ := exists_splitAt separates text
      rw [cut, List.flatten_cons] at ih
      rw [splitAt_cons_of_not cuts cut, List.flatten_cons, List.cons_append, ih,
        List.filter_cons_of_pos (by simp [cuts])]

/-- A text is cut alike at characters that agree on it. -/
theorem splitAt_congr {other : Char → Bool} {text : List Char}
    (agree : ∀ c ∈ text, separates c = other c) :
    splitAt separates text = splitAt other text := by
  induction text with
  | nil => rfl
  | cons c text ih =>
    rw [splitAt, splitAt, agree c List.mem_cons_self, ih fun other listed =>
        agree other (.tail _ listed)]

/-- **A text is its pieces, joined by the separator.** -/
theorem join_splitAt (separator : Char) (text : List Char) :
    join [separator] (splitAt (fun c => decide (c = separator)) text) = text := by
  induction text with
  | nil => rfl
  | cons c text ih =>
    obtain ⟨piece, pieces, cut⟩ := exists_splitAt (fun c => decide (c = separator)) text
    by_cases here : c = separator
    · rw [splitAt_cons_of_separates (decide_eq_true here), cut, join_cons_cons, ← cut, ih, here]
      rfl
    · rw [cut] at ih
      rw [splitAt_cons_of_not (decide_eq_false here) cut]
      cases pieces with
      | nil => exact congrArg (c :: ·) ih
      | cons next pieces =>
        rw [join_cons_cons] at ih ⊢
        exact congrArg (c :: ·) ih

/-! ### Cutting at case boundaries -/

/-- Cutting at case boundaries loses nothing. -/
theorem flatten_splitCase (mode : CaseMode) (current : List Char) {text : List Char}
    (present : text ≠ []) :
    (splitCase mode current text).flatten = current.reverse ++ text := by
  fun_induction splitCase mode current text with
  | case1 => exact absurd rfl present
  | case2 => simp
  | case3 mode current c next rest mode' boundary ih => simp [ih]
  | case4 mode current c next rest mode' within boundary ih => simp [ih]
  | case5 mode current c next rest mode' within inside ih => simp [ih]

/-- **The words of a text are its letters and digits**, in their order. -/
theorem flatten_wordsOf (text : List Char) :
    (wordsOf text).flatten = text.filter isAlphanumeric := by
  have pieces (pieces : List (List Char)) :
      ((pieces.filter fun piece => !piece.isEmpty).flatMap (splitCase .start [])).flatten =
        pieces.flatten := by
    induction pieces with
    | nil => rfl
    | cons piece pieces ih =>
      cases piece with
      | nil => exact ih
      | cons c piece =>
        rw [List.filter_cons_of_pos rfl, List.flatMap_cons, List.flatten_append, ih,
          flatten_splitCase .start [] (List.cons_ne_nil c piece), List.flatten_cons]
        rfl
  rw [wordsOf, pieces, flatten_splitAt]
  simp only [Bool.not_not]

theorem mem_wordsOf_iff {text : List Char} {c : Char} :
    (∃ word ∈ wordsOf text, c ∈ word) ↔ c ∈ text.filter isAlphanumeric := by
  rw [← flatten_wordsOf, List.mem_flatten]

/-- What is shouted are underscores and the letters and digits of the text, in upper case. -/
theorem eq_or_mem_of_mem_shoutySnake {text : List Char} {c : Char} (listed : c ∈ shoutySnake text) :
    c = '_' ∨ ∃ source ∈ text.filter isAlphanumeric, c ∈ upperChar source := by
  rcases mem_or_mem_of_mem_join listed with between | ⟨word, found, inside⟩
  · exact .inl (List.mem_singleton.1 between)
  · obtain ⟨lower, known, rfl⟩ := List.mem_map.1 found
    obtain ⟨source, here, upper⟩ := List.mem_flatMap.1 inside
    exact .inr ⟨source, mem_wordsOf_iff.1 ⟨lower, known, here⟩, upper⟩

/-- Every letter and digit of a text is shouted. -/
theorem mem_shoutySnake_of_mem {text : List Char} {source c : Char}
    (listed : source ∈ text.filter isAlphanumeric) (upper : c ∈ upperChar source) :
    c ∈ shoutySnake text := by
  obtain ⟨word, found, inside⟩ := mem_wordsOf_iff.2 listed
  exact mem_join_of_mem (List.mem_map.2 ⟨word, found, rfl⟩)
    (List.mem_flatMap.2 ⟨source, inside, upper⟩)

/-- Without lower case there is no case boundary. -/
theorem splitCase_of_no_lowercase {mode : CaseMode} (notLower : mode ≠ .lower) (current : List Char)
    {text : List Char} (present : text ≠ []) (none : ∀ c ∈ text, isLowercase c = false) :
    splitCase mode current text = [current.reverse ++ text] := by
  have after {mode : CaseMode} (notLower : mode ≠ .lower) {c : Char}
      (other : isLowercase c = false) :
      mode.after c ≠ .lower := by
    unfold CaseMode.after
    rw [other, if_neg Bool.false_ne_true]
    split
    · exact nofun
    · exact notLower
  fun_induction splitCase mode current text with
  | case1 => exact absurd rfl present
  | case2 => simp
  | case3 mode current c next rest mode' boundary ih =>
    exact absurd boundary.1 (after notLower (none c List.mem_cons_self))
  | case4 mode current c next rest mode' within boundary ih =>
    rw [none next (by simp)] at boundary
    cases boundary.2.2
  | case5 mode current c next rest mode' within inside ih =>
    rw [ih (after notLower (none c List.mem_cons_self)) (List.cons_ne_nil next rest)
      fun other listed => none other (.tail _ listed)]
    simp

/-! ### Texts that are shouted -/

/-- A row of capital letters and digits, at least one. -/
def IsShout (word : List Char) : Prop := word ≠ [] ∧ ∀ c ∈ word, isCapital c = true

instance (word : List Char) : Decidable (IsShout word) :=
  decidable_of_iff (word ≠ [] ∧ word.all isCapital = true) (by simp [IsShout])

/-- **Words of capital letters and digits**, at least one, with single underscores between them. -/
def Shouted (text : List Char) : Prop :=
  ∀ piece ∈ splitAt (fun c => decide (c = '_')) text, IsShout piece

instance (text : List Char) : Decidable (Shouted text) := inferInstanceAs (Decidable (∀ _ ∈ _, _))

theorem Shouted.append {first second : List Char} (shoutedFirst : Shouted first)
    (shoutedSecond : Shouted second) : Shouted (first ++ '_' :: second) := by
  unfold Shouted
  rw [splitAt_append_separator (decide_eq_true rfl)]
  exact List.forall_mem_append.2 ⟨shoutedFirst, shoutedSecond⟩

/-- **Shouted texts, joined by underscores, are one.** -/
theorem Shouted.join {texts : List (List Char)} (present : texts ≠ [])
    (each : ∀ text ∈ texts, Shouted text) : Shouted (join ['_'] texts) := by
  induction texts with
  | nil => exact absurd rfl present
  | cons text texts ih =>
    cases texts with
    | nil => exact each text List.mem_cons_self
    | cons next texts =>
      have later := ih (List.cons_ne_nil next texts) fun other listed => each other (.tail _ listed)
      rw [join_cons_cons, List.append_assoc, List.singleton_append]
      exact (each text List.mem_cons_self).append later

variable {text : List Char}

/-- A word is a shouted text. -/
theorem IsShout.shouted (shout : IsShout text) : Shouted text := by
  have none : ∀ c ∈ text, decide (c = '_') = false := fun c listed => decide_eq_false fun same => by
    have capital := shout.2 c listed
    rw [same] at capital
    cases capital
  unfold Shouted
  rw [splitAt_of_none none]
  exact fun piece single => List.mem_singleton.1 single ▸ shout

theorem Shouted.mem (shouted : Shouted text) {c : Char} (listed : c ∈ text) :
    c = '_' ∨ isCapital c = true := by
  by_cases here : c = '_'
  · exact .inl here
  · have kept : c ∈ (splitAt (fun c => decide (c = '_')) text).flatten := by
      rw [flatten_splitAt]
      exact List.mem_filter.2 ⟨listed, by simp [here]⟩
    obtain ⟨piece, found, inside⟩ := List.mem_flatten.1 kept
    exact .inr ((shouted piece found).2 c inside)

/-- A shouted text starts with a capital letter or a digit. -/
theorem Shouted.exists_cons (shouted : Shouted text) : ∃ c rest, text = c :: rest ∧ c ≠ '_' := by
  cases text with
  | nil => exact absurd rfl (shouted [] (by simp [splitAt])).1
  | cons c rest =>
    refine ⟨c, rest, rfl, fun same => ?_⟩
    exact absurd rfl (shouted [] (by rw [splitAt_cons_of_separates (decide_eq_true same)]; simp)).1

/-- A shouted text ends with a capital letter or a digit. -/
theorem Shouted.exists_concat (shouted : Shouted text) :
    ∃ rest c, text = rest ++ [c] ∧ c ≠ '_' := by
  rcases List.eq_nil_or_concat' text with rfl | ⟨rest, c, rfl⟩
  · exact absurd rfl (shouted [] (by simp [splitAt])).1
  · refine ⟨rest, c, rfl, fun same => ?_⟩
    unfold Shouted at shouted
    rw [splitAt_append_separator (decide_eq_true same)] at shouted
    exact absurd rfl (shouted [] (by simp [splitAt])).1

/-- The words of a shouted text are its pieces. -/
theorem Shouted.wordsOf (shouted : Shouted text) :
    wordsOf text = splitAt (fun c => decide (c = '_')) text := by
  have same : splitAt (fun c => !isAlphanumeric c) text =
      splitAt (fun c => decide (c = '_')) text := by
    refine splitAt_congr fun c listed => ?_
    rcases shouted.mem listed with rfl | capital
    · rfl
    · have other : c ≠ '_' := by
        rintro rfl
        cases capital
      rw [(capital_cases capital).1, decide_eq_false other]
      rfl
  have uncut (pieces : List (List Char)) (each : ∀ piece ∈ pieces, IsShout piece) :
      (pieces.filter fun piece => !piece.isEmpty).flatMap (splitCase .start []) = pieces := by
    induction pieces with
    | nil => rfl
    | cons piece pieces ih =>
      obtain ⟨⟨present, capital⟩, others⟩ := List.forall_mem_cons.1 each
      have whole : splitCase .start [] piece = [piece] :=
        splitCase_of_no_lowercase (nofun : CaseMode.start ≠ .lower) [] present fun c listed =>
          (capital_cases (capital c listed)).2.1
      rw [List.filter_cons_of_pos (by simpa using present), List.flatMap_cons, whole, ih others]
      rfl
  rw [Text.wordsOf, same, uncut _ shouted]

/-- **A shouted text stays as it is.** -/
theorem Shouted.shoutySnake (shouted : Shouted text) : shoutySnake text = text := by
  have upper (word : List Char) (capital : ∀ c ∈ word, isCapital c = true) :
      upperWord word = word := by
    induction word with
    | nil => rfl
    | cons c word ih =>
      obtain ⟨first, others⟩ := List.forall_mem_cons.1 capital
      change upperChar c ++ upperWord word = c :: word
      rw [(capital_cases first).2.2, ih others, List.singleton_append]
  rw [Text.shoutySnake, shouted.wordsOf, List.map_congr_left fun word listed =>
    upper word (shouted word listed).2, List.map_id', join_splitAt]

end CatalogSchema.Text
