/-
**Which texts are amounts.**

The reader of amounts drops what is neither a digit nor a separator, infers the decimal mark, writes
a point for the mark and reads the numeral that is left. A single kind of separator is no mark if it
is repeated. Of two kinds the one that occurs last is the mark, however often it occurs, so its
numeral may have several points.

* `mem_normalize`, `count_point_normalize`: the numeral has the digits of the text, and a point for
  each occurrence of the mark.
* `one_lt_count_point_iff`: it has more than one point exactly if the mark is repeated.
* `isDecimal_numeral_iff`: so every other text with a digit has a decimal number for its numeral.
* `parseMoney_refuses_iff`: which texts are refused, and what becomes of the others.
-/

import CatalogSchema.Proofs.Conversion.MoneyFormats
import CatalogSchema.Proofs.Number.Decimals

namespace CatalogSchema

open Number Text

namespace Money

/-! ### Repeated marks -/

/-- The separator that occurs last in a text. -/
def lastSeparator? (text : List Char) : Option Char := (text.filter isSeparator).getLast?

/-- Both separators occur in a text, and the one that occurs last occurs more than once. -/
@[mk_iff] structure RepeatsMark (text : List Char) : Prop where
  point : '.' ∈ text
  comma : ',' ∈ text
  repeated : ∃ last ∈ lastSeparator? text, 1 < text.count last

instance (text : List Char) : Decidable (RepeatsMark text) :=
  decidable_of_iff ('.' ∈ text ∧ ',' ∈ text ∧ (lastSeparator? text).any (1 < text.count ·) = true)
    (by simp [repeatsMark_iff, Option.any_eq_true])

variable {text kept before after : List Char} {mark last c : Char}

theorem isSeparator_of_mem_lastSeparator? (found : last ∈ lastSeparator? text) :
    isSeparator last = true :=
  (List.mem_filter.1 (List.mem_of_mem_getLast? found)).2

theorem isSignificant_of_isSeparator (separating : isSeparator c = true) :
    isSignificant c = true := by
  rw [isSignificant, separating, Bool.or_true]

theorem isDigit_of_isSignificant (significant : isSignificant c = true)
    (other : isSeparator c = false) :
    c.isDigit = true := by
  rwa [isSignificant, other, Bool.or_false] at significant

/-- Whether the mark is repeated is seen from what is kept of a text. -/
theorem repeatsMark_filter : RepeatsMark (text.filter isSignificant) ↔ RepeatsMark text := by
  have listed {c : Char} (separating : isSeparator c = true) :
      c ∈ text.filter isSignificant ↔ c ∈ text := by
    rw [List.mem_filter, and_iff_left (isSignificant_of_isSeparator separating)]
  have among : lastSeparator? (text.filter isSignificant) = lastSeparator? text := by
    have both : ∀ c ∈ text, (isSeparator c && isSignificant c) = isSeparator c := fun c _ => by
      cases separating : isSeparator c <;> simp [isSignificant, separating]
    rw [lastSeparator?, List.filter_filter, List.filter_congr both, lastSeparator?]
  rw [repeatsMark_iff, repeatsMark_iff, listed rfl, listed rfl, among]
  refine and_congr_right fun _ =>
    and_congr_right fun _ => exists_congr fun last => and_congr_right fun found => ?_
  rw [List.count_filter (isSignificant_of_isSeparator (isSeparator_of_mem_lastSeparator? found))]

/-! ### The numeral of a text -/

/-- The numeral that is read of a text. -/
def numeral (text : List Char) : List Char :=
  normalize (decimalMark? (significant (trim text))) (significant (trim text))

/-- A text with a digit is an amount if its numeral is a number. -/
theorem parse?_eq (text : List Char) :
    parse? text = if text.any Char.isDigit then
      (readBinary64? (numeral text)).map fun amount =>
        if isNegative (trim text) then amount.negate else amount
    else none := by
  have digit : (text.filter isSignificant).any Char.isDigit = text.any Char.isDigit := by
    rw [List.any_filter]
    congr 1
    funext c
    cases digit : c.isDigit <;> simp [isSignificant, digit]
  unfold parse? numeral
  dsimp only
  rw [significant_trim, digit]

/-- **What is written for a character**: a point for the mark, and whatever does not separate as it
stands. -/
theorem written_eq_some_iff (mark : Option Char) (c d : Char) :
    (if isSeparator d then if some d = mark then some '.' else none else some d) = some c ↔
      (c = '.' ∧ isSeparator d = true ∧ some d = mark) ∨ (d = c ∧ isSeparator d = false) := by
  by_cases separating : isSeparator d = true
  · by_cases marks : some d = mark <;> simp [separating, marks, eq_comm]
  · simp [separating]

theorem mem_normalize {mark : Option Char} : c ∈ normalize mark kept ↔
    (c = '.' ∧ ∃ d ∈ kept, isSeparator d = true ∧ some d = mark) ∨
      (c ∈ kept ∧ isSeparator c = false) := by
  unfold normalize
  rw [List.mem_filterMap]
  simp only [written_eq_some_iff]
  constructor
  · rintro ⟨d, listed, ⟨point, separating, marks⟩ | ⟨rfl, other⟩⟩
    · exact .inl ⟨point, d, listed, separating, marks⟩
    · exact .inr ⟨listed, other⟩
  · rintro (⟨point, d, listed, separating, marks⟩ | ⟨listed, other⟩)
    · exact ⟨d, listed, .inl ⟨point, separating, marks⟩⟩
    · exact ⟨c, listed, .inr ⟨rfl, other⟩⟩

/-- Digits and points make up the numeral. -/
theorem isDigit_or_eq_point_of_mem_normalize {mark : Option Char}
    (numeric : ∀ c ∈ kept, isSignificant c = true) :
    ∀ c ∈ normalize mark kept, c.isDigit = true ∨ c = '.' := by
  intro c found
  rcases mem_normalize.1 found with ⟨point, -⟩ | ⟨listed, other⟩
  · exact .inr point
  · exact .inl (isDigit_of_isSignificant (numeric c listed) other)

/-- The digits of the numeral are those of the text. -/
theorem mem_normalize_of_isDigit {mark : Option Char} (digit : c.isDigit = true) :
    c ∈ normalize mark kept ↔ c ∈ kept := by
  rw [mem_normalize, and_iff_left (isSeparator_of_isDigit digit), or_iff_right]
  rintro ⟨rfl, -⟩
  cases digit

/-- **The numeral has a point for each occurrence of the mark.** -/
theorem count_point_normalize (mark : Option Char) (kept : List Char) :
    (normalize mark kept).count '.' = kept.countP fun c => isSeparator c && some c = mark := by
  unfold normalize
  rw [List.count_eq_countP, List.countP_filterMap]
  refine List.countP_congr fun c _ => ?_
  -- A point that separates is not written as it stands.
  have noPoint : ¬ (c = '.' ∧ isSeparator c = false) := by
    rintro ⟨rfl, other⟩
    cases other
  have written := written_eq_some_iff mark '.' c
  rw [and_iff_right rfl, or_iff_left noPoint] at written
  rw [Bool.and_eq_true, decide_eq_true_iff, ← written]
  generalize (if isSeparator c then if some c = mark then some '.' else none else some c) = outcome
  cases outcome <;> simp

theorem count_point_normalize_some (separating : isSeparator mark = true) (kept : List Char) :
    (normalize (some mark) kept).count '.' = kept.count mark := by
  rw [count_point_normalize, List.count_eq_countP]
  refine List.countP_congr fun c _ => ?_
  simp only [Bool.and_eq_true, decide_eq_true_eq, Option.some.injEq, beq_iff_eq]
  exact and_iff_right_of_imp fun same => same ▸ separating

theorem count_point_normalize_none (kept : List Char) : (normalize none kept).count '.' = 0 := by
  rw [count_point_normalize, List.countP_eq_zero]
  simp

/-! ### More than one point -/

/-- A row of digits and separators has no separator, or digits behind its last one. -/
theorem exists_last_separator (numeric : ∀ c ∈ kept, isSignificant c = true) :
    (∀ c ∈ kept, c.isDigit = true) ∨ ∃ before last after, kept = before ++ last :: after ∧
      isSeparator last = true ∧ ∀ c ∈ after, c.isDigit = true := by
  have digit (c : Char) (listed : c ∈ kept) : isSeparator c = false → c.isDigit = true :=
    isDigit_of_isSignificant (numeric c listed)
  cases found : kept.reverse.find? isSeparator with
  | none =>
    refine .inl fun c listed => digit c listed ?_
    simpa using List.find?_eq_none.1 found c (List.mem_reverse.2 listed)
  | some last =>
    obtain ⟨separating, after, before, turned, others⟩ := List.find?_eq_some_iff_append.1 found
    have shape : kept = before.reverse ++ last :: after.reverse := by
      rw [List.reverse_eq_iff] at turned
      rw [turned, List.reverse_append, List.reverse_cons, List.append_assoc, List.singleton_append]
    refine .inr ⟨before.reverse, last, after.reverse, shape, separating, fun c listed =>
        digit c ?_ ?_⟩
    · rw [shape]
      exact List.mem_append_right _ (.tail _ listed)
    · simpa using others c (List.mem_reverse.1 listed)

theorem lastSeparator?_of_last (separating : isSeparator last = true)
    (isDigits : ∀ c ∈ after, c.isDigit = true) :
    lastSeparator? (before ++ last :: after) = some last := by
  have none : after.filter isSeparator = [] := List.filter_eq_nil_iff.2 fun c found separates =>
    separator_not_mem isDigits separates found
  rw [lastSeparator?, List.filter_append, List.filter_cons_of_pos separating, none,
    List.getLast?_concat]

/-- The mark is repeated if both separators stand before the last one. -/
theorem repeatsMark_of_last (separating : isSeparator last = true)
    (isDigits : ∀ c ∈ after, c.isDigit = true) :
    RepeatsMark (before ++ last :: after) ↔ (if last = '.' then ',' else '.') ∈ before ∧
      last ∈ before := by
  have again : (∃ mark ∈ lastSeparator? (before ++ last :: after),
    1 < (before ++ last :: after).count mark) ↔
      last ∈ before := by
    rw [lastSeparator?_of_last separating isDigits, ← one_lt_count_last_iff separating isDigits]
    simp
  have noPoint : '.' ∉ after := separator_not_mem isDigits rfl
  have noComma : ',' ∉ after := separator_not_mem isDigits rfl
  have kinds : last = '.' ∨ last = ',' := by simpa [isSeparator] using separating
  rw [repeatsMark_iff, again, ← and_assoc]
  refine and_congr_left fun _ => ?_
  rcases kinds with rfl | rfl <;> simp [noPoint, noComma]

/-- **The numeral has more than one point** exactly if the mark is repeated. -/
theorem one_lt_count_point_iff (numeric : ∀ c ∈ kept, isSignificant c = true) :
    1 < (normalize (decimalMark? kept) kept).count '.' ↔ RepeatsMark kept := by
  rcases exists_last_separator numeric with
    isDigits | ⟨before, last, after, rfl, separating, isDigits⟩
  · rw [decimalMark?_of_digits isDigits, count_point_normalize_none]
    exact iff_of_false (by omega) fun repeats => separator_not_mem isDigits rfl repeats.point
  · rw [decimalMark?_of_last separating isDigits, repeatsMark_of_last separating isDigits]
    generalize (if last = '.' then ',' else '.') = other
    by_cases both : other ∈ before
    · rw [if_pos both, count_point_normalize_some separating,
        one_lt_count_last_iff separating isDigits, and_iff_right both]
    · rw [if_neg both]
      refine iff_of_false ?_ fun repeats => both repeats.1
      split
      · rw [count_point_normalize_none]
        omega
      · rename_i mark
        rw [count_point_normalize_some separating, one_lt_count_last_iff separating isDigits]
        exact fun listed => mark (.inl listed)

/-! ### Amounts -/

theorem isSignificant_of_mem_significant (listed : c ∈ significant text) : isSignificant c = true :=
  (List.mem_filter.1 listed).2

theorem isDigit_or_eq_point_of_mem_numeral : ∀ c ∈ numeral text, c.isDigit = true ∨ c = '.' :=
  isDigit_or_eq_point_of_mem_normalize fun _ => isSignificant_of_mem_significant

/-- A numeral is read if it is a decimal number. -/
theorem readBinary64?_numeral_ne_none_iff :
    readBinary64? (numeral text) ≠ none ↔ IsDecimal (numeral text) :=
  readBinary64?_ne_none_iff_of_digits_points isDigit_or_eq_point_of_mem_numeral

/-- **The numeral of a text is a decimal number** if there is a digit and the mark is not
repeated. -/
theorem isDecimal_numeral_iff :
    IsDecimal (numeral text) ↔ (∃ c ∈ text, c.isDigit = true) ∧ ¬ RepeatsMark text := by
  have digits : (∃ c ∈ numeral text, c.isDigit = true) ↔ ∃ c ∈ text, c.isDigit = true := by
    refine exists_congr fun c => and_congr_left fun digit => ?_
    rw [numeral, mem_normalize_of_isDigit digit, significant_trim, List.mem_filter]
    exact and_iff_left (by rw [isSignificant, digit, Bool.true_or])
  have points : 1 < (numeral text).count '.' ↔ RepeatsMark text := by
    rw [numeral, one_lt_count_point_iff fun _ => isSignificant_of_mem_significant, significant_trim,
      repeatsMark_filter]
  rw [isDecimal_iff_of_digits_points isDigit_or_eq_point_of_mem_numeral, digits,
    ← points, Nat.not_lt]

/-- A text whose numeral is a decimal number is read as that number, with its sign. -/
theorem parse?_of_isDecimal (decimal : IsDecimal (numeral text)) :
    ∃ value, readBinary64? (numeral text) = some value ∧
      parse? text = some (if isNegative (trim text) then value.negate else value) := by
  obtain ⟨value, read⟩ := Option.ne_none_iff_exists'.1 (readBinary64?_numeral_ne_none_iff.2 decimal)
  refine ⟨value, read, ?_⟩
  rw [parse?_eq, if_pos (List.any_eq_true.2 (isDecimal_numeral_iff.1 decimal).1), read]
  rfl

/-- No other text is read. -/
theorem parse?_of_not_isDecimal (garbled : ¬ IsDecimal (numeral text)) : parse? text = none := by
  have unread : readBinary64? (numeral text) = none := not_ne_iff.1 fun read =>
    garbled (readBinary64?_numeral_ne_none_iff.1 read)
  rw [parse?_eq, unread, Option.map_none, ite_self]

/-- **Which texts are refused.** A text is no amount exactly if it has no digit, or has both
separators and repeats the one that occurs last; the error names the text. Of every other text the
numeral is a decimal number, and the amount is that number with the sign of the text. -/
theorem parseMoney_refuses_iff (text : String) :
    ((∃ error, parseMoney text = .error error) ↔
      (∀ c ∈ text.toList, c.isDigit = false) ∨ RepeatsMark text.toList) ∧
    (parseMoney text = .error (.malformedMoney text) ↔
      (∀ c ∈ text.toList, c.isDigit = false) ∨ RepeatsMark text.toList) ∧
    (IsDecimal (numeral text.toList) ↔ (∃ c ∈ text.toList, c.isDigit = true) ∧
      ¬ RepeatsMark text.toList) ∧
    ((∃ value, readBinary64? (numeral text.toList) = some value ∧
      parseMoney text = .ok (if isNegative (trim text.toList) then value.negate else value)) ↔
      (∃ c ∈ text.toList, c.isDigit = true) ∧ ¬ RepeatsMark text.toList) := by
  have refused : ¬ IsDecimal (numeral text.toList) ↔
      (∀ c ∈ text.toList, c.isDigit = false) ∨ RepeatsMark text.toList := by
    rw [isDecimal_numeral_iff, not_and_or, not_not]
    simp
  rw [← refused, ← isDecimal_numeral_iff]
  by_cases decimal : IsDecimal (numeral text.toList)
  · obtain ⟨value, read, parsed⟩ := parse?_of_isDecimal decimal
    have amount : parseMoney text =
        .ok (if isNegative (trim text.toList) then value.negate else value) := by
      unfold parseMoney
      rw [parsed]
    refine ⟨iff_of_false ?_ (not_not.2 decimal), iff_of_false ?_ (not_not.2 decimal), Iff.rfl,
      iff_of_true ⟨value, read, amount⟩ decimal⟩
    · rintro ⟨error, failed⟩
      cases amount.symm.trans failed
    · intro failed
      cases amount.symm.trans failed
  · have failed : parseMoney text = .error (.malformedMoney text) := by
      unfold parseMoney
      rw [parse?_of_not_isDecimal decimal]
    refine ⟨iff_of_true ⟨_, failed⟩ decimal, iff_of_true failed decimal, Iff.rfl,
      iff_of_false ?_ decimal⟩
    rintro ⟨value, -, amount⟩
    cases amount.symm.trans failed

/-- A decimal comma behind groups of points is no amount if it comes twice; a single kind is taken
for groups. -/
example : RepeatsMark "1.234,56,7".toList ∧ ¬ RepeatsMark "1,234,56,7".toList ∧
    numeral "1,234,56,7".toList = "1234567".toList := by decide +kernel

end Money

end CatalogSchema
