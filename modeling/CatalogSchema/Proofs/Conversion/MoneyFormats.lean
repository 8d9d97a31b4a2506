/-
**Formatted amounts read back.**

A locale decides which separator marks the decimals, groups the digits before it in threes, and puts
a currency and a sign around the numeral. The reader is told none of this. It drops what is neither
a digit nor a separator and infers the mark from the number and the position of the separators; here
a printer makes the decisions.

* `decimalMark?_formatted`: the mark that is inferred is the one that was written, unless three
  decimals follow it.
* `normalize_formatted`: without the groups, the numeral is the plain one.
* `significant_text`, `isNegative_text`: what stands around the numeral decides the sign and nothing
  else.
* `parseMoney_formatted`: so a formatted amount is read as the plain numeral is, with its sign.
-/

import CatalogSchema.Conversion.Money
import CatalogSchema.Proofs.Conversion.Numbers
import CatalogSchema.Proofs.Number.FreeText
import CatalogSchema.Proofs.Text.Blank
import Mathlib.Data.List.Basic

namespace CatalogSchema.Money

open Number Text

/-! ### The numeral of an amount -/

/-- Which separator marks the decimals; the other one groups digits. -/
inductive Style where
  /-- As in `1,234.56`. -/
  | decimalPoint
  /-- As in `1.234,56`. -/
  | decimalComma
  deriving DecidableEq

/-- The mark before the decimals. -/
def Style.mark : Style → Char
  | .decimalPoint => '.'
  | .decimalComma => ','

/-- The separator of groups. -/
def Style.separator : Style → Char
  | .decimalPoint => ','
  | .decimalComma => '.'

/-- Digits from the last to the first, with a separator after every third one that another
follows. -/
def groupThrees (separator : Char) : List Char → List Char
  | first :: second :: third :: next :: more =>
    first :: second :: third :: separator :: groupThrees separator (next :: more)
  | digits => digits

/-- Digits in groups of three, counted from the right. -/
def grouped (separator : Char) (digits : List Char) : List Char :=
  (groupThrees separator digits.reverse).reverse

/-- The last digits of a number, with zeros in front where it has fewer. -/
def lastDigits : Nat → Nat → List Char
  | 0, _ => []
  | places + 1, amount => lastDigits places (amount / 10) ++ [Nat.digitChar (amount % 10)]

/-- The decimals after their mark; there is no mark without decimals. -/
def decimals (mark : Char) (places amount : Nat) : List Char :=
  if places = 0 then [] else mark :: lastDigits places amount

/-- The decimal numeral of an amount whose last digits are decimals. -/
def plain (amount places : Nat) : List Char :=
  digitsOfNat (amount / 10 ^ places) ++ decimals '.' places amount

/-- The numeral in a style. -/
def formatted (style : Style) (amount places : Nat) : List Char :=
  grouped style.separator (digitsOfNat (amount / 10 ^ places)) ++ decimals style.mark places amount

variable {style : Style} {amount places : Nat} {digits : List Char} {separator mark c : Char}

/-! ### Digits and separators -/

/-- Holds of what the reader keeps. -/
def isSignificant (c : Char) : Bool := c.isDigit || isSeparator c

theorem isSeparator_of_isDigit (digit : c.isDigit = true) : isSeparator c = false := by
  have point : c ≠ '.' := by rintro rfl; cases digit
  have comma : c ≠ ',' := by rintro rfl; cases digit
  simp [isSeparator, point, comma]

theorem isBlank_of_isSignificant (significant : isSignificant c = true) : isBlank c = false := by
  have cases : c.isDigit = true ∨ c = '.' ∨ c = ',' := by
    simpa [isSignificant, isSeparator] using significant
  rcases cases with digit | rfl | rfl
  · exact isBlank_of_isNumeralChar (isNumeralChar_of_isDigit digit)
  all_goals rfl

/-- There is no separator among digits. -/
theorem separator_not_mem (isDigits : ∀ c ∈ digits, c.isDigit = true)
    (separating : isSeparator c = true) :
    c ∉ digits := fun found =>
  absurd separating (by simp [isSeparator_of_isDigit (isDigits c found)])

/-- What is kept of a text does not depend on the blanks around it. -/
theorem significant_trim (text : List Char) : significant (trim text) = text.filter isSignificant :=
  filter_trim (fun _ => isBlank_of_isSignificant) text

@[simp] theorem Style.isSeparator_mark (style : Style) : isSeparator style.mark = true := by
  cases style <;> rfl

@[simp] theorem Style.isSeparator_separator (style : Style) :
    isSeparator style.separator = true := by
  cases style <;> rfl

theorem Style.separator_ne_mark (style : Style) : style.separator ≠ style.mark := by
  cases style <;> decide

/-- The mark of a style is the other one to its separator. -/
theorem Style.other_separator (style : Style) :
    (if style.separator = '.' then ',' else '.') = style.mark := by
  cases style <;> rfl

/-! ### Groups -/

/-- Nothing but the digits and the separator stands in groups. -/
theorem mem_groupThrees (separator : Char) (digits : List Char) :
    ∀ c ∈ groupThrees separator digits, c ∈ digits ∨ c = separator := by
  fun_induction groupThrees separator digits with
  | case1 first second third next more ih =>
    intro c found
    rcases List.mem_append.1 (show c ∈ [first, second, third, separator] ++ _ from found) with
      found | found
    · simp only [List.mem_cons, List.not_mem_nil, or_false] at found ⊢
      rcases found with rfl | rfl | rfl | rfl <;> simp
    · exact (ih c found).imp_left fun listed => .tail _ (.tail _ (.tail _ listed))
  | case2 digits => exact fun c found => .inl found

theorem sublist_groupThrees (separator : Char) (digits : List Char) :
    digits.Sublist (groupThrees separator digits) := by
  fun_induction groupThrees separator digits with
  | case1 first second third next more ih =>
    exact .cons_cons _ (.cons_cons _ (.cons_cons _ (.cons _ ih)))
  | case2 digits => exact .refl digits

theorem mem_grouped_of_mem (separator : Char) (found : c ∈ digits) : c ∈ grouped separator digits :=
  List.mem_reverse.2 ((sublist_groupThrees separator _).mem (List.mem_reverse.2 found))

theorem mem_grouped (found : c ∈ grouped separator digits) : c ∈ digits ∨ c = separator := by
  have within := mem_groupThrees separator digits.reverse c (List.mem_reverse.1 found)
  rwa [List.mem_reverse] at within

/-- Groups without their separators are the digits. -/
theorem filterMap_groupThrees {written : Char → Option Char} (dropped : written separator = none)
    (digits : List Char) :
    (groupThrees separator digits).filterMap written = digits.filterMap written := by
  fun_induction groupThrees separator digits with
  | case1 first second third next more ih => simp only [List.filterMap_cons, dropped, ih]
  | case2 digits => rfl

/-- **At most three digits are one group**; of more, three stand after the last separator. -/
theorem groupThrees_cases (separator : Char) (digits : List Char) :
    groupThrees separator digits = digits ∨
      ∃ first second third more, (∀ c ∈ [first, second, third], c ∈ digits) ∧
        groupThrees separator digits = first :: second :: third :: separator :: more := by
  unfold groupThrees
  split
  · exact .inr ⟨_, _, _, _, by simp, rfl⟩
  · exact .inl rfl

/-! ### Decimals -/

@[simp] theorem length_lastDigits (places amount : Nat) :
    (lastDigits places amount).length = places := by
  induction places generalizing amount with
  | zero => rfl
  | succ places ih => simp [lastDigits, ih]

theorem isDigit_of_mem_lastDigits {places amount : Nat} (found : c ∈ lastDigits places amount) :
    c.isDigit = true := by
  induction places generalizing amount with
  | zero => cases found
  | succ places ih =>
    rcases List.mem_append.1 found with found | found
    · exact ih found
    · rw [List.mem_singleton.1 found, Nat.isDigit_digitChar]
      exact decide_eq_true (Nat.mod_lt amount (by omega))

/-- **The digits before the mark and the decimals after it are those of the amount.** -/
theorem natOfDigits_parts (places amount : Nat) :
    natOfDigits (digitsOfNat (amount / 10 ^ places) ++ lastDigits places amount) = amount := by
  induction places generalizing amount with
  | zero => simp [lastDigits]
  | succ places ih =>
    have before : amount / 10 ^ (places + 1) = amount / 10 / 10 ^ places := by
      rw [Nat.pow_succ', Nat.div_div_eq_div_mul]
    rw [before, lastDigits, ← List.append_assoc, natOfDigits_eq, Nat.ofDigitChars_append,
      ← natOfDigits_eq, ih]
    rw [Nat.ofDigitChars_cons_digitChar_of_lt_ten (Nat.mod_lt amount (by omega)),
      Nat.ofDigitChars_nil]
    exact Nat.div_add_mod amount 10

/-! ### The mark that is inferred -/

/-- The last separator is repeated if it stands before as well. -/
theorem one_lt_count_last_iff {before after : List Char} {last : Char}
    (separating : isSeparator last = true) (isDigits : ∀ c ∈ after, c.isDigit = true) :
    1 < (before ++ last :: after).count last ↔ last ∈ before := by
  rw [List.count_append, List.count_cons_self,
    List.count_eq_zero.2 (separator_not_mem isDigits separating), ← List.count_pos_iff]
  omega

/-- **What the last separator is taken for**: the mark after separators of the other kind; a single
kind groups if it stands more than once or before three digits. -/
theorem decimalMark?_of_last {before after : List Char} {last : Char}
    (separating : isSeparator last = true) (isDigits : ∀ c ∈ after, c.isDigit = true) :
    decimalMark? (before ++ last :: after) =
      if (if last = '.' then ',' else '.') ∈ before then some last
      else if last ∈ before ∨ after.length = 3 then none else some last := by
  -- No separator stands behind the last one, so counting and searching see what stands before it.
  have digit : ∀ c ∈ after, isSeparator c = false :=
    fun c found => isSeparator_of_isDigit (isDigits c found)
  have turned : (before ++ last :: after).reverse = after.reverse ++ last :: before.reverse := by
    simp
  have found : (after.reverse ++ last :: before.reverse).find? isSeparator = some last := by
    rw [List.find?_append, List.find?_eq_none.2 (by simpa using digit), Option.none_or,
      List.find?_cons_of_pos separating]
  have taken : (after.reverse ++ last :: before.reverse).takeWhile (· ≠ last) = after.reverse := by
    have others : ∀ c ∈ after.reverse, decide (c ≠ last) = true := fun c listed =>
      decide_eq_true fun same =>
        separator_not_mem isDigits separating (same ▸ List.mem_reverse.1 listed)
    rw [List.takeWhile_append_of_pos others, List.takeWhile_cons_of_neg (by simp), List.append_nil]
  have other : (before ++ last :: after).contains (if last = '.' then ',' else '.') = true ↔
      (if last = '.' then ',' else '.') ∈ before := by
    have different : (if last = '.' then ',' else '.') ≠ last := by
      by_cases point : last = '.' <;> simp [point, eq_comm]
    have separates : isSeparator (if last = '.' then ',' else '.') = true := by
      by_cases point : last = '.' <;> simp [point, isSeparator]
    simp [different, separator_not_mem isDigits separates]
  unfold decimalMark?
  rw [turned, found]
  simp only [taken, one_lt_count_last_iff separating isDigits, other, List.length_reverse]

theorem decimalMark?_of_digits (isDigits : ∀ c ∈ digits, c.isDigit = true) :
    decimalMark? digits = none := by
  have none? : digits.reverse.find? isSeparator = none :=
    List.find?_eq_none.2 fun c found => by
      simp [isSeparator_of_isDigit (isDigits c (List.mem_reverse.1 found))]
  unfold decimalMark?
  rw [none?]

/-- The mark of a style does not stand in groups. -/
theorem mark_not_mem_grouped (style : Style) (isDigits : ∀ c ∈ digits, c.isDigit = true) :
    style.mark ∉ grouped style.separator digits := by
  intro found
  rcases mem_grouped found with digit | same
  · exact absurd (isSeparator_of_isDigit (isDigits _ digit)) (by simp)
  · exact style.separator_ne_mark same.symm

/-- **Groups without decimals have no mark**: three digits follow the last separator. -/
theorem decimalMark?_grouped (style : Style) (isDigits : ∀ c ∈ digits, c.isDigit = true) :
    decimalMark? (grouped style.separator digits) = none := by
  have noMark := mark_not_mem_grouped style isDigits
  rcases groupThrees_cases style.separator digits.reverse with
    single | ⟨first, second, third, more, listed, several⟩
  · rw [grouped, single, List.reverse_reverse]
    exact decimalMark?_of_digits isDigits
  · have shape : grouped style.separator digits =
        more.reverse ++ style.separator :: [third, second, first] := by
      simp [grouped, several]
    have last : ∀ c ∈ [third, second, first], c.isDigit = true := fun c found =>
      isDigits c (List.mem_reverse.1 (listed c (by simpa [or_comm, or_left_comm] using found)))
    rw [shape] at noMark ⊢
    rw [decimalMark?_of_last style.isSeparator_separator last, style.other_separator,
      if_neg fun found => noMark (List.mem_append_left _ found), if_pos (.inr rfl)]

/-- **The mark that is inferred is the one that was written**, unless three decimals follow it. -/
theorem decimalMark?_formatted (style : Style) (amount : Nat) (notThree : places ≠ 3) :
    decimalMark? (formatted style amount places) =
      if places = 0 then none else some style.mark := by
  have whole : ∀ c ∈ digitsOfNat (amount / 10 ^ places), c.isDigit = true :=
    fun _ => isDigit_of_mem_digitsOfNat
  by_cases zero : places = 0
  · rw [formatted, decimals, if_pos zero, if_pos zero, List.append_nil,
      decimalMark?_grouped style whole]
  · rw [formatted, decimals, if_neg zero, if_neg zero,
      decimalMark?_of_last style.isSeparator_mark fun _ => isDigit_of_mem_lastDigits,
      length_lastDigits, if_neg (not_or.2 ⟨mark_not_mem_grouped style whole, notThree⟩), ite_self]

/-- Three decimals behind a single group are taken for a second group. -/
example : decimalMark? (formatted .decimalPoint 1234 3) = none := by decide +kernel

/-! ### The numeral without its groups -/

theorem normalize_digits (mark : Option Char) (isDigits : ∀ c ∈ digits, c.isDigit = true) :
    normalize mark digits = digits := by
  have kept : ∀ c ∈ digits,
      (if isSeparator c then if some c = mark then some '.' else none else some c) = some c :=
    fun c found => by simp [isSeparator_of_isDigit (isDigits c found)]
  unfold normalize
  rw [List.filterMap_congr kept, List.filterMap_some]

theorem normalize_append (mark : Option Char) (first second : List Char) :
    normalize mark (first ++ second) = normalize mark first ++ normalize mark second :=
  List.filterMap_append

/-- Separators of groups are dropped, whatever the mark. -/
theorem normalize_grouped {mark : Option Char} (separating : isSeparator separator = true)
    (other : some separator ≠ mark) (isDigits : ∀ c ∈ digits, c.isDigit = true) :
    normalize mark (grouped separator digits) = digits := by
  have dropped : (if isSeparator separator then if some separator = mark then some '.' else none
      else some separator) = none := by rw [if_pos separating, if_neg other]
  have reversed : ∀ c ∈ digits.reverse, c.isDigit = true :=
    fun c found => isDigits c (List.mem_reverse.1 found)
  have kept : normalize mark digits.reverse = digits.reverse := normalize_digits mark reversed
  unfold normalize at kept ⊢
  rw [grouped, List.filterMap_reverse, filterMap_groupThrees dropped, kept, List.reverse_reverse]

/-- **Without its groups and with a point for its mark, the numeral is the plain one.** -/
theorem normalize_formatted (style : Style) (amount places : Nat) :
    normalize (if places = 0 then none else some style.mark) (formatted style amount places) =
      plain amount places := by
  have whole : ∀ c ∈ digitsOfNat (amount / 10 ^ places), c.isDigit = true :=
    fun _ => isDigit_of_mem_digitsOfNat
  unfold formatted plain decimals
  rw [normalize_append]
  by_cases zero : places = 0
  · simp only [if_pos zero]
    rw [normalize_grouped style.isSeparator_separator (Option.some_ne_none _) whole]
    rfl
  · have other : some style.separator ≠ some style.mark := fun same =>
      style.separator_ne_mark (Option.some.inj same)
    have marked : normalize (some style.mark) [style.mark] = ['.'] := by simp [normalize]
    simp only [if_neg zero]
    rw [normalize_grouped style.isSeparator_separator other whole, ← List.singleton_append,
      normalize_append, marked, normalize_digits _ fun _ => isDigit_of_mem_lastDigits]
    rfl

/-- **The plain numeral denotes the amount**, scaled by its decimals. -/
theorem readBinary64?_plain (amount places : Nat) :
    readBinary64? (plain amount places) = some (Numeral.mk false amount (-places)).toBinary64 := by
  let spelling : Spelling :=
    ⟨digitsOfNat (amount / 10 ^ places),
      if places = 0 then none else some (lastDigits places amount), none⟩
  have fraction : ∀ digits ∈ spelling.fraction, places ≠ 0 ∧ lastDigits places amount = digits := by
    intro digits given
    by_cases zero : places = 0
    · cases (if_pos zero).symm.trans given
    · exact ⟨zero, Option.some.inj ((if_neg zero).symm.trans given)⟩
  have proper : spelling.Proper :=
    { Spelling.proper_digitsOfNat (amount / 10 ^ places) with
      fraction_ne_nil := fun digits given empty => by
        obtain ⟨some?, rfl⟩ := fraction digits given
        exact some? (by rw [← length_lastDigits places amount, empty, List.length_nil])
      fraction_digits := fun digits given c found => by
        obtain ⟨-, rfl⟩ := fraction digits given
        exact isDigit_of_mem_lastDigits found }
  have text : spelling.text = plain amount places := by
    unfold spelling Spelling.text plain decimals
    by_cases zero : places = 0 <;> simp [zero, Spelling.fractionText, Spelling.powerText]
  have decimals : spelling.fraction.getD [] = lastDigits places amount := by
    by_cases zero : places = 0
    · simp [spelling, zero, lastDigits]
    · simp [spelling, zero]
  have numeral : spelling.numeral false = ⟨false, amount, -places⟩ := by
    unfold Spelling.numeral Numeral.ofParts
    rw [decimals, natOfDigits_parts, length_lastDigits]
    simp [spelling]
  rw [← text, ← numeral]
  exact readBinary64?_text proper false

/-! ### What stands around the numeral -/

/-- Holds of the characters that are neither part of a numeral nor of a sign. -/
def isDecoration (c : Char) : Bool := !(isSignificant c || c = '-' || c = '(' || c = ')')

/-- The currency around a numeral and how an amount below zero is shown. -/
structure Dressing where
  /-- Text in front, before the minus. -/
  before : List Char
  /-- Text between the minus and the numeral. -/
  symbol : List Char
  /-- Text behind the numeral. -/
  after : List Char
  /-- Whether a minus is written. -/
  minus : Bool
  /-- Whether parentheses enclose the whole. -/
  parentheses : Bool
  decorative : ∀ c ∈ before ++ (symbol ++ after), isDecoration c = true

namespace Dressing

variable (dressing : Dressing) (numeral : List Char)

/-- What stands in front of the numeral. -/
def front : List Char :=
  (if dressing.parentheses then ['('] else []) ++
    (dressing.before ++ ((if dressing.minus then ['-'] else []) ++ dressing.symbol))

/-- What stands behind the numeral. -/
def back : List Char := dressing.after ++ if dressing.parentheses then [')'] else []

/-- The text of an amount. -/
def text : List Char := dressing.front ++ (numeral ++ dressing.back)

/-- Whether the amount is shown below zero. -/
def negative : Bool := dressing.minus || dressing.parentheses

variable {dressing}

theorem mem_front_or_back (found : c ∈ dressing.front ∨ c ∈ dressing.back) :
    isDecoration c = true ∨ (dressing.minus = true ∧ c = '-') ∨
      (dressing.parentheses = true ∧ (c = '(' ∨ c = ')')) := by
  obtain ⟨before, symbol, after, minus, parentheses, decorative⟩ := dressing
  simp only [front, back, List.mem_append, List.mem_ite_nil_right, List.mem_singleton]
    at found decorative
  rcases found with (⟨written, rfl⟩ | found | ⟨written, rfl⟩ | found) | found | ⟨written, rfl⟩
  · exact .inr (.inr ⟨written, .inl rfl⟩)
  · exact .inl (decorative c (.inl found))
  · exact .inr (.inl ⟨written, rfl⟩)
  · exact .inl (decorative c (.inr (.inl found)))
  · exact .inl (decorative c (.inr (.inr found)))
  · exact .inr (.inr ⟨written, .inr rfl⟩)

/-- Parentheses stand at both ends. -/
theorem enclosed_text (written : dressing.parentheses = true) :
    ∃ inner, dressing.text numeral = '(' :: (inner ++ [')']) :=
  ⟨dressing.before ++
    ((if dressing.minus then ['-'] else []) ++ (dressing.symbol ++ (numeral ++ dressing.after))),
    by simp [text, front, back, written]⟩

variable {numeral} (numeric : ∀ c ∈ numeral, isSignificant c = true)

include numeric

theorem mem_text (found : c ∈ dressing.text numeral) :
    isSignificant c = true ∨ isDecoration c = true ∨ (dressing.minus = true ∧ c = '-') ∨
      (dressing.parentheses = true ∧ (c = '(' ∨ c = ')')) := by
  simp only [text, List.mem_append] at found
  rcases found with found | found | found
  · exact .inr (mem_front_or_back (.inl found))
  · exact .inl (numeric c found)
  · exact .inr (mem_front_or_back (.inr found))

/-- **What is kept of an amount is its numeral.** -/
theorem significant_text : significant (trim (dressing.text numeral)) = numeral := by
  have dropped {part : List Char} (within : ∀ c ∈ part, c ∈ dressing.front ∨ c ∈ dressing.back) :
      part.filter isSignificant = [] := by
    refine List.filter_eq_nil_iff.2 fun c found keeps => ?_
    rcases mem_front_or_back (within c found) with decoration | ⟨-, rfl⟩ | ⟨-, rfl | rfl⟩
    · simp [isDecoration, keeps] at decoration
    all_goals cases keeps
  rw [significant_trim, text, List.filter_append, List.filter_append, dropped fun _ => .inl,
    dropped fun _ => .inr, List.filter_eq_self.2 numeric, List.append_nil, List.nil_append]

theorem minus_mem_text : '-' ∈ dressing.text numeral ↔ dressing.minus = true := by
  constructor
  · intro found
    rcases mem_text numeric found with digit | decoration | ⟨written, -⟩ | ⟨-, other | other⟩
    · cases digit
    · cases decoration
    · exact written
    · cases other
    · cases other
  · intro written
    simp [text, front, written]

/-- **The sign is that of the dressing**: a minus anywhere or parentheses around everything. -/
theorem isNegative_text : isNegative (trim (dressing.text numeral)) = dressing.negative := by
  have minus : (trim (dressing.text numeral)).contains '-' = dressing.minus := by
    rw [Bool.eq_iff_iff, List.contains_iff_mem, mem_trim rfl, minus_mem_text numeric]
  unfold isNegative negative
  rw [minus]
  congr 1
  by_cases written : dressing.parentheses = true
  · obtain ⟨inner, shape⟩ := enclosed_text numeral written
    have whole : trim (dressing.text numeral) = dressing.text numeral := by
      refine trim_of_visible_ends ?_ ?_ <;> rw [shape]
      · rintro _ ⟨⟩
        rfl
      · rw [← List.cons_append, List.getLast?_concat]
        rintro _ ⟨⟩
        rfl
    rw [whole, shape, written, ← List.cons_append, List.getLast?_concat]
    rfl
  · -- Without parentheses none stands anywhere, so none is first after trimming.
    have opened : (trim (dressing.text numeral)).head? ≠ some '(' := by
      intro first
      have found := (mem_trim rfl).1 (List.mem_of_mem_head? first)
      rcases mem_text numeric found with digit | decoration | ⟨-, other⟩ | ⟨enclosed, -⟩
      · cases digit
      · cases decoration
      · cases other
      · exact written enclosed
    simp [opened, Bool.eq_false_iff.2 written]

end Dressing

/-! ### Amounts -/

theorem isSignificant_of_mem_formatted (found : c ∈ formatted style amount places) :
    isSignificant c = true := by
  have ofDigit (digit : c.isDigit = true) : isSignificant c = true := by simp [isSignificant, digit]
  rcases List.mem_append.1 found with found | found
  · rcases mem_grouped found with digit | rfl
    · exact ofDigit (isDigit_of_mem_digitsOfNat digit)
    · simp [isSignificant]
  · unfold decimals at found
    split at found
    · cases found
    · rcases List.mem_cons.1 found with rfl | digit
      · simp [isSignificant]
      · exact ofDigit (isDigit_of_mem_lastDigits digit)

/-- A numeral has a digit. -/
theorem any_isDigit_formatted (style : Style) (amount places : Nat) :
    (formatted style amount places).any Char.isDigit = true := by
  obtain ⟨c, found⟩ := List.exists_mem_of_ne_nil _ (digitsOfNat_ne_nil (amount / 10 ^ places))
  exact List.any_eq_true.2
    ⟨c, List.mem_append_left _ (mem_grouped_of_mem style.separator found),
      isDigit_of_mem_digitsOfNat found⟩

/-- **A formatted amount is read as its plain numeral is, with its sign**: in either style, for an
amount of any magnitude and any number of decimals but three, whatever stands around the numeral. -/
theorem parseMoney_formatted (style : Style) (amount : Nat) {places : Nat} (notThree : places ≠ 3)
    (dressing : Dressing) :
    ∃ value, readBinary64? (plain amount places) = some value ∧
      value = (Numeral.mk false amount (-places)).toBinary64 ∧
      parseMoney (String.ofList (dressing.text (formatted style amount places))) =
        .ok (if dressing.negative then value.negate else value) := by
  refine ⟨_, readBinary64?_plain amount places, rfl, ?_⟩
  have numeric : ∀ c ∈ formatted style amount places, isSignificant c = true := fun _ =>
    isSignificant_of_mem_formatted
  have parsed : parse? (dressing.text (formatted style amount places)) =
      some (if dressing.negative then (Numeral.mk false amount (-places)).toBinary64.negate
        else (Numeral.mk false amount (-places)).toBinary64) := by
    unfold parse?
    dsimp only
    rw [Dressing.significant_text numeric, Dressing.isNegative_text numeric,
      if_pos (any_isDigit_formatted style amount places),
      decimalMark?_formatted style amount notThree, normalize_formatted, readBinary64?_plain]
    rfl
  unfold parseMoney
  rw [String.toList_ofList, parsed]

/-- Two groups and a decimal comma, a minus in front of the currency, and parentheses around
everything. -/
def overdrawn : Dressing where
  before := " ".toList
  symbol := "US$ ".toList
  after := " net".toList
  minus := true
  parentheses := true
  decorative := List.all_eq_true.1 rfl

theorem parseMoney_formatted_overdrawn :
    overdrawn.text (formatted .decimalComma 123456705 2) = "( -US$ 1.234.567,05 net)".toList ∧
      plain 123456705 2 = "1234567.05".toList ∧ 2 ≠ 3 ∧
      ∃ value, readBinary64? "1234567.05".toList = some value ∧
        value = (Numeral.mk false 123456705 (-2)).toBinary64 ∧
        parseMoney "( -US$ 1.234.567,05 net)" = .ok value.negate := by
  have text : overdrawn.text (formatted .decimalComma 123456705 2) =
      "( -US$ 1.234.567,05 net)".toList := by
    decide +kernel
  have numeral : plain 123456705 2 = "1234567.05".toList := by decide +kernel
  obtain ⟨value, read, same, parsed⟩ :=
    parseMoney_formatted .decimalComma 123456705 (show 2 ≠ 3 by decide) overdrawn
  rw [text, String.ofList_toList] at parsed
  exact ⟨text, numeral, by decide, value, numeral ▸ read, same, parsed⟩

end CatalogSchema.Money
