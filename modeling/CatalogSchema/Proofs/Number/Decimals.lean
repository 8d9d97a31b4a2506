/-
**The grammar of decimal numbers.**

A decimal number is an optional sign, digits with at most one point among them and at least one
digit, and an optional exponent: `e` or `E`, an optional sign and at least one digit.

* `readExponent?_ne_none_iff`, `readMagnitude?_ne_none_iff`: the readers of the parts accept exactly
  what the grammar derives.
* `readBinary64?_ne_none_iff`: the free form of a number is a decimal number or the name of a
  special value.
* `isDecimal_iff_of_digits_points`: of digits and points, a digit and at most one point make a
  decimal number.
* `isDecimal_of_proper`: every number is printed as a decimal number.
-/

import CatalogSchema.Proofs.Number.FreeText
import CatalogSchema.Proofs.Text.Blank

namespace CatalogSchema.Number

/-! ### The grammar -/

/-- No sign, or one of the two. -/
inductive IsSign : List Char → Prop
  | none : IsSign []
  | minus : IsSign ['-']
  | plus : IsSign ['+']

/-- Digits with at most one point among them, and at least one digit. -/
inductive IsSignificand : List Char → Prop
  | whole {digits : List Char} (present : digits ≠ []) (row : ∀ c ∈ digits, c.isDigit = true) :
      IsSignificand digits
  | pointed {whole fraction : List Char} (present : whole ++ fraction ≠ [])
      (rowWhole : ∀ c ∈ whole, c.isDigit = true) (rowFraction : ∀ c ∈ fraction, c.isDigit = true) :
      IsSignificand (whole ++ '.' :: fraction)

/-- No exponent, or its mark, an optional sign and at least one digit. -/
inductive IsExponent : List Char → Prop
  | none : IsExponent []
  | power {mark : Char} {sign digits : List Char} (marked : mark = 'e' ∨ mark = 'E')
      (signed : IsSign sign)
      (row : isDigitRow digits = true) : IsExponent (mark :: (sign ++ digits))

/-- **A decimal number.** -/
inductive IsDecimal : List Char → Prop
  | intro {sign significand exponent : List Char} (signed : IsSign sign)
      (valued : IsSignificand significand)
      (scaled : IsExponent exponent) : IsDecimal (sign ++ (significand ++ exponent))

/-- The names of the infinities and of the value that is not a number. -/
def specialNames : List (List Char) := ["inf".toList, "infinity".toList, "nan".toList]

/-- The name of a special value, after an optional sign and in any case of its letters. -/
inductive IsSpecial : List Char → Prop
  | intro {sign name : List Char} (signed : IsSign sign)
      (named : name.map Char.toLower ∈ specialNames) :
      IsSpecial (sign ++ name)

variable {text rest : List Char}

/-! ### Signs -/

/-- What is split off in front is a sign. -/
theorem exists_of_splitSign (text : List Char) :
    ∃ sign, IsSign sign ∧ text = sign ++ (splitSign text).2 := by
  unfold splitSign
  split
  · exact ⟨_, .minus, rfl⟩
  · exact ⟨_, .plus, rfl⟩
  · exact ⟨_, .none, rfl⟩

/-- A sign is split off in front of anything else. -/
theorem splitSign_append {sign : List Char} (signed : IsSign sign)
    (unsigned : ∀ c ∈ rest.head?, c ≠ '-' ∧ c ≠ '+') : (splitSign (sign ++ rest)).2 = rest := by
  cases signed with
  | minus => rfl
  | plus => rfl
  | none =>
    rw [List.nil_append]
    unfold splitSign
    split
    · exact absurd rfl (unsigned '-' rfl).1
    · exact absurd rfl (unsigned '+' rfl).2
    · rfl

theorem ne_sign_of_isDigit {c : Char} (digit : c.isDigit = true) : c ≠ '-' ∧ c ≠ '+' := by
  constructor <;> rintro rfl <;> cases digit

/-! ### Exponents -/

/-- **The reader of exponents** accepts exactly the grammar. -/
theorem readExponent?_ne_none_iff : readExponent? text ≠ none ↔ IsExponent text := by
  constructor
  · intro read
    cases text with
    | nil => exact .none
    | cons mark text =>
      unfold readExponent? at read
      dsimp only at read
      split at read
      · rename_i marked
        split at read
        · rename_i row
          obtain ⟨sign, signed, shape⟩ := exists_of_splitSign text
          rw [shape]
          exact .power marked signed row
        · exact absurd rfl read
      · exact absurd rfl read
  · intro exponent
    cases exponent with
    | none => nofun
    | @power mark sign digits marked signed row =>
      obtain ⟨-, isDigits⟩ := isDigitRow_iff.1 row
      have split : (splitSign (sign ++ digits)).2 = digits :=
        splitSign_append signed fun c first =>
          ne_sign_of_isDigit (isDigits c (List.mem_of_mem_head? first))
      unfold readExponent?
      dsimp only
      rw [if_pos marked, split, if_pos row]
      nofun

/-- An exponent begins with its mark. -/
theorem IsExponent.head? (exponent : IsExponent text) : ∀ c ∈ text.head?, c = 'e' ∨ c = 'E' := by
  cases exponent with
  | none => nofun
  | power marked =>
    rintro _ ⟨⟩
    exact marked

/-! ### Magnitudes -/

theorem IsSignificand.ne_nil (significand : IsSignificand text) : text ≠ [] := by
  cases significand with
  | whole present => exact present
  | pointed => exact List.append_ne_nil_of_right_ne_nil _ (List.cons_ne_nil _ _)

/-- A significand has a digit. -/
theorem IsSignificand.exists_digit (significand : IsSignificand text) :
    ∃ c ∈ text, c.isDigit = true := by
  cases significand with
  | whole present row =>
    obtain ⟨c, listed⟩ := List.exists_mem_of_ne_nil _ present
    exact ⟨c, listed, row c listed⟩
  | pointed present rowWhole rowFraction =>
    obtain ⟨c, listed⟩ := List.exists_mem_of_ne_nil _ present
    rcases List.mem_append.1 listed with inWhole | inFraction
    · exact ⟨c, List.mem_append_left _ inWhole, rowWhole c inWhole⟩
    · exact ⟨c, List.mem_append_right _ (.tail _ inFraction), rowFraction c inFraction⟩

/-- A significand begins with a digit or its point. -/
theorem IsSignificand.head? (significand : IsSignificand text) :
    ∀ c ∈ text.head?, c.isDigit = true ∨ c = '.' := by
  cases significand with
  | whole present row => exact fun c first => .inl (row c (List.mem_of_mem_head? first))
  | @pointed whole fraction present rowWhole rowFraction =>
    cases whole with
    | nil =>
      rintro _ ⟨⟩
      exact .inr rfl
    | cons d whole =>
      rintro _ ⟨⟩
      exact .inl (rowWhole d List.mem_cons_self)

/-- Digits without a point are the whole part. -/
theorem readMagnitude?_whole (negative : Bool) {digits rest : List Char}
    (row : ∀ c ∈ digits, c.isDigit = true) (ends : ∀ c ∈ rest.head?, c.isDigit = false ∧ c ≠ '.') :
    readMagnitude? negative (digits ++ rest) =
      if digits = [] then none else (readExponent? rest).map (.ofParts negative digits []) := by
  have split := spanDigits_append row fun c first => (ends c first).1
  unfold readMagnitude?
  cases digits with
  | nil =>
    simp only [split]
    split
    · exact absurd rfl (ends '.' rfl).2
    · rfl
  | cons d digits =>
    simp only [split]
    split
    · exact absurd rfl (ends '.' rfl).2
    · rfl

/-- Digits around a point are the whole part and the fraction. -/
theorem readMagnitude?_pointed (negative : Bool) {whole fraction rest : List Char}
    (rowWhole : ∀ c ∈ whole, c.isDigit = true) (rowFraction : ∀ c ∈ fraction, c.isDigit = true)
    (ends : ∀ c ∈ rest.head?, c.isDigit = false) :
    readMagnitude? negative (whole ++ '.' :: (fraction ++ rest)) =
      if whole ++ fraction = []
        then none else (readExponent? rest).map (.ofParts negative whole fraction) := by
  have stops : ∀ c ∈ ('.' :: (fraction ++ rest)).head?, c.isDigit = false := by
    rintro _ ⟨⟩
    rfl
  unfold readMagnitude?
  simp only [spanDigits_append rowWhole stops, spanDigits_append rowFraction ends]
  cases whole <;> cases fraction <;> rfl

/-- A text is its first digits and what follows them. -/
theorem exists_digits (text : List Char) : ∃ digits rest, text = digits ++ rest ∧
    (∀ c ∈ digits, c.isDigit = true) ∧ ∀ c ∈ rest.head?, c.isDigit = false := by
  exact ⟨text.takeWhile Char.isDigit, text.dropWhile Char.isDigit,
    List.takeWhile_append_dropWhile.symm,
    List.all_eq_true.1 List.all_takeWhile, Text.head?_dropWhile_eq_false Char.isDigit text⟩

/-- **The reader of magnitudes** accepts exactly a significand with an exponent behind it. -/
theorem readMagnitude?_ne_none_iff {negative : Bool} : readMagnitude? negative text ≠ none ↔
    ∃ significand exponent, text = significand ++ exponent ∧ IsSignificand significand ∧
      IsExponent exponent := by
  constructor
  · intro read
    obtain ⟨whole, rest, rfl, rowWhole, stops⟩ := exists_digits text
    by_cases pointed : rest.head? = some '.'
    · obtain ⟨behind, rfl⟩ := List.head?_eq_some_iff.1 pointed
      obtain ⟨fraction, exponent, rfl, rowFraction, ends⟩ := exists_digits behind
      rw [readMagnitude?_pointed negative rowWhole rowFraction ends] at read
      split at read
      · exact absurd rfl read
      · rename_i present
        have scaled : readExponent? exponent ≠ none := fun none => read (by rw [none]; rfl)
        exact ⟨whole ++ '.' :: fraction, exponent, by simp, .pointed present rowWhole rowFraction,
          readExponent?_ne_none_iff.1 scaled⟩
    · have ends : ∀ c ∈ rest.head?, c.isDigit = false ∧ c ≠ '.' := fun c first =>
        ⟨stops c first, fun same => pointed (same ▸ first)⟩
      rw [readMagnitude?_whole negative rowWhole ends] at read
      split at read
      · exact absurd rfl read
      · rename_i present
        have scaled : readExponent? rest ≠ none := fun none => read (by rw [none]; rfl)
        exact ⟨whole, rest, rfl, .whole present rowWhole, readExponent?_ne_none_iff.1 scaled⟩
  · rintro ⟨significand, exponent, rfl, valued, scaled⟩
    obtain ⟨power, read⟩ := Option.ne_none_iff_exists'.1 (readExponent?_ne_none_iff.2 scaled)
    have ends : ∀ c ∈ exponent.head?, c.isDigit = false ∧ c ≠ '.' := by
      intro c first
      rcases scaled.head? c first with rfl | rfl <;> exact ⟨rfl, by decide⟩
    cases valued with
    | whole present row =>
      rw [readMagnitude?_whole negative row ends, if_neg present, read]
      nofun
    | pointed present rowWhole rowFraction =>
      rw [List.append_assoc, List.cons_append, readMagnitude?_pointed negative rowWhole rowFraction
        fun c first => (ends c first).1, if_neg present, read]
      nofun

/-! ### Numbers -/

theorem readNamed?_ne_none_iff {negative : Bool} :
    readNamed? negative text ≠ none ↔ text.map Char.toLower ∈ specialNames := by
  have same (name : String) :
      String.ofList (text.map Char.toLower) = name ↔ text.map Char.toLower = name.toList :=
    ⟨fun equal => by
      rw [← equal, String.toList_ofList], fun equal => by rw [equal, String.ofList_toList]⟩
  unfold readNamed? specialNames
  simp only [same, List.mem_cons, List.not_mem_nil, or_false]
  by_cases endless :
    text.map Char.toLower = "inf".toList ∨ text.map Char.toLower = "infinity".toList
  · rw [if_pos endless]
    exact ⟨fun _ => or_assoc.1 (.inl endless), fun _ => nofun⟩
  · rw [if_neg endless, ← or_assoc, or_iff_right endless]
    by_cases no : text.map Char.toLower = "nan".toList
    · rw [if_pos no]
      exact ⟨fun _ => no, fun _ => nofun⟩
    · rw [if_neg no]
      exact ⟨fun none => absurd rfl none, fun named => absurd named no⟩

/-- No name of a special value begins with a sign. -/
theorem unsigned_of_named (named : text.map Char.toLower ∈ specialNames) :
    ∀ c ∈ text.head?, c ≠ '-' ∧ c ≠ '+' := by
  intro c first
  obtain ⟨more, rfl⟩ := List.head?_eq_some_iff.1 first
  constructor <;> rintro rfl <;> simp [specialNames] at named

/-- **The free form of a number** is a decimal number or the name of a special value. -/
theorem readBinary64?_ne_none_iff :
    readBinary64? text ≠ none ↔ IsDecimal text ∨ IsSpecial text := by
  have either : readBinary64? text ≠ none ↔
      readNamed? (splitSign text).1 (splitSign text).2 ≠ none ∨
      readMagnitude? (splitSign text).1 (splitSign text).2 ≠ none := by
    unfold readBinary64?
    dsimp only
    cases readNamed? (splitSign text).1 (splitSign text).2 with
    | none => cases readMagnitude? (splitSign text).1 (splitSign text).2 <;> simp
    | some value => simp
  rw [either, readNamed?_ne_none_iff, readMagnitude?_ne_none_iff]
  constructor
  · obtain ⟨sign, signed, shape⟩ := exists_of_splitSign text
    rintro (named | ⟨significand, exponent, pieces, valued, scaled⟩)
    · rw [shape]
      exact .inr (.intro signed named)
    · rw [shape, pieces]
      exact .inl (.intro signed valued scaled)
  · rintro (⟨signed, valued, scaled⟩ | ⟨signed, named⟩)
    · refine .inr ⟨_, _, splitSign_append signed fun c first => ?_, valued, scaled⟩
      obtain ⟨d, more, begins⟩ := List.exists_cons_of_ne_nil valued.ne_nil
      rcases valued.head? c (by rw [begins] at first ⊢; exact first) with digit | rfl
      · exact ne_sign_of_isDigit digit
      · exact ⟨by decide, by decide⟩
    · rw [splitSign_append signed (unsigned_of_named named)]
      exact .inl named

theorem eq_of_toLower_eq_n {c : Char} (same : c.toLower = 'n') : c = 'n' ∨ c = 'N' := by
  delta Char.toLower at same
  split at same
  · right
    have value : c.val + ('a'.val - 'A'.val) = 'n'.val := congrArg Char.val same
    apply Char.ext
    show c.val = 'n'.val - ('a'.val - 'A'.val)
    rw [← value]
    simp
  · exact .inl same

/-- Every name of a special value has the letter `n` in it. -/
theorem IsSpecial.exists_letter (special : IsSpecial text) : ∃ c ∈ text, c = 'n' ∨ c = 'N' := by
  obtain @⟨_, name, -, named⟩ := special
  have letter : 'n' ∈ name.map Char.toLower := by
    simp only [specialNames, List.mem_cons, List.not_mem_nil, or_false] at named
    rcases named with same | same | same <;> rw [same] <;> decide
  obtain ⟨c, listed, same⟩ := List.mem_map.1 letter
  exact ⟨c, List.mem_append_right _ listed, eq_of_toLower_eq_n same⟩

/-- A decimal number has a digit. -/
theorem IsDecimal.exists_digit (decimal : IsDecimal text) : ∃ c ∈ text, c.isDigit = true := by
  obtain ⟨-, valued, -⟩ := decimal
  obtain ⟨c, listed, digit⟩ := valued.exists_digit
  exact ⟨c, List.mem_append_right _ (List.mem_append_left _ listed), digit⟩

/-- A number in free form has a digit or the letter `n` in it. -/
theorem exists_mem_of_readBinary64? (read : readBinary64? text ≠ none) :
    ∃ c ∈ text, c.isDigit = true ∨ c = 'n' ∨ c = 'N' := by
  rcases readBinary64?_ne_none_iff.1 read with decimal | special
  · obtain ⟨c, listed, digit⟩ := decimal.exists_digit
    exact ⟨c, listed, .inl digit⟩
  · obtain ⟨c, listed, letter⟩ := special.exists_letter
    exact ⟨c, listed, .inr letter⟩

theorem IsDecimal.ne_nil (decimal : IsDecimal text) : text ≠ [] := by
  obtain ⟨-, valued, -⟩ := decimal
  exact List.append_ne_nil_of_right_ne_nil _ (List.append_ne_nil_of_left_ne_nil valued.ne_nil _)

/-! ### Digits and points -/

/-- There is no point among digits. -/
theorem count_point_of_digits {digits : List Char} (row : ∀ c ∈ digits, c.isDigit = true) :
    digits.count '.' = 0 :=
  List.count_eq_zero.2 fun found => absurd (row '.' found) (by decide)

theorem IsSign.count_point {sign : List Char} (signed : IsSign sign) : sign.count '.' = 0 := by
  cases signed <;> rfl

theorem IsExponent.count_point {exponent : List Char} (scaled : IsExponent exponent) :
    exponent.count '.' = 0 := by
  cases scaled with
  | none => rfl
  | power marked signed row =>
    rw [List.count_cons_of_ne (by rcases marked with rfl | rfl <;> decide), List.count_append,
      signed.count_point, count_point_of_digits (isDigitRow_iff.1 row).2]

/-- A significand has at most one point. -/
theorem IsSignificand.count_point_le {significand : List Char}
    (valued : IsSignificand significand) :
    significand.count '.' ≤ 1 := by
  cases valued with
  | whole present row =>
    rw [count_point_of_digits row]
    exact Nat.zero_le 1
  | pointed present rowWhole rowFraction =>
    simp [count_point_of_digits rowWhole, count_point_of_digits rowFraction]

/-- A decimal number has at most one point. -/
theorem IsDecimal.count_point_le (decimal : IsDecimal text) : text.count '.' ≤ 1 := by
  obtain ⟨signed, valued, scaled⟩ := decimal
  rw [List.count_append, List.count_append, signed.count_point, scaled.count_point,
    Nat.zero_add, Nat.add_zero]
  exact valued.count_point_le

/-- **A row of digits and points is a decimal number** if it has a digit and at most one point. -/
theorem isDecimal_iff_of_digits_points (plain : ∀ c ∈ text, c.isDigit = true ∨ c = '.') :
    IsDecimal text ↔ (∃ c ∈ text, c.isDigit = true) ∧ text.count '.' ≤ 1 := by
  refine ⟨fun decimal => ⟨decimal.exists_digit, decimal.count_point_le⟩, ?_⟩
  rintro ⟨⟨d, listed, digit⟩, once⟩
  have alone (valued : IsSignificand text) : IsDecimal text := by
    simpa using IsDecimal.intro .none valued .none
  obtain ⟨whole, rest, rfl, rowWhole, stops⟩ := exists_digits text
  cases rest with
  | nil =>
    rw [List.append_nil] at listed alone
    rw [List.append_nil]
    exact alone (.whole (List.ne_nil_of_mem listed) rowWhole)
  | cons point fraction =>
    -- What ends the first digits is a point, and the only one.
    obtain rfl : point = '.' := (plain point (by simp)).resolve_left (by simp [stops point rfl])
    rw [List.count_append, List.count_cons_self] at once
    have pointless : '.' ∉ fraction := List.count_eq_zero.1 (by omega)
    have rowFraction : ∀ c ∈ fraction, c.isDigit = true := fun c found =>
      (plain c (List.mem_append_right _ (.tail _ found))).resolve_right fun same =>
        pointless (same ▸ found)
    have present : whole ++ fraction ≠ [] := by
      rcases List.mem_append.1 listed with inWhole | behind
      · exact List.append_ne_nil_of_left_ne_nil (List.ne_nil_of_mem inWhole) _
      · rcases List.mem_cons.1 behind with rfl | inFraction
        · cases digit
        · exact List.append_ne_nil_of_right_ne_nil _ (List.ne_nil_of_mem inFraction)
    exact alone (.pointed present rowWhole rowFraction)

/-- A row of digits and points is read if it is a decimal number; there is no letter for a name. -/
theorem readBinary64?_ne_none_iff_of_digits_points
    (plain : ∀ c ∈ text, c.isDigit = true ∨ c = '.') :
    readBinary64? text ≠ none ↔ IsDecimal text := by
  rw [readBinary64?_ne_none_iff, or_iff_left_iff_imp]
  intro special
  obtain ⟨c, listed, rfl | rfl⟩ := special.exists_letter
  all_goals rcases plain _ listed with digit | same <;> contradiction

/-! ### Printed numbers -/

theorem isExponent_powerText (power : Option Int) : IsExponent (Spelling.powerText power) := by
  cases power with
  | none => exact .none
  | some power =>
    have row := isDigitRow_digitsOfNat power.natAbs
    unfold Spelling.powerText
    dsimp only
    split
    · exact .power (.inl rfl) .minus row
    · exact .power (.inl rfl) .plus row

/-- **Every number is printed as a decimal number.** -/
theorem isDecimal_of_proper {spelling : Spelling} (proper : spelling.Proper) (negative : Bool) :
    IsDecimal (if negative then '-' :: spelling.text else spelling.text) := by
  have valued : IsSignificand (spelling.whole ++ Spelling.fractionText spelling.fraction) := by
    cases fraction : spelling.fraction with
    | none =>
      rw [Spelling.fractionText, List.append_nil]
      exact .whole proper.whole_ne_nil proper.whole_digits
    | some digits =>
      exact .pointed (List.append_ne_nil_of_left_ne_nil proper.whole_ne_nil _) proper.whole_digits
        (proper.fraction_digits digits fraction)
  have scaled := isExponent_powerText spelling.power
  unfold Spelling.text
  rw [← List.append_assoc]
  cases negative with
  | true => exact .intro .minus valued scaled
  | false => exact .intro .none valued scaled

end CatalogSchema.Number
