/-
**The texts of numbers.**

A `Spelling` is a decimal text taken apart: digits before the point, digits after it, and a power of
ten. Every layout writes a proper spelling, and the numeral that it spells is the number that was
written.

* `toBinary64_shortest`: the shortest numeral of a number reads back as the number.
* `Layout.exists_spelling`: a layout spells a numeral of the same value.
* `Layout.text_spelling`: so the text of a number spells the number.
-/

import CatalogSchema.Number.Layout
import CatalogSchema.Proofs.Number.Rounding

namespace CatalogSchema.Number

/-! ### Rows of digits -/

theorem natOfDigits_eq (digits : List Char) :
    natOfDigits digits = Nat.ofDigitChars 10 digits 0 := rfl

@[simp] theorem natOfDigits_digitsOfNat (value : Nat) : natOfDigits (digitsOfNat value) = value :=
  Nat.ofDigitChars_ten_toDigits

theorem natOfDigits_append_zeros (digits : List Char) (zeros : Nat) :
    natOfDigits (digits ++ List.replicate zeros '0') = natOfDigits digits * 10 ^ zeros := by
  rw [natOfDigits_eq, Nat.ofDigitChars_append, Nat.ofDigitChars_replicate_zero, Nat.mul_comm]
  rfl

theorem natOfDigits_zeros_append (digits : List Char) (zeros : Nat) :
    natOfDigits (List.replicate zeros '0' ++ digits) = natOfDigits digits := by
  rw [natOfDigits_eq, Nat.ofDigitChars_append, Nat.ofDigitChars_replicate_zero, Nat.mul_zero]
  rfl

theorem isDigit_of_mem_digitsOfNat {value : Nat} {c : Char} (found : c ∈ digitsOfNat value) :
    c.isDigit = true :=
  Nat.isDigit_of_mem_toDigits (by omega) (by omega) found

theorem digitsOfNat_ne_nil (value : Nat) : digitsOfNat value ≠ [] := Nat.toDigits_ne_nil

/-- The first digit of a positive number is not zero. -/
theorem head?_digitsOfNat {value : Nat} (positive : 0 < value) :
    (digitsOfNat value).head? ≠ some '0' := by
  induction value using Nat.strongRecOn with
  | _ value ih =>
    unfold digitsOfNat at ih ⊢
    by_cases single : value < 10
    · rw [Nat.toDigits_of_lt_base single, List.head?_cons]
      intro zero
      have : value = 0 := Nat.digitChar_eq_zero.1 (Option.some.inj zero)
      omega
    · have first := ih (value / 10) (Nat.div_lt_self positive (by omega)) (by omega)
      rw [Nat.toDigits_of_base_le (by omega) (by omega), List.head?_append]
      cases top : (Nat.toDigits 10 (value / 10)).head? with
      | none => exact absurd (List.head?_eq_none_iff.1 top) Nat.toDigits_ne_nil
      | some digit =>
        rw [top] at first
        exact first

/-- A row of digits is what is left of it without its last zeros, and these zeros. -/
theorem exists_dropFinalZeros (digits : List Char) :
    ∃ zeros, digits = dropFinalZeros digits ++ List.replicate zeros '0' := by
  refine ⟨(digits.reverse.takeWhile (· = '0')).length, ?_⟩
  have last : digits.reverse.takeWhile (· = '0') =
      List.replicate (digits.reverse.takeWhile (· = '0')).length '0' :=
    List.eq_replicate_iff.2 ⟨rfl, fun c found => by
      simpa using List.all_eq_true.1 List.all_takeWhile c found⟩
  unfold dropFinalZeros
  rw [← List.reverse_replicate, ← last, ← List.reverse_append, List.takeWhile_append_dropWhile,
    List.reverse_reverse]

/-- The digits at the start of a text are split off. -/
theorem spanDigits_append {digits rest : List Char} (isDigits : ∀ c ∈ digits, c.isDigit = true)
    (ends : ∀ c ∈ rest.head?, c.isDigit = false) :
    spanDigits (digits ++ rest) = (digits, rest) := by
  have none : rest.takeWhile Char.isDigit = [] ∧ rest.dropWhile Char.isDigit = rest := by
    cases rest with
    | nil => exact ⟨rfl, rfl⟩
    | cons c rest =>
      have stops := ends c rfl
      simp [stops]
  unfold spanDigits
  rw [List.takeWhile_append_of_pos isDigits, List.dropWhile_append_of_pos isDigits, none.1, none.2,
    List.append_nil]

/-! ### The shortest numeral -/

section Shortest

variable (tie : TieRule) (value : Finite)

theorem readsBack_iff {coefficient : Nat} {exponent : Int} :
    readsBack value coefficient exponent = true ↔
    (Numeral.mk value.negative coefficient exponent).toBinary64 = .finite value := by
  unfold readsBack
  exact decide_eq_true_iff

theorem neighbour?_reads_back {dropped : Nat} {numeral : Numeral}
    (found : neighbour? tie value dropped = some numeral) :
    numeral.negative = value.negative ∧ numeral.toBinary64 = .finite value := by
  have either (first second : Nat) (exponent : Int)
      (found : (if readsBack value first exponent then
          some (Numeral.mk value.negative first exponent)
        else if readsBack value second exponent then some ⟨value.negative, second, exponent⟩
        else none) = some numeral) :
      numeral.negative = value.negative ∧ numeral.toBinary64 = .finite value := by
    by_cases reads : readsBack value first exponent = true
    · rw [if_pos reads] at found
      cases found
      exact ⟨rfl, (readsBack_iff value).1 reads⟩
    · rw [if_neg reads] at found
      by_cases also : readsBack value second exponent = true
      · rw [if_pos also] at found
        cases found
        exact ⟨rfl, (readsBack_iff value).1 also⟩
      · rw [if_neg also] at found
        cases found
  unfold neighbour? at found
  extract_lets exact grid exponent below above excess preferBelow at found
  clear_value preferBelow excess above below exponent grid exact
  generalize (if preferBelow = true then (below, above) else (above, below)) = pair at found
  obtain ⟨first, second⟩ := pair
  exact either first second exponent found

theorem ten_pow_pos (exponent : Nat) : 0 < 10 ^ exponent := Nat.pow_pos (by omega)

/-- The exact coefficient neither overflows nor vanishes. -/
theorem exactCoefficient_bounds (nonzero : value.units ≠ 0) :
    10 ^ 743 ≤ exactCoefficient value ∧ exactCoefficient value < 10 ^ 1384 := by
  have least : 10 ^ 743 ≤ Nat.pow 5 1074 := by decide +kernel
  have most : Nat.pow 5 1074 * unitsLimit ≤ 10 ^ 1384 := by decide +kernel
  have positive : 0 < 10 ^ 743 := ten_pow_pos 743
  unfold exactCoefficient
  generalize Nat.pow 5 1074 = fives at least most ⊢
  generalize 10 ^ 743 = low at least positive ⊢
  exact ⟨Nat.le_trans least (Nat.le_mul_of_pos_right _ (Nat.pos_of_ne_zero nonzero)),
    Nat.lt_of_lt_of_le
      (Nat.mul_lt_mul_of_pos_left value.inRange (Nat.lt_of_lt_of_le positive least)) most⟩

theorem lt_length_digitsOfNat {n places : Nat} (least : 10 ^ places ≤ n) (positive : 0 < places) :
    places < (digitsOfNat n).length :=
  Nat.lt_of_not_le fun few =>
    Nat.not_lt.2 least ((Nat.length_toDigits_le_iff (by omega) positive).1 few)

theorem length_digitsOfNat_le {n places : Nat} (most : n < 10 ^ places) (positive : 0 < places) :
    (digitsOfNat n).length ≤ places := (Nat.length_toDigits_le_iff (by omega) positive).2 most

/-- A coefficient within these bounds stands in a numeral that is rounded. -/
theorem position_within {coefficient : Nat} (least : 10 ^ 743 ≤ coefficient)
    (most : coefficient < 10 ^ 1384) (negative : Bool) :
    ¬ 310 < (Numeral.mk negative coefficient (-1074)).position ∧
      ¬ (Numeral.mk negative coefficient (-1074)).position < -330 := by
  have few := length_digitsOfNat_le most (by omega)
  have many := lt_length_digitsOfNat least (by omega)
  clear least most
  unfold Numeral.position
  dsimp only
  omega

theorem toBinary64_exactCoefficient (nonzero : value.units ≠ 0) :
    (Numeral.mk value.negative (exactCoefficient value) (-1074)).toBinary64 = .finite value := by
  obtain ⟨least, most⟩ := exactCoefficient_bounds value nonzero
  obtain ⟨fits, visible⟩ := position_within least most value.negative
  have coefficient : exactCoefficient value ≠ 0 :=
    Nat.ne_of_gt (Nat.lt_of_lt_of_le (ten_pow_pos 743) least)
  have same : exactCoefficient value * Nat.pow 10 (-1074 : Int).toNat * unitsPerOne =
      value.units * Nat.pow 10 (- -1074 : Int).toNat := by
    have whole : (-1074 : Int).toNat = 0 := rfl
    have places : (- -1074 : Int).toNat = 1074 := rfl
    rw [whole, places]
    unfold exactCoefficient unitsPerOne
    generalize 1074 = exponent
    change _ * 1 * _ = _
    rw [Nat.mul_one, Nat.mul_comm _ value.units, Nat.mul_assoc]
    exact congrArg (value.units * ·) (Nat.mul_pow 5 2 exponent).symm
  unfold Numeral.toBinary64
  rw [if_neg fits, if_neg visible, if_neg coefficient]
  exact Binary64.ofQuotient_exact value (ten_pow_pos _) same

theorem shortestFrom_reads_back (nonzero : value.units ≠ 0) (allDigits : Nat) (tried : List Nat) :
    (shortestFrom tie value allDigits tried).negative = value.negative ∧
      (shortestFrom tie value allDigits tried).toBinary64 = .finite value := by
  induction tried with
  | nil =>
    rw [shortestFrom]
    exact ⟨rfl, toBinary64_exactCoefficient value nonzero⟩
  | cons digits more ih =>
    unfold shortestFrom
    split
    · rename_i found
      exact neighbour?_reads_back tie value found
    · exact ih

theorem shortest_reads_back :
    (shortest tie value).negative = value.negative ∧
      (shortest tie value).toBinary64 = .finite value := by
  unfold shortest
  by_cases zero : value.units = 0
  · rw [if_pos (by simp [Finite.isZero, zero])]
    obtain ⟨negative, units, inRange, aligned⟩ := value
    cases zero
    exact ⟨rfl, if_pos rfl⟩
  · rw [if_neg (by simp [Finite.isZero, zero])]
    exact shortestFrom_reads_back tie value zero _ _

/-- **The shortest numeral reads back as the number.** -/
theorem toBinary64_shortest : (shortest tie value).toBinary64 = .finite value :=
  (shortest_reads_back tie value).2

/-- The shortest numeral has the sign of the number. -/
theorem negative_shortest : (shortest tie value).negative = value.negative :=
  (shortest_reads_back tie value).1

end Shortest

/-! ### Spellings -/

/-- A decimal text without its sign, taken apart. -/
structure Spelling where
  /-- The digits before the point. -/
  whole : List Char
  /-- The digits after the point, if there is one. -/
  fraction : Option (List Char)
  /-- The power of ten, if it is written. -/
  power : Option Int

namespace Spelling

/-- The point and the digits after it. -/
def fractionText : Option (List Char) → List Char
  | none => []
  | some digits => '.' :: digits

/-- The power of ten with its mark and its sign. -/
def powerText : Option Int → List Char
  | none => []
  | some power => 'e' :: (if power < 0 then '-' else '+') :: digitsOfNat power.natAbs

/-- The text. -/
def text (spelling : Spelling) : List Char :=
  spelling.whole ++ (fractionText spelling.fraction ++ powerText spelling.power)

/-- The numeral that the text denotes after a sign. -/
def numeral (spelling : Spelling) (negative : Bool) : Numeral :=
  .ofParts negative spelling.whole (spelling.fraction.getD []) (spelling.power.getD 0)

/-- The text is one of a number in every notation: there are digits before the point and after it,
and a leading zero stands alone. -/
structure Proper (spelling : Spelling) : Prop where
  whole_ne_nil : spelling.whole ≠ []
  whole_digits : ∀ c ∈ spelling.whole, c.isDigit = true
  no_leading_zero : spelling.whole.head? = some '0' → spelling.whole.length = 1
  fraction_ne_nil : ∀ digits ∈ spelling.fraction, digits ≠ []
  fraction_digits : ∀ digits ∈ spelling.fraction, ∀ c ∈ digits, c.isDigit = true

/-- The text has a point or a power of ten. -/
def Floating (spelling : Spelling) : Prop := spelling.fraction ≠ none ∨ spelling.power ≠ none

/-- The text is proper and denotes a number of the value of a numeral. -/
structure Writes (spelling : Spelling) (text : List Char) (numeral : Numeral) : Prop where
  text_eq : text = spelling.text
  proper : spelling.Proper
  value : (spelling.numeral numeral.negative).toBinary64 = numeral.toBinary64

/-- The text of a natural number is a proper spelling. -/
theorem proper_digitsOfNat (value : Nat) : Proper ⟨digitsOfNat value, none, none⟩ where
  whole_ne_nil := digitsOfNat_ne_nil value
  whole_digits _ := isDigit_of_mem_digitsOfNat
  no_leading_zero leading := by
    rcases Nat.eq_zero_or_pos value with rfl | positive
    · rfl
    · exact absurd leading (head?_digitsOfNat positive)
  fraction_ne_nil := nofun
  fraction_digits := nofun

end Spelling

/-! ### What a layout writes -/

section Layouts

variable {digits : List Char} (present : digits ≠ []) (isDigits : ∀ c ∈ digits, c.isDigit = true)
  (first : digits.head? ≠ some '0') (position : Int) (negative : Bool)

theorem isDigit_zeros (count : Nat) : ∀ c ∈ List.replicate count '0', c.isDigit = true := by
  intro c found
  rw [List.eq_of_mem_replicate found]
  rfl

include present isDigits

/-- A number below one: zeros between the point and the digits. -/
theorem writes_below (small : position ≤ 0) :
    Spelling.Writes ⟨['0'], some (List.replicate (-position).toNat '0' ++ digits), none⟩
      ('0' :: '.' :: (List.replicate (-position).toNat '0' ++ digits))
      ⟨negative, natOfDigits digits, position - digits.length⟩ where
  text_eq := by simp [Spelling.text, Spelling.fractionText, Spelling.powerText]
  proper := {
    whole_ne_nil := by simp
    whole_digits := isDigit_zeros 1
    no_leading_zero := fun _ => rfl
    fraction_ne_nil := by simp [present]
    fraction_digits := by
      rintro _ ⟨⟩ c found
      exact (List.mem_append.1 found).elim (isDigit_zeros _ c) (isDigits c) }
  value := by
    have value : natOfDigits (['0'] ++ (List.replicate (-position).toNat '0' ++ digits)) =
        natOfDigits digits := natOfDigits_zeros_append digits ((-position).toNat + 1)
    unfold Spelling.numeral Numeral.ofParts
    dsimp only [Option.getD]
    rw [value, List.length_append, List.length_replicate]
    congr 2
    omega

include first

/-- A number without a fraction: zeros between the digits and the point, and perhaps one after
it. -/
theorem writes_beyond (long : digits.length ≤ position) (fraction : Option (List Char))
    (zeros : ∀ after ∈ fraction, after = ['0']) :
    Spelling.Writes ⟨digits ++ List.replicate (position.toNat - digits.length) '0', fraction, none⟩
      (digits ++ List.replicate (position.toNat - digits.length) '0' ++
        Spelling.fractionText fraction)
      ⟨negative, natOfDigits digits, position - digits.length⟩ where
  text_eq := by simp [Spelling.text, Spelling.powerText]
  proper := {
    whole_ne_nil := by simp [present]
    whole_digits := fun c found => (List.mem_append.1 found).elim (isDigits c) (isDigit_zeros _ c)
    no_leading_zero := fun leading => by
      obtain ⟨c, more, rfl⟩ := List.exists_cons_of_ne_nil present
      exact absurd leading first
    fraction_ne_nil := fun after given => by simp [zeros after given]
    fraction_digits := fun after given c found => by
      rw [zeros after given] at found
      exact isDigit_zeros 1 c found }
  value := by
    unfold Spelling.numeral Numeral.ofParts
    dsimp only [Option.getD]
    cases fraction with
    | none =>
      rw [List.append_nil, natOfDigits_append_zeros, Numeral.toBinary64_shift]
      congr 2
      simp only [List.length_nil]
      omega
    | some after =>
      rw [zeros after rfl, List.append_assoc]
      change (Numeral.mk _ (natOfDigits (digits ++ (_ ++ List.replicate 1 '0'))) _).toBinary64 = _
      rw [List.replicate_append_replicate, natOfDigits_append_zeros, Numeral.toBinary64_shift]
      congr 2
      simp only [List.length_singleton]
      omega

/-- A number with the point among its digits. -/
theorem writes_among (large : 0 < position) (short : position < digits.length) :
    Spelling.Writes ⟨digits.take position.toNat, some (digits.drop position.toNat), none⟩
      (digits.take position.toNat ++ '.' :: digits.drop position.toNat)
      ⟨negative, natOfDigits digits, position - digits.length⟩ where
  text_eq := by simp [Spelling.text, Spelling.fractionText, Spelling.powerText]
  proper := {
    whole_ne_nil := by
      rw [Ne, List.take_eq_nil_iff]
      rintro (none | empty)
      · omega
      · exact present empty
    whole_digits := fun c found => isDigits c (List.mem_of_mem_take found)
    no_leading_zero := fun leading => by
      rw [List.head?_take, if_neg (by omega)] at leading
      exact absurd leading first
    fraction_ne_nil := by
      rintro _ ⟨⟩
      rw [Ne, List.drop_eq_nil_iff]
      omega
    fraction_digits := by
      rintro _ ⟨⟩ c found
      exact isDigits c (List.mem_of_mem_drop found) }
  value := by
    unfold Spelling.numeral Numeral.ofParts
    dsimp only [Option.getD]
    rw [List.take_append_drop, List.length_drop]
    congr 2
    omega

/-- A text without a power of ten has the point before the digits, after them or among them. -/
theorem writes_positional (keepFraction : Bool) :
    ∃ spelling : Spelling,
      spelling.Writes (positionalText keepFraction digits position)
        ⟨negative, natOfDigits digits, position - digits.length⟩ ∧
      (keepFraction = true → spelling.Floating) := by
  have length : 0 < digits.length := List.length_pos_iff.2 present
  unfold positionalText
  dsimp only
  by_cases small : position ≤ 0
  · rw [if_pos small, if_neg (by omega), Int.toNat_of_nonpos small, List.drop_zero]
    exact ⟨_, writes_below present isDigits position negative small, fun _ => .inl nofun⟩
  rw [if_neg small]
  by_cases long : digits.length ≤ position
  · rw [if_pos long, List.take_of_length_le (by omega)]
    cases keepFraction with
    | true =>
      exact ⟨_, writes_beyond present isDigits first position negative long (some ['0']) (by simp),
        fun _ => .inl nofun⟩
    | false =>
      have writes := writes_beyond present isDigits first position negative long none nofun
      rw [Spelling.fractionText, List.append_nil] at writes
      exact ⟨_, writes, nofun⟩
  · have before : (-position).toNat = 0 := by omega
    have behind : position.toNat - digits.length = 0 := by omega
    rw [if_neg long, before, behind, List.replicate_zero, List.append_nil, List.nil_append]
    exact ⟨_, writes_among present isDigits first position negative (by omega) (by omega),
      fun _ => .inl nofun⟩

omit first

/-- A number with one digit before the point and a power of ten. -/
theorem writes_scientific :
    ∃ spelling : Spelling, spelling.power = some (position - 1) ∧
      spelling.Writes (scientificText digits position)
        ⟨negative, natOfDigits digits, position - digits.length⟩ := by
  match digits, present with
  | [single], _ =>
    refine ⟨⟨[single], none, some (position - 1)⟩, rfl, ?_, ?_, ?_⟩
    · simp [scientificText, Spelling.text, Spelling.fractionText, Spelling.powerText]
    · exact ⟨by simp, isDigits, fun _ => rfl, nofun, nofun⟩
    · unfold Spelling.numeral Numeral.ofParts
      simp
  | leading :: next :: others, _ =>
    refine ⟨⟨[leading], some (next :: others), some (position - 1)⟩, rfl, ?_, ?_, ?_⟩
    · simp [scientificText, Spelling.text, Spelling.fractionText, Spelling.powerText]
    · refine ⟨by simp, fun c found => isDigits c ?_, fun _ => rfl, by simp, ?_⟩
      · rw [List.mem_singleton.1 found]
        exact List.mem_cons_self
      · rintro _ ⟨⟩ c found
        exact isDigits c (List.mem_cons_of_mem _ found)
    · unfold Spelling.numeral Numeral.ofParts
      dsimp only [Option.getD]
      rw [List.singleton_append, List.length_cons (a := leading)]
      congr 2
      omega

end Layouts

theorem Numeral.toBinary64_of_zero {numeral : Numeral} (zero : numeral.coefficient = 0) :
    numeral.toBinary64 = .finite (.zero numeral.negative) := if_pos zero

theorem writes_zero {numeral : Numeral} (zero : numeral.coefficient = 0)
    (fraction : Option (List Char)) (zeros : ∀ after ∈ fraction, after = ['0']) :
    Spelling.Writes ⟨['0'], fraction, none⟩ ('0' :: Spelling.fractionText fraction) numeral where
  text_eq := by simp [Spelling.text, Spelling.powerText]
  proper := {
    whole_ne_nil := by simp
    whole_digits := isDigit_zeros 1
    no_leading_zero := fun _ => rfl
    fraction_ne_nil := fun after given => by simp [zeros after given]
    fraction_digits := fun after given c found => by
      rw [zeros after given] at found
      exact isDigit_zeros 1 c found }
  value := by
    have nothing : natOfDigits (['0'] ++ fraction.getD []) = 0 := by
      cases fraction with
      | none => rfl
      | some after =>
        rw [zeros after rfl]
        rfl
    rw [Numeral.toBinary64_of_zero zero, Numeral.toBinary64_of_zero nothing]
    rfl

/-- The digits of a coefficient without its last zeros, as a numeral of the same value. -/
theorem Numeral.toBinary64_dropFinalZeros (numeral : Numeral) :
    (Numeral.mk numeral.negative (natOfDigits (dropFinalZeros (digitsOfNat numeral.coefficient)))
      (numeral.position - (dropFinalZeros (digitsOfNat numeral.coefficient)).length)).toBinary64 =
        numeral.toBinary64 := by
  obtain ⟨negative, coefficient, exponent⟩ := numeral
  unfold position
  dsimp only
  obtain ⟨zeros, split⟩ := exists_dropFinalZeros (digitsOfNat coefficient)
  generalize dropFinalZeros (digitsOfNat coefficient) = digits at split ⊢
  have value : coefficient = natOfDigits digits * 10 ^ zeros := by
    rw [← natOfDigits_append_zeros, ← split, natOfDigits_digitsOfNat]
  have length : (digitsOfNat coefficient).length = digits.length + zeros := by
    rw [split, List.length_append, List.length_replicate]
  rw [length, value, toBinary64_shift]
  congr 2
  omega

/-- **A layout writes a proper spelling of its numeral**, and one that is not an integer's if it
keeps fractions. -/
theorem Layout.exists_spelling (layout : Layout) (numeral : Numeral) :
    ∃ spelling : Spelling, spelling.Writes (layout.magnitude numeral) numeral ∧
      (layout.keepFraction = true → spelling.Floating) := by
  have sameValue := numeral.toBinary64_dropFinalZeros
  obtain ⟨zeros, split⟩ := exists_dropFinalZeros (digitsOfNat numeral.coefficient)
  have isDigits : ∀ c ∈ dropFinalZeros (digitsOfNat numeral.coefficient), c.isDigit = true :=
    fun c found => by
      have inRow : c ∈ digitsOfNat numeral.coefficient := split ▸ List.mem_append_left _ found
      exact isDigit_of_mem_digitsOfNat inRow
  unfold Layout.magnitude
  by_cases zero : numeral.coefficient = 0
  · rw [if_pos zero]
    cases layout.keepFraction with
    | true => exact ⟨_, writes_zero zero (some ['0']) (by simp), fun _ => .inl nofun⟩
    | false => exact ⟨_, writes_zero zero none nofun, nofun⟩
  · have present : dropFinalZeros (digitsOfNat numeral.coefficient) ≠ [] := by
      intro empty
      rw [empty, List.nil_append] at split
      have value := natOfDigits_append_zeros [] zeros
      rw [List.nil_append, ← split, natOfDigits_digitsOfNat] at value
      exact zero (value.trans (Nat.zero_mul _))
    have first : (dropFinalZeros (digitsOfNat numeral.coefficient)).head? ≠ some '0' := by
      have first := head?_digitsOfNat (Nat.pos_of_ne_zero zero)
      obtain ⟨c, more, shape⟩ := List.exists_cons_of_ne_nil present
      rw [split, shape] at first
      rw [shape]
      exact first
    rw [if_neg zero]
    dsimp only
    generalize dropFinalZeros (digitsOfNat numeral.coefficient) = digits at *
    generalize numeral.position = position at *
    have retarget {spelling : Spelling} {text : List Char}
        (writes : spelling.Writes text
          ⟨numeral.negative, natOfDigits digits, position - digits.length⟩) :
        spelling.Writes text numeral :=
      ⟨writes.text_eq, writes.proper, writes.value.trans sameValue⟩
    by_cases positional : layout.positional position = true
    · rw [if_pos positional]
      obtain ⟨spelling, writes, floating⟩ := writes_positional present isDigits first position
        numeral.negative layout.keepFraction
      exact ⟨spelling, retarget writes, floating⟩
    · rw [if_neg positional]
      obtain ⟨spelling, power, writes⟩ := writes_scientific present isDigits position
        numeral.negative
      exact ⟨spelling, retarget writes, fun _ => .inr (by simp [power])⟩

/-- **The text of a number spells the number** after its sign. -/
theorem Layout.text_spelling (layout : Layout) (value : Finite) :
    ∃ spelling : Spelling, spelling.Proper ∧ (layout.keepFraction = true → spelling.Floating) ∧
      layout.text value = (if value.negative then '-' :: spelling.text else spelling.text) ∧
      (spelling.numeral value.negative).toBinary64 = .finite value := by
  obtain ⟨spelling, writes, floating⟩ := layout.exists_spelling (shortest layout.tie value)
  have reads := writes.value
  rw [toBinary64_shortest, negative_shortest] at reads
  refine ⟨spelling, writes.proper, floating, ?_, reads⟩
  unfold text
  dsimp only
  rw [writes.text_eq]

/-- A proper spelling begins with a digit. -/
theorem Spelling.Proper.text_eq_cons {spelling : Spelling} (proper : spelling.Proper) :
    ∃ c more, spelling.text = c :: more ∧ c.isDigit = true := by
  obtain ⟨c, more, shape⟩ := List.exists_cons_of_ne_nil proper.whole_ne_nil
  have digit : c.isDigit = true := proper.whole_digits c (shape ▸ List.mem_cons_self)
  unfold Spelling.text
  rw [shape, List.cons_append]
  exact ⟨c, _, rfl, digit⟩

/-- The characters of a proper spelling are those of numerals. -/
theorem Spelling.Proper.mem_text {spelling : Spelling} (proper : spelling.Proper) {c : Char}
    (found : c ∈ spelling.text) : c.isDigit = true ∨ c = '.' ∨ c = 'e' ∨ c = '+' ∨ c = '-' := by
  obtain ⟨whole, fraction, power⟩ := spelling
  rcases List.mem_append.1 found with inWhole | found
  · exact .inl (proper.whole_digits c inWhole)
  rcases List.mem_append.1 found with inFraction | inPower
  · cases fraction with
    | none => cases inFraction
    | some digits =>
      rcases List.mem_cons.1 inFraction with rfl | among
      · simp
      · exact .inl (proper.fraction_digits digits rfl c among)
  · cases power with
    | none => cases inPower
    | some power =>
      rcases List.mem_cons.1 inPower with rfl | inPower
      · simp
      rcases List.mem_cons.1 inPower with rfl | among
      · by_cases minus : power < 0 <;> simp [minus]
      · exact .inl (isDigit_of_mem_digitsOfNat among)

end CatalogSchema.Number
