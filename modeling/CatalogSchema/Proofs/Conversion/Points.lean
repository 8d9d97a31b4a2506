/-
**The literal of a served point is that point.**

The coordinates of a point are numbers in normal form, whatever it was read from, and each is read
again from its text. So the literal that the server writes for a point that was sent denotes the
point that was served, with any blanks between the parts.

* `splitComma?_append`: a literal is cut at its first comma.
* `literalParts?_literal`: the parts of a literal are the texts of its coordinates with the blanks
  around them.
* `readCoordinate_around`: between blanks, the text of a number in normal form is read as this
  number.
* `point_of_its_literal`: the way from a value through the object, the call and the literal back.
-/

import CatalogSchema.Proofs.Conversion.Idempotence
import CatalogSchema.Proofs.Sql.Reading
import CatalogSchema.Proofs.Text.Blank

namespace CatalogSchema

open Number Text

namespace Point

/-! ### Literals -/

/-- The blanks on both sides of a text. -/
structure Padding where
  before : List Char
  after : List Char
  blank : ∀ c ∈ before ++ after, isBlank c = true

namespace Padding

/-- A text between the blanks. -/
def around (padding : Padding) (text : List Char) : List Char :=
  padding.before ++ (text ++ padding.after)

theorem blank_or_mem {padding : Padding} {text : List Char} {c : Char}
    (found : c ∈ padding.around text) :
    isBlank c = true ∨ c ∈ text := by
  obtain ⟨before, after⟩ := List.forall_mem_append.1 padding.blank
  rcases List.mem_append.1 found with front | rest
  · exact .inl (before c front)
  · exact (List.mem_append.1 rest).symm.imp_left (after c)

end Padding

/-- The blanks around a literal and around the texts of its two coordinates. -/
structure Spacing where
  outer : Padding
  first : Padding
  second : Padding

/-- The literal of two coordinates. -/
def Spacing.literal (spacing : Spacing) (x y : List Char) : List Char :=
  spacing.outer.around ('(' :: (spacing.first.around x ++ ',' :: spacing.second.around y) ++ [')'])

/-! ### Cutting a literal -/

/-- **A text is cut at its first comma.** -/
theorem splitComma?_append {first : List Char} (plain : ',' ∉ first) (rest : List Char) :
    splitComma? (first ++ ',' :: rest) = some (first, rest) := by
  induction first with
  | nil => rfl
  | cons c first ih =>
    obtain ⟨other, later⟩ := not_or.1 (mt List.mem_cons.2 plain)
    rw [List.cons_append, splitComma?, if_neg (Ne.symm other), ih later]
    rfl

/-- One pair of parentheses is dropped from a text without any. -/
theorem dropParentheses {text : List Char} (present : text ≠ []) (opened : '(' ∉ text)
    (closed : ')' ∉ text) :
    trimEnd (· = ')') (trimStart (· = '(') ('(' :: text ++ [')'])) = text := by
  -- Trimming drops whole rows of parentheses, so it matters that the text neither starts nor ends
  -- with one.
  have start : (text ++ [')']).dropWhile (· = '(') = text ++ [')'] := by
    obtain ⟨c, more, rfl⟩ := List.exists_cons_of_ne_nil present
    have other : c ≠ '(' := fun same => opened (same ▸ List.mem_cons_self)
    exact List.dropWhile_cons_of_neg (by simp [other])
  have stop : text.reverse.dropWhile (· = ')') = text.reverse := by
    obtain ⟨c, more, shape⟩ := List.exists_cons_of_ne_nil (mt List.reverse_eq_nil_iff.1 present)
    have inside : c ∈ text := List.mem_reverse.1 (shape ▸ List.mem_cons_self)
    have other : c ≠ ')' := fun same => closed (same ▸ inside)
    rw [shape]
    exact List.dropWhile_cons_of_neg (by simp [other])
  unfold trimEnd trimStart
  rw [List.cons_append, List.dropWhile_cons_of_pos (by simp), start, List.reverse_append,
    List.reverse_singleton, List.singleton_append, List.dropWhile_cons_of_pos (by simp), stop,
    List.reverse_reverse]

/-- The characters of a coordinate between blanks. -/
theorem plain_around {padding : Padding} {text : List Char}
    (numeral : ∀ c ∈ text, isNumeralChar c = true) {mark : Char} (visible : isBlank mark = false)
    (other : isNumeralChar mark = false) :
    mark ∉ padding.around text := by
  intro found
  rcases Padding.blank_or_mem found with blank | inside
  · exact absurd (visible.symm.trans blank) Bool.false_ne_true
  · exact absurd (other.symm.trans (numeral mark inside)) Bool.false_ne_true

/-- **The parts of a literal** are the texts of its coordinates with the blanks around them. -/
theorem literalParts?_literal (spacing : Spacing) {x y : List Char}
    (numeralX : ∀ c ∈ x, isNumeralChar c = true) (numeralY : ∀ c ∈ y, isNumeralChar c = true) :
    literalParts? (spacing.literal x y) =
      some (spacing.first.around x, spacing.second.around y) := by
  have whole : trim (spacing.literal x y) =
      '(' :: (spacing.first.around x ++ ',' :: spacing.second.around y) ++ [')'] := by
    refine trim_around spacing.outer.blank ?_ ?_
    · rintro _ ⟨⟩
      rfl
    · rw [List.getLast?_concat]
      rintro _ ⟨⟩
      rfl
  have parenthesis {mark : Char} (visible : isBlank mark = false)
      (other : isNumeralChar mark = false)
      (noComma : mark ≠ ',') : mark ∉ spacing.first.around x ++ ',' :: spacing.second.around y := by
    simp only [List.mem_append, List.mem_cons, not_or]
    exact ⟨plain_around numeralX visible other, noComma, plain_around numeralY visible other⟩
  unfold literalParts?
  rw [whole, dropParentheses (by simp) (parenthesis rfl rfl (by decide))
    (parenthesis rfl rfl (by decide)), splitComma?_append (plain_around numeralX rfl rfl)]

/-! ### Coordinates -/

/-- **Between blanks, the text of a number in normal form is read as this number.** -/
theorem readCoordinate_around (literal : Json) (padding : Padding) {value : Finite}
    {number : JsonNumber} (normal : Json.ofNumber value = .number number) :
    readCoordinate literal (padding.around number.chars) = .ok (.number number) := by
  obtain ⟨_, again, form, read, same⟩ := readBinary64?_ofNumber value
  cases normal.symm.trans form
  have visible : ∀ c ∈ number.chars, isBlank c = false := fun c found =>
    isBlank_of_isNumeralChar (isNumeralChar_of_mem_chars found)
  unfold readCoordinate Padding.around
  rw [trim_between padding.blank visible, read]
  change Except.ok (Json.ofNumber again) = _
  rw [same, form]

/-- The literal of two numbers in normal form has these coordinates. -/
theorem coordinates_literal (spacing : Spacing) {first second : Finite} {x y : JsonNumber}
    (normalX : Json.ofNumber first = .number x) (normalY : Json.ofNumber second = .number y) :
    coordinates (.string (String.ofList (spacing.literal x.chars y.chars))) =
      .ok (.number x, .number y) := by
  have parts : literalParts? (spacing.literal x.chars y.chars) = _ := literalParts?_literal spacing
    (fun c => isNumeralChar_of_mem_chars) fun c => isNumeralChar_of_mem_chars
  unfold coordinates
  dsimp only
  rw [String.toList_ofList, parts]
  dsimp only
  rw [readCoordinate_around _ _ normalX, readCoordinate_around _ _ normalY]
  rfl

end Point

/-! ### Points -/

namespace Codec

/-- The object of two coordinates. -/
def pointObject (x y : Json) : Json := .object [("x", x), ("y", y)]

theorem encode_pointObject (constructor : QualifiedName) (first second : Finite) :
    (Codec.point constructor).encode (pointObject (.ofNumber first) (.ofNumber second)) =
      .ok (.call constructor [.value (.ofNumber first), .value (.ofNumber second)]) := by
  change (fun place => Fragment.call constructor [.value place.1, .value place.2]) <$>
    Point.coordinates (.object _) = _
  rw [coordinates_object]
  rfl

theorem decode_point_literal (constructor : QualifiedName) (spacing : Point.Spacing)
    (first second : Finite) :
    (Codec.point constructor).decode (.string (String.ofList
        (spacing.literal (Json.ofNumber first).chars (Json.ofNumber second).chars))) =
      .ok (pointObject (.ofNumber first) (.ofNumber second)) := by
  obtain ⟨x, -, formX, -⟩ := readBinary64?_ofNumber first
  obtain ⟨y, -, formY, -⟩ := readBinary64?_ofNumber second
  have text : Json.string (String.ofList (spacing.literal x.chars y.chars)) ≠ .null := nofun
  rw [formX, formY]
  change (Codec.point constructor).decode
      (.string (String.ofList (spacing.literal x.chars y.chars))) = _
  rw [decode_point text, Point.coordinates_literal spacing formX formY]
  rfl

/-- **The literal of a served point is that point.** Every pair of finite numbers is served. What
any value is served as is sent as a call with the two coordinates as its parameters, and the literal
made of the texts of these parameters, with any blanks around its parts, is served as the same
point. -/
theorem point_of_its_literal (constructor : QualifiedName) :
    (∀ first second : Finite,
      (Codec.point constructor).decode (pointObject (.ofFinite first) (.ofFinite second)) =
        .ok (pointObject (.ofNumber first) (.ofNumber second))) ∧
    ∀ value x y : Json, (Codec.point constructor).decode value = .ok (pointObject x y) →
      (Codec.point constructor).encode (pointObject x y) =
        .ok (.call constructor [.value x, .value y]) ∧
      (Fragment.call constructor [.value x, .value y]).compile.parameters = [x, y] ∧
      ∀ spacing : Point.Spacing,
        (Codec.point constructor).decode
          (.string (String.ofList (spacing.literal x.chars y.chars))) = .ok (pointObject x y) := by
  refine ⟨fun first second => rfl, fun value x y served => ?_⟩
  have present : value ≠ .null := by
    rintro rfl
    rw [decode_null] at served
    cases served
  rw [decode_point present, map_ok_iff] at served
  obtain ⟨⟨x, y⟩, read, shape⟩ := served
  cases shape
  -- However the point was stored, its coordinates are in normal form, and the rest is known of
  -- those.
  obtain ⟨⟨first, rfl⟩, second, rfl⟩ := coordinates_normal read
  exact ⟨encode_pointObject constructor first second, Fragment.compile_parameters _,
    fun spacing => decode_point_literal constructor spacing first second⟩

/-- A negative zero and one half, with a space behind the comma. -/
def halfwayLiteral : Json := .string "(-0, .5)"

/-- The negative zero is served as zero, one half as itself. -/
theorem point_of_its_literal_halfway :
    (Codec.point (.inCatalog "point")).decode halfwayLiteral =
      .ok (pointObject (.ofInt 0) (.ofFinite half)) ∧
      ∀ spacing : Point.Spacing,
        (Codec.point (.inCatalog "point")).decode
            (.string (String.ofList
              (spacing.literal (Json.ofInt 0).chars (Json.ofFinite half).chars))) =
          .ok (pointObject (.ofInt 0) (.ofFinite half)) := by
  have readX : readBinary64? (trim ['-', '0']) = some (.finite (.zero true)) := by decide +kernel
  have readY : readBinary64? (trim [' ', '.', '5']) = some (.finite half) := by decide +kernel
  have whole : Json.ofNumber (.zero true) = .ofInt 0 := by
    have truncated : (Finite.zero true).truncate = 0 := by decide +kernel
    rw [Json.ofNumber_of_isInteger (Finite.isInteger_of_isZero rfl), truncated]
  have fractional : Json.ofNumber half = .ofFinite half :=
    Json.ofNumber_of_not_isInteger fun integer => absurd integer.1 (by decide +kernel)
  have served : (Codec.point (.inCatalog "point")).decode halfwayLiteral =
      .ok (pointObject (.ofInt 0) (.ofFinite half)) := by
    rw [← fractional, ← whole]
    change _ <$> (Point.readCoordinate halfwayLiteral ['-', '0'] >>= fun x =>
      Point.readCoordinate halfwayLiteral [' ', '.', '5'] >>= fun y => pure (x, y)) = _
    unfold Point.readCoordinate
    rw [readX, readY]
    rfl
  obtain ⟨-, -, again⟩ := (point_of_its_literal (.inCatalog "point")).2 _ _ _ served
  exact ⟨served, again⟩

end Codec

end CatalogSchema
