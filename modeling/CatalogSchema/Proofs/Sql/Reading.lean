/-
**SQL text is read in one way only.**

A fragment is known from its text and the values bound to it. The text alone tells the shape
(`Fragment.shape`): everything but the values.

* `quoteIdentifier_append_inj`: a quoted name ends at its own closing quote, whatever it contains.
* `write_eq`: the text is made of fixed pieces and of the places of values, which are numbered from
  left to right.
* `write_append_inj`: a text followed by anything but a quote belongs to one shape, and ends at one
  place.
* `eq_of_shape_values`: shape and values make up the fragment.
-/

import CatalogSchema.Sql.Fragment

namespace CatalogSchema

open Number

/-! ### Quoted names -/

/-- A text that does not go on with a quote. -/
def Unquoted (text : List Char) : Prop := text.head? ≠ some '"'

theorem unquoted_cons {c : Char} (other : c ≠ '"') (rest : List Char) : Unquoted (c :: rest) := by
  simpa [Unquoted] using other

theorem not_unquoted_quote (rest : List Char) : ¬Unquoted ('"' :: rest) := by simp [Unquoted]

/-- A name with its quotes doubled. -/
def doubleQuotes (name : List Char) : List Char :=
  name.flatMap (fun c => if c = '"' then ['"', '"'] else [c])

theorem doubleQuotes_cons {c : Char} (other : c ≠ '"') (name : List Char) :
    doubleQuotes (c :: name) = c :: doubleQuotes name := by
  simp [doubleQuotes, other]

/-- The first quote that is not doubled closes a name. -/
theorem doubleQuotes_append_inj {first second rest rest' : List Char} (ends : Unquoted rest)
    (ends' : Unquoted rest')
    (same : doubleQuotes first ++ '"' :: rest = doubleQuotes second ++ '"' :: rest') :
    first = second ∧ rest = rest' := by
  induction first generalizing second with
  | nil =>
    cases second with
    | nil => exact ⟨rfl, (List.cons.inj same).2⟩
    | cons d second =>
      by_cases quote : d = '"'
      · subst quote
        obtain rfl := (List.cons.inj same).2
        exact absurd ends (not_unquoted_quote _)
      · rw [doubleQuotes_cons quote] at same
        exact absurd (List.cons.inj same).1.symm quote
  | cons c first ih =>
    have tails : ∀ {second : List Char}, doubleQuotes first ++ '"' :: rest =
        doubleQuotes second ++ '"' :: rest' → c :: first = c :: second ∧ rest = rest' := by
      intro second tail
      obtain ⟨rfl, rfl⟩ := ih tail
      exact ⟨rfl, rfl⟩
    cases second with
    | nil =>
      by_cases quote : c = '"'
      · subst quote
        obtain rfl := (List.cons.inj same).2
        exact absurd ends' (not_unquoted_quote _)
      · rw [doubleQuotes_cons quote] at same
        exact absurd (List.cons.inj same).1 quote
    | cons d second =>
      by_cases quote : c = '"' <;> by_cases quote' : d = '"'
      · subst quote quote'
        exact tails (List.cons.inj (List.cons.inj same).2).2
      · subst quote
        rw [doubleQuotes_cons quote'] at same
        exact absurd (List.cons.inj same).1.symm quote'
      · subst quote'
        rw [doubleQuotes_cons quote] at same
        exact absurd (List.cons.inj same).1 quote
      · rw [doubleQuotes_cons quote, doubleQuotes_cons quote'] at same
        obtain ⟨rfl, tail⟩ := List.cons.inj same
        exact tails tail

/-- **A quoted name ends at its own closing quote**, whatever it contains. -/
theorem quoteIdentifier_append_inj {first second rest rest' : List Char} (ends : Unquoted rest)
    (ends' : Unquoted rest')
    (same : quoteIdentifier first ++ rest = quoteIdentifier second ++ rest') :
    first = second ∧ rest = rest' := by
  have inner : doubleQuotes first ++ '"' :: rest = doubleQuotes second ++ '"' :: rest' := by
    simpa [quoteIdentifier, doubleQuotes] using same
  exact doubleQuotes_append_inj ends ends' inner

theorem QualifiedName.sql_append_inj {first second : QualifiedName} {rest rest' : List Char}
    (ends : Unquoted rest) (ends' : Unquoted rest')
    (same : first.sql ++ rest = second.sql ++ rest') : first = second ∧ rest = rest' := by
  obtain ⟨space, name⟩ := first
  obtain ⟨space', name'⟩ := second
  have split : quoteIdentifier space.toList ++ '.' :: (quoteIdentifier name.toList ++ rest) =
      quoteIdentifier space'.toList ++ '.' :: (quoteIdentifier name'.toList ++ rest') := by
    simpa [QualifiedName.sql] using same
  have dot (later : List Char) : Unquoted ('.' :: later) := unquoted_cons (by decide) later
  obtain ⟨spaces, later⟩ := quoteIdentifier_append_inj (dot _) (dot _) split
  obtain ⟨names, rests⟩ := quoteIdentifier_append_inj ends ends' (List.cons.inj later).2
  obtain rfl := String.toList_inj.1 spaces
  obtain rfl := String.toList_inj.1 names
  exact ⟨rfl, rests⟩

/-- A qualified name opens with a quote. -/
theorem QualifiedName.sql_eq_cons (name : QualifiedName) : ∃ later, name.sql = '"' :: later :=
  ⟨_, rfl⟩

/-! ### Pieces -/

/-- A piece of the text of a fragment: fixed text, or the place of a value. -/
inductive Piece where
  | text (chars : List Char)
  | value (payload : Json)

namespace Piece

/-- The value of a place. -/
def value? : Piece → Option Json
  | .text _ => none
  | .value payload => some payload

/-- The values of some pieces, from left to right. -/
def values (pieces : List Piece) : List Json := pieces.filterMap value?

/-- The text of some pieces after a count of earlier values: the places are numbered through. -/
def fill : Nat → List Piece → List Char
  | _, [] => []
  | bound, .text chars :: rest => chars ++ fill bound rest
  | bound, .value _ :: rest => '$' :: digitsOfNat (bound + 1) ++ fill (bound + 1) rest

/-- A place without its value, for which a null stands. -/
def blank : Piece → Piece
  | .text chars => .text chars
  | .value _ => .value .null

@[simp] theorem values_nil : values [] = [] := rfl

@[simp] theorem values_text (chars : List Char) (rest : List Piece) :
    values (.text chars :: rest) = values rest := rfl

@[simp] theorem values_value (payload : Json) (rest : List Piece) :
    values (.value payload :: rest) = payload :: values rest := rfl

@[simp] theorem values_append (first second : List Piece) :
    values (first ++ second) = values first ++ values second := List.filterMap_append

@[simp] theorem fill_append (bound : Nat) (first second : List Piece) :
    fill bound (first ++ second) = fill bound first ++
      fill (bound + (values first).length) second := by
  induction first generalizing bound with
  | nil => rfl
  | cons piece first ih =>
    cases piece with
    | text chars => simp [fill, ih]
    | value payload => simp [fill, ih, Nat.add_assoc, Nat.add_comm 1]

@[simp] theorem fill_blank (bound : Nat) (pieces : List Piece) :
    fill bound (pieces.map blank) = fill bound pieces := by
  induction pieces generalizing bound with
  | nil => rfl
  | cons piece pieces ih => cases piece <;> simp [fill, blank, ih]

@[simp] theorem length_values_blank (pieces : List Piece) :
    (values (pieces.map blank)).length = (values pieces).length := by
  induction pieces with
  | nil => rfl
  | cons piece pieces ih => cases piece <;> simp [blank, ih]

/-- The places of values cut the pieces in two, each at its own number. -/
theorem exists_place {pieces : List Piece} {index : Nat} {payload : Json}
    (found : (values pieces)[index]? = some payload) :
    ∃ before after, pieces = before ++ .value payload :: after ∧
      (values before).length = index := by
  induction pieces generalizing index with
  | nil => simp at found
  | cons piece pieces ih =>
    cases piece with
    | text chars =>
      obtain ⟨before, after, split, count⟩ := ih found
      exact ⟨.text chars :: before, after, by rw [split]; rfl, count⟩
    | value first =>
      cases index with
      | zero =>
        obtain rfl := Option.some.inj found
        exact ⟨[], pieces, rfl, rfl⟩
      | succ index =>
        obtain ⟨before, after, split, count⟩ := ih found
        exact ⟨.value first :: before, after, by rw [split]; rfl, by simp [count]⟩

end Piece

namespace Fragment

mutual

/-- The pieces of a fragment's text. -/
def pieces : Fragment → List Piece
  | .value payload => [.value payload]
  | .null => [.text ['n', 'u', 'l', 'l']]
  | .cast expression target =>
    .text ['('] :: expression.pieces ++ [.text ([')', ':', ':'] ++ target.sql)]
  | .call function arguments =>
    .text (function.sql ++ ['(']) :: listPieces arguments ++ [.text [')']]
  | .array elements elementType =>
    .text ['a', 'r', 'r', 'a', 'y', '['] :: listPieces elements ++
      [.text ([']', ':', ':'] ++ elementType.sql ++ ['[', ']'])]

/-- The pieces of several fragments with commas between them. -/
def listPieces : List Fragment → List Piece
  | [] => []
  | [fragment] => fragment.pieces
  | fragment :: rest => fragment.pieces ++ .text [',', ' '] :: listPieces rest

end

/-- The values bound in a fragment, from left to right. -/
def values (fragment : Fragment) : List Json := Piece.values fragment.pieces

mutual

/-- **A fragment is written piece by piece**, its values numbered from left to right. -/
theorem write_eq (bound : Nat) : (fragment : Fragment) →
    fragment.write bound = (Piece.fill bound fragment.pieces, fragment.values)
  | .value payload => by simp [write, values, pieces, Piece.fill]
  | .null => rfl
  | .cast expression target => by
    simp [write, write_eq bound expression, values, pieces, Piece.fill]
  | .call function arguments => by
    simp [write, writeList_eq bound arguments, values, pieces, Piece.fill]
  | .array elements elementType => by
    simp [write, writeList_eq bound elements, values, pieces, Piece.fill]

theorem writeList_eq (bound : Nat) : (fragments : List Fragment) →
    writeList bound fragments =
      (Piece.fill bound (listPieces fragments), Piece.values (listPieces fragments))
  | [] => rfl
  | [fragment] => by simp [writeList, listPieces, write_eq bound fragment, values]
  | fragment :: next :: rest => by
    simp [writeList, listPieces, write_eq bound fragment, values, Piece.fill,
      writeList_eq _ (next :: rest)]

end

/-- The text of a fragment after a count of earlier values. -/
def text (bound : Nat) (fragment : Fragment) : List Char := Piece.fill bound fragment.pieces

/-- The text of several fragments with commas between them. -/
def listText (bound : Nat) (fragments : List Fragment) : List Char :=
  Piece.fill bound (listPieces fragments)

theorem compile_parameters (fragment : Fragment) :
    fragment.compile.parameters = fragment.values := by
  simp [compile, write_eq]

theorem compile_text (fragment : Fragment) :
    fragment.compile.text = String.ofList (fragment.text 0) := by
  simp [compile, write_eq, text]

section Text

variable (bound : Nat)

@[simp] theorem text_value (payload : Json) :
    (Fragment.value payload).text bound = '$' :: digitsOfNat (bound + 1) := by
  simp [text, pieces, Piece.fill]

@[simp] theorem text_null : Fragment.null.text bound = ['n', 'u', 'l', 'l'] := rfl

@[simp] theorem text_cast (expression : Fragment) (target : QualifiedName) :
    (Fragment.cast expression target).text bound =
      '(' :: (expression.text bound ++ ')' :: ':' :: ':' :: target.sql) := by
  simp [text, pieces, Piece.fill]

@[simp] theorem text_call (function : QualifiedName) (arguments : List Fragment) :
    (Fragment.call function arguments).text bound =
      function.sql ++ '(' :: (listText bound arguments ++ [')']) := by
  simp [text, listText, pieces, Piece.fill]

@[simp] theorem text_array (elements : List Fragment) (elementType : QualifiedName) :
    (Fragment.array elements elementType).text bound =
      ['a', 'r', 'r', 'a', 'y', '['] ++
        (listText bound elements ++ ']' :: ':' :: ':' :: (elementType.sql ++ ['[', ']'])) := by
  simp [text, listText, pieces, Piece.fill]

@[simp] theorem listText_cons (fragment next : Fragment) (rest : List Fragment) :
    listText bound (fragment :: next :: rest) =
      fragment.text bound ++ ',' :: ' ' :: listText (bound + fragment.values.length)
        (next :: rest) := by
  simp [text, listText, listPieces, Piece.fill, values]

end Text

@[simp] theorem values_listPieces_cons (fragment : Fragment) (rest : List Fragment) :
    Piece.values (listPieces (fragment :: rest)) = fragment.values ++
      Piece.values (listPieces rest) := by
  cases rest <;> simp [listPieces, values]

/-! ### Shapes -/

mutual

/-- A fragment without its values: a null stands in the place of each. -/
def shape : Fragment → Fragment
  | .value _ => .value .null
  | .null => .null
  | .cast expression target => .cast expression.shape target
  | .call function arguments => .call function (listShape arguments)
  | .array elements elementType => .array (listShape elements) elementType

/-- Several fragments without their values. -/
def listShape : List Fragment → List Fragment
  | [] => []
  | fragment :: rest => fragment.shape :: listShape rest

end

theorem listShape_cons (fragment : Fragment) (rest : List Fragment) :
    listShape (fragment :: rest) = fragment.shape :: listShape rest := rfl

mutual

theorem pieces_shape :
    (fragment : Fragment) → fragment.shape.pieces = fragment.pieces.map Piece.blank
  | .value _ => rfl
  | .null => rfl
  | .cast expression target => by simp [shape, pieces, pieces_shape expression, Piece.blank]
  | .call function arguments => by simp [shape, pieces, listPieces_shape arguments, Piece.blank]
  | .array elements elementType => by simp [shape, pieces, listPieces_shape elements, Piece.blank]

theorem listPieces_shape : (fragments : List Fragment) →
    listPieces (listShape fragments) = (listPieces fragments).map Piece.blank
  | [] => rfl
  | [fragment] => pieces_shape fragment
  | fragment :: next :: rest => by
    have later := listPieces_shape (next :: rest)
    rw [listShape_cons] at later
    simp [listShape_cons, listPieces, pieces_shape fragment, later, Piece.blank]

end

@[simp] theorem text_shape (bound : Nat) (fragment : Fragment) :
    fragment.shape.text bound = fragment.text bound := by
  simp [text, pieces_shape]

@[simp] theorem length_values_shape (fragment : Fragment) :
    fragment.shape.values.length = fragment.values.length := by
  simp [values, pieces_shape]

theorem length_values_of_shape {first second : Fragment} (same : first.shape = second.shape) :
    first.values.length = second.values.length := by
  rw [← length_values_shape first, same, length_values_shape]

/-! ### One shape for a text -/

/-- The first character of a fragment's text, which tells what kind of fragment it is. -/
def opening : Fragment → Char
  | .value _ => '$'
  | .null => 'n'
  | .cast _ _ => '('
  | .call _ _ => '"'
  | .array _ _ => 'a'

theorem text_eq_cons (bound : Nat) (fragment : Fragment) :
    ∃ later, fragment.text bound = fragment.opening :: later := by
  cases fragment with
  | call function arguments =>
    obtain ⟨later, opens⟩ := function.sql_eq_cons
    exact ⟨_, by rw [text_call, opens]; rfl⟩
  | _ => exact ⟨_, by simp only [text_value, text_null, text_cast, text_array]; rfl⟩

theorem opening_eq {first second : Fragment} {bound : Nat} {rest rest' : List Char}
    (same : first.text bound ++ rest = second.text bound ++ rest') :
    first.opening = second.opening := by
  obtain ⟨later, opens⟩ := text_eq_cons bound first
  obtain ⟨later', opens'⟩ := text_eq_cons bound second
  rw [opens, opens'] at same
  exact (List.cons.inj same).1

/-- No list with an element opens with a character that closes it. -/
theorem listText_not_closes {fragment : Fragment} {others : List Fragment}
    {bound : Nat} {close : Char} {rest rest' : List Char} (closes : close = ')' ∨ close = ']') :
    listText bound (fragment :: others) ++ rest ≠ close :: rest' := by
  intro same
  obtain ⟨later, opens⟩ :
      ∃ later, listText bound (fragment :: others) = fragment.opening :: later := by
    obtain ⟨later, opens⟩ := text_eq_cons bound fragment
    cases others with
    | nil => exact ⟨later, opens⟩
    | cons next others => exact ⟨_, by rw [listText_cons, opens]; rfl⟩
  rw [opens] at same
  have first := (List.cons.inj same).1
  rcases closes with rfl | rfl <;> cases fragment <;> simp [opening] at first

theorem unquoted_close {close : Char} (closes : close = ')' ∨ close = ']') (rest : List Char) :
    Unquoted (close :: rest) := by
  rcases closes with rfl | rfl <;> exact unquoted_cons (by decide) rest

mutual

/-- **A text belongs to one shape and ends at one place**, if anything but a quote follows it. -/
theorem text_append_inj (bound : Nat) {rest rest' : List Char} (ends : Unquoted rest)
    (ends' : Unquoted rest') : (first second : Fragment) →
    first.text bound ++ rest = second.text bound ++ rest' → first.shape = second.shape ∧
      rest = rest'
  | .value _, second, same => by
    have kind := opening_eq same
    cases second with
    | value _ => exact ⟨rfl, by simpa using same⟩
    | _ => simp [opening] at kind
  | .null, second, same => by
    have kind := opening_eq same
    cases second with
    | null => exact ⟨rfl, by simpa using same⟩
    | _ => simp [opening] at kind
  | .cast expression target, second, same => by
    have kind := opening_eq same
    cases second with
    | cast expression' target' =>
      have inner : expression.text bound ++ ')' :: ':' :: ':' :: (target.sql ++ rest) =
          expression'.text bound ++ ')' :: ':' :: ':' :: (target'.sql ++ rest') := by
        simpa using same
      have paren (later : List Char) : Unquoted (')' :: later) := unquoted_cons (by decide) later
      obtain ⟨expressions, later⟩ :=
        text_append_inj bound (paren _) (paren _) expression expression' inner
      obtain ⟨rfl, rests⟩ := QualifiedName.sql_append_inj ends ends' (by simpa using later)
      exact ⟨by rw [shape, shape, expressions], rests⟩
    | _ => simp [opening] at kind
  | .call function arguments, second, same => by
    have kind := opening_eq same
    cases second with
    | call function' arguments' =>
      have split : function.sql ++ '(' :: (listText bound arguments ++ ')' :: rest) =
          function'.sql ++ '(' :: (listText bound arguments' ++ ')' :: rest') := by
        simpa using same
      have paren (later : List Char) : Unquoted ('(' :: later) := unquoted_cons (by decide) later
      obtain ⟨rfl, later⟩ := QualifiedName.sql_append_inj (paren _) (paren _) split
      obtain ⟨lists, rests⟩ := listText_append_inj bound (.inl rfl) arguments arguments'
        (List.cons.inj later).2
      exact ⟨by rw [shape, shape, lists], rests⟩
    | _ => simp [opening] at kind
  | .array elements elementType, second, same => by
    have kind := opening_eq same
    cases second with
    | array elements' elementType' =>
      have inner : listText bound elements ++
            ']' :: (':' :: ':' :: (elementType.sql ++ '[' :: ']' :: rest)) =
          listText bound elements' ++
            ']' :: (':' :: ':' :: (elementType'.sql ++ '[' :: ']' :: rest')) := by
        simpa using same
      obtain ⟨lists, later⟩ := listText_append_inj bound (.inr rfl) elements elements' inner
      have bracket (later : List Char) : Unquoted ('[' :: later) := unquoted_cons (by decide) later
      obtain ⟨rfl, rests⟩ :=
        QualifiedName.sql_append_inj (bracket _) (bracket _) (by simpa using later)
      exact ⟨by rw [shape, shape, lists], by simpa using rests⟩
    | _ => simp [opening] at kind

/-- The texts of a list belong to one list of shapes, and end where the list is closed. -/
theorem listText_append_inj (bound : Nat) {close : Char} (closes : close = ')' ∨ close = ']')
    {rest rest' : List Char} : (first second : List Fragment) →
    listText bound first ++ close :: rest = listText bound second ++ close :: rest' →
      listShape first = listShape second ∧ rest = rest'
  | [], [], same => ⟨rfl, (List.cons.inj same).2⟩
  | [], _ :: _, same => (listText_not_closes closes same.symm).elim
  | _ :: _, [], same => (listText_not_closes closes same).elim
  | [first], [second], same => by
    have closed (later : List Char) : Unquoted (close :: later) := unquoted_close closes later
    obtain ⟨shapes, rests⟩ := text_append_inj bound (closed _) (closed _) first second same
    exact ⟨by rw [listShape_cons, listShape_cons, shapes], (List.cons.inj rests).2⟩
  | [first], second :: next' :: second', same => by
    rw [listText_cons, List.append_assoc] at same
    obtain ⟨-, later⟩ := text_append_inj bound (unquoted_close closes _)
      (unquoted_cons (by decide) _) first second same
    have comma := (List.cons.inj later).1
    rcases closes with rfl | rfl <;> simp at comma
  | first :: next :: first', [second], same => by
    rw [listText_cons, List.append_assoc] at same
    obtain ⟨-, later⟩ := text_append_inj bound (unquoted_cons (by decide) _)
      (unquoted_close closes _) first second same
    have comma := (List.cons.inj later).1
    rcases closes with rfl | rfl <;> simp at comma
  | first :: next :: first', second :: next' :: second', same => by
    rw [listText_cons, listText_cons, List.append_assoc, List.append_assoc] at same
    have comma (later : List Char) : Unquoted (',' :: later) := unquoted_cons (by decide) later
    obtain ⟨shapes, later⟩ := text_append_inj bound (comma _) (comma _) first second same
    -- Equal shapes bind equally many values, so the later texts are numbered alike.
    rw [length_values_of_shape shapes] at later
    obtain ⟨laterShapes, rests⟩ := listText_append_inj _ closes (next :: first') (next' :: second')
      (by simpa using later)
    exact ⟨by rw [listShape_cons, shapes, laterShapes]; rfl, rests⟩

end

theorem compile_text_eq_iff {first second : Fragment} :
    first.compile.text = second.compile.text ↔ first.shape = second.shape := by
  rw [compile_text, compile_text, String.ofList_inj]
  constructor
  · intro same
    have ends : Unquoted [] := nofun
    exact (text_append_inj 0 ends ends first second (by simpa using same)).1
  · intro same
    rw [← text_shape 0 first, same, text_shape]

/-! ### Shape and values -/

mutual

/-- **Shape and values make up the fragment.** -/
theorem eq_of_shape_values : (first second : Fragment) → first.shape = second.shape →
    first.values = second.values → first = second
  | .value _, second, shapes, same => by
    cases second <;> simp_all [shape, values, pieces]
  | .null, second, shapes, same => by
    cases second <;> simp_all [shape]
  | .cast expression target, second, shapes, same => by
    cases second with
    | cast expression' target' =>
      simp only [shape, cast.injEq] at shapes
      have inner := eq_of_shape_values expression expression' shapes.1
        (by simpa [values, pieces] using same)
      rw [inner, shapes.2]
    | _ => simp [shape] at shapes
  | .call function arguments, second, shapes, same => by
    cases second with
    | call function' arguments' =>
      simp only [shape, call.injEq] at shapes
      have inner := eq_of_listShape_values arguments arguments' shapes.2
        (by simpa [values, pieces] using same)
      rw [inner, shapes.1]
    | _ => simp [shape] at shapes
  | .array elements elementType, second, shapes, same => by
    cases second with
    | array elements' elementType' =>
      simp only [shape, array.injEq] at shapes
      have inner := eq_of_listShape_values elements elements' shapes.1
        (by simpa [values, pieces] using same)
      rw [inner, shapes.2]
    | _ => simp [shape] at shapes

theorem eq_of_listShape_values :
    (first second : List Fragment) → listShape first = listShape second →
    Piece.values (listPieces first) = Piece.values (listPieces second) → first = second
  | [], second, shapes, _ => by
    cases second with
    | nil => rfl
    | cons _ _ => simp [listShape] at shapes
  | first :: firsts, [], shapes, _ => by simp [listShape] at shapes
  | first :: firsts, second :: seconds, shapes, same => by
    obtain ⟨head, tail⟩ := List.cons.inj shapes
    rw [values_listPieces_cons, values_listPieces_cons] at same
    obtain ⟨heads, tails⟩ := List.append_inj same (length_values_of_shape head)
    rw [eq_of_shape_values first second head heads,
      eq_of_listShape_values firsts seconds tail tails]

end

/-! ### One reading -/

/-- **SQL text is read in one way only.** Text and values make up the fragment, and the text alone
its shape. The value at an index stands where the placeholder of that number does. Whatever follows
a text, unless it is a quote, is not read as a part of it, nor the other way round. -/
theorem compile_read_uniquely :
    (∀ first second : Fragment, first.compile.text = second.compile.text →
      first.compile.parameters = second.compile.parameters → first = second) ∧
    (∀ first second : Fragment,
      first.compile.text = second.compile.text ↔ first.shape = second.shape) ∧
    (∀ (fragment : Fragment) (index : Nat) (payload : Json),
      fragment.values[index]? = some payload →
        fragment.compile.parameters[index]? = some payload ∧
        ∃ before after, fragment.pieces = before ++ .value payload :: after ∧
          (Piece.values before).length = index ∧
          fragment.compile.text = String.ofList (Piece.fill 0 before ++
            '$' :: digitsOfNat (index + 1) ++ Piece.fill (index + 1) after)) ∧
    (∀ (bound : Nat) (first second : Fragment) (rest rest' : List Char), Unquoted rest →
      Unquoted rest' → (first.write bound).1 ++ rest = (second.write bound).1 ++ rest' →
        first.shape = second.shape ∧ rest = rest') := by
  refine ⟨fun first second texts parameters => ?_, fun _ _ => compile_text_eq_iff,
    fun fragment index payload found => ?_, fun bound first second rest rest' ends ends' same => ?_⟩
  · rw [compile_parameters, compile_parameters] at parameters
    exact eq_of_shape_values first second (compile_text_eq_iff.1 texts) parameters
  · obtain ⟨before, after, split, count⟩ := Piece.exists_place found
    refine ⟨by rw [compile_parameters, found], before, after, split, count, ?_⟩
    rw [compile_text, text, split, Piece.fill_append, count, Nat.zero_add, Piece.fill,
      List.append_assoc]
  · rw [write_eq, write_eq] at same
    exact text_append_inj bound ends ends' first second same

/-- A call with names full of quotes and brackets, around a cast, a list of no elements and two
texts. -/
def readingSample (first second : String) : Fragment :=
  .call ⟨"a\"b", "c\".\"($1"⟩ [.cast (.value (.string first)) ⟨"pg_catalog", "]::"⟩, .null,
    .array [] ⟨"", "[]"⟩, .value (.string second)]

theorem compile_read_uniquely_sample :
    let bounded := readingSample "x" "[)"
    let other := readingSample "y" "()"
    bounded.values[1]? = some (.string "[)") ∧
      bounded.compile.parameters[1]? = some (.string "[)") ∧
      (Unquoted [')'] ∧ (bounded.write 0).1 ++ [')'] = (other.write 0).1 ++ [')'] ∧
        bounded.shape = other.shape ∧ bounded.compile.text = other.compile.text) ∧
      bounded.compile.text = bounded.compile.text ∧
      bounded.compile.parameters = bounded.compile.parameters ∧ bounded = bounded := by
  intro bounded other
  obtain ⟨injective, shapes, places, ends⟩ := compile_read_uniquely
  have found : bounded.values[1]? = some (.string "[)") := rfl
  have closed : Unquoted [')'] := unquoted_cons (by decide) []
  have same : (bounded.write 0).1 ++ [')'] = (other.write 0).1 ++ [')'] := rfl
  have alike := (ends 0 bounded other [')'] [')'] closed closed same).1
  exact ⟨found, (places bounded 1 _ found).1, ⟨closed, same, alike, (shapes bounded other).2 alike⟩,
    rfl, rfl, injective bounded bounded rfl rfl⟩

end Fragment

end CatalogSchema
