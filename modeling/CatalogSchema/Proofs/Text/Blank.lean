/-
**Trimming and splitting at blanks.**

* `trim_around`: trimming a text leaves it of the blanks around it, if it starts and ends visibly.
* `filter_trim`: trimming drops nothing but blanks.
* `exists_around_trim`: a text is what trimming leaves, with blanks around it.
* `exists_of_blankSeparated_cons`: where the pieces between the blanks stand.
* `blankSeparated_join`: words that are joined by spaces are the pieces between the blanks.
-/

import CatalogSchema.Text.Blank

namespace CatalogSchema.Text

/-! ### Trimming -/

theorem dropWhile_of_visible_head {text : List Char}
    (visible : ∀ c ∈ text.head?, isBlank c = false) :
    text.dropWhile isBlank = text := by
  cases text with
  | nil => rfl
  | cons c text => rw [List.dropWhile_cons_of_neg (by simp [visible c rfl])]

/-- **Trimming leaves a text of the blanks around it**, if its first and its last character are
visible. -/
theorem trim_around {before text after : List Char}
    (blank : ∀ c ∈ before ++ after, isBlank c = true)
    (visibleFirst : ∀ c ∈ text.head?, isBlank c = false)
    (visibleLast : ∀ c ∈ text.getLast?, isBlank c = false) :
    trim (before ++ (text ++ after)) = text := by
  obtain ⟨blankBefore, blankAfter⟩ := List.forall_mem_append.1 blank
  have blankReverse : ∀ c ∈ after.reverse, isBlank c = true := fun c found =>
    blankAfter c (List.mem_reverse.1 found)
  unfold trim trimEnd trimStart
  rw [List.dropWhile_append_of_pos blankBefore]
  by_cases empty : text = []
  · have nothing : (after ++ []).dropWhile isBlank = [] := List.dropWhile_append_of_pos blankAfter
    rw [List.append_nil] at nothing
    rw [empty, List.nil_append, nothing]
    rfl
  · have first : ∀ c ∈ (text ++ after).head?, isBlank c = false := by
      obtain ⟨c, more, rfl⟩ := List.exists_cons_of_ne_nil empty
      exact visibleFirst
    have last : ∀ c ∈ text.reverse.head?, isBlank c = false := by rwa [List.head?_reverse]
    rw [dropWhile_of_visible_head first, List.reverse_append,
      List.dropWhile_append_of_pos blankReverse, dropWhile_of_visible_head last,
      List.reverse_reverse]

/-- Trimming leaves a text without blanks of the blanks around it. -/
theorem trim_between {before text after : List Char}
    (blank : ∀ c ∈ before ++ after, isBlank c = true) (visible : ∀ c ∈ text, isBlank c = false) :
    trim (before ++ (text ++ after)) = text :=
  trim_around blank (fun c first => visible c (List.mem_of_mem_head? first))
    fun c last => visible c (List.mem_of_mem_getLast? last)

/-- A text that starts and ends visibly is what trimming leaves of it. -/
theorem trim_of_visible_ends {text : List Char} (visibleFirst : ∀ c ∈ text.head?, isBlank c = false)
    (visibleLast : ∀ c ∈ text.getLast?, isBlank c = false) : trim text = text := by
  have around := @trim_around [] text [] nofun visibleFirst visibleLast
  rwa [List.append_nil] at around

/-- A text without blanks is what trimming leaves of it. -/
theorem trim_of_no_blank {text : List Char} (visible : ∀ c ∈ text, isBlank c = false) :
    trim text = text :=
  trim_of_visible_ends (fun c first => visible c (List.mem_of_mem_head? first))
    fun c last => visible c (List.mem_of_mem_getLast? last)

/-- Trimming drops nothing but what it is told to. -/
theorem filter_trimEnd_trimStart {dropped kept : Char → Bool}
    (disjoint : ∀ c, kept c = true → dropped c = false) (text : List Char) :
    (trimEnd dropped (trimStart dropped text)).filter kept = text.filter kept := by
  have drop (text : List Char) : (text.dropWhile dropped).filter kept = text.filter kept := by
    have none : (text.takeWhile dropped).filter kept = [] :=
      List.filter_eq_nil_iff.2 fun c found keeps =>
        absurd ((List.all_eq_true.1 List.all_takeWhile) c found)
          (Bool.eq_false_iff.1 (disjoint c keeps))
    rw [← List.nil_append ((text.dropWhile dropped).filter kept), ← none, ← List.filter_append,
      List.takeWhile_append_dropWhile]
  unfold trimEnd trimStart
  rw [List.filter_reverse, drop, ← List.filter_reverse, List.reverse_reverse, drop]

/-- Trimming drops nothing but blanks. -/
theorem filter_trim {kept : Char → Bool} (visible : ∀ c, kept c = true → isBlank c = false)
    (text : List Char) :
    (trim text).filter kept = text.filter kept :=
  filter_trimEnd_trimStart visible text

/-- A visible character is in a text, trimmed or not. -/
theorem mem_trim {c : Char} (visible : isBlank c = false) {text : List Char} :
    c ∈ trim text ↔ c ∈ text := by
  have same : (trim text).filter (· == c) = text.filter (· == c) :=
    filter_trim (fun other equal => by rwa [eq_of_beq equal]) text
  have found {text : List Char} : c ∈ text.filter (· == c) ↔ c ∈ text := by simp [List.mem_filter]
  rw [← found, same, found]

/-- What is left behind the dropped characters begins with another one. -/
theorem head?_dropWhile_eq_false (dropped : Char → Bool) (text : List Char) :
    ∀ c ∈ (text.dropWhile dropped).head?, dropped c = false := by
  intro c first
  have stops := List.head?_dropWhile_not dropped text
  rw [Option.mem_def.1 first] at stops
  exact stops

/-- What trimming leaves ends visibly. -/
theorem visible_getLast?_trim (text : List Char) :
    ∀ c ∈ (trim text).getLast?, isBlank c = false := by
  unfold trim trimEnd
  rw [List.getLast?_reverse]
  exact head?_dropWhile_eq_false isBlank _

/-- A text is what trimming leaves, with blanks around it. -/
theorem exists_around_trim (text : List Char) :
    ∃ before after, (∀ c ∈ before ++ after, isBlank c = true) ∧
      text = before ++ (trim text ++ after) := by
  have blank (text : List Char) : ∀ c ∈ text.takeWhile isBlank, isBlank c = true :=
    List.all_eq_true.1 List.all_takeWhile
  refine ⟨text.takeWhile isBlank, ((text.dropWhile isBlank).reverse.takeWhile isBlank).reverse,
    List.forall_mem_append.2 ⟨blank text, fun c found => blank _ c (List.mem_reverse.1 found)⟩, ?_⟩
  unfold trim trimEnd trimStart
  rw [← List.reverse_append, List.takeWhile_append_dropWhile, List.reverse_reverse,
    List.takeWhile_append_dropWhile]

/-- What trimming leaves stands in the text. -/
theorem mem_of_mem_trim {text : List Char} {c : Char} (inside : c ∈ trim text) : c ∈ text := by
  obtain ⟨before, after, -, around⟩ := exists_around_trim text
  rw [around]
  exact List.mem_append_right _ (List.mem_append_left _ inside)

/-- What trimming leaves starts visibly. -/
theorem visible_head?_trim (text : List Char) : ∀ c ∈ (trim text).head?, isBlank c = false := by
  intro c first
  have whole := head?_dropWhile_eq_false isBlank text
  obtain ⟨after, rest⟩ : trim text <+: text.dropWhile isBlank := by
    rw [← List.reverse_suffix]
    unfold trim trimEnd trimStart
    rw [List.reverse_reverse]
    exact List.dropWhile_suffix isBlank
  obtain ⟨more, shape⟩ := List.head?_eq_some_iff.1 (Option.mem_def.1 first)
  refine whole c ?_
  rw [← rest, shape]
  rfl

/-! ### Splitting -/

/-- A text in which nothing separates is one piece. -/
theorem splitAt_of_none {separates : Char → Bool} {text : List Char}
    (none : ∀ c ∈ text, separates c = false) : splitAt separates text = [text] := by
  induction text with
  | nil => rfl
  | cons c text ih =>
    rw [splitAt, if_neg (by simp [none c]), ih fun other listed => none other (.tail _ listed)]

/-- The first piece ends at the first separator. -/
theorem splitAt_append_cons {separates : Char → Bool} {piece : List Char}
    (none : ∀ c ∈ piece, separates c = false) {separator : Char}
    (separating : separates separator = true) (rest : List Char) :
    splitAt separates (piece ++ separator :: rest) = piece :: splitAt separates rest := by
  induction piece with
  | nil => exact if_pos separating
  | cons c piece ih =>
    rw [List.cons_append, splitAt, if_neg (by simp [none c]),
      ih fun other listed => none other (.tail _ listed)]

/-! ### Words -/

/-- A row of visible characters, at least one. -/
def IsWord (text : List Char) : Prop := text ≠ [] ∧ ∀ c ∈ text, isBlank c = false

instance (text : List Char) : Decidable (IsWord text) :=
  decidable_of_iff (text ≠ [] ∧ text.all (fun c => !isBlank c) = true) (by simp [IsWord])

/-- Blanks in front of a text are not in any piece. -/
theorem blankSeparated_append_of_blank {before : List Char} (blank : ∀ c ∈ before, isBlank c = true)
    (text : List Char) : blankSeparated (before ++ text) = blankSeparated text := by
  induction before with
  | nil => rfl
  | cons c before ih =>
    have first : blankSeparated (c :: (before ++ text)) = blankSeparated (before ++ text) := by
      unfold blankSeparated
      rw [splitAt, if_pos (blank c List.mem_cons_self)]
      rfl
    rw [List.cons_append, first, ih fun other listed => blank other (.tail _ listed)]

/-- A word in front of a blank is a piece. -/
theorem blankSeparated_append {word : List Char} (isWord : IsWord word) {rest : List Char}
    (ends : ∀ c ∈ rest.head?, isBlank c = true) :
    blankSeparated (word ++ rest) = word :: blankSeparated rest := by
  have kept : word.isEmpty = false := List.isEmpty_eq_false_iff.2 isWord.1
  unfold blankSeparated
  cases rest with
  | nil =>
    rw [List.append_nil, splitAt_of_none isWord.2]
    simp [kept, splitAt]
  | cons c rest =>
    have blank := ends c rfl
    rw [splitAt_append_cons isWord.2 blank, splitAt, if_pos blank]
    simp [kept]

/-- A text that starts visibly starts with a word that reaches to the next blank. -/
theorem exists_first_word {c : Char} (visible : isBlank c = false) (more : List Char) :
    ∃ word rest, c :: more = word ++ rest ∧ IsWord word ∧ ∀ d ∈ rest.head?, isBlank d = true := by
  refine ⟨(c :: more).takeWhile (!isBlank ·), (c :: more).dropWhile (!isBlank ·),
    List.takeWhile_append_dropWhile.symm, ⟨?_, fun d found => ?_⟩, fun d first => ?_⟩
  · rw [List.takeWhile_cons_of_pos (by simp [visible])]
    nofun
  · simpa using List.all_eq_true.1 List.all_takeWhile d found
  · simpa using head?_dropWhile_eq_false (!isBlank ·) (c :: more) d first

/-- A text is blank, or a word stands behind its first blanks. -/
theorem blank_or_exists_first_word (text : List Char) : (∀ c ∈ text, isBlank c = true) ∨
    ∃ before word rest, text = before ++ (word ++ rest) ∧ (∀ c ∈ before, isBlank c = true) ∧
      IsWord word ∧
      ∀ d ∈ rest.head?, isBlank d = true := by
  have blank : ∀ c ∈ text.takeWhile isBlank, isBlank c = true :=
    List.all_eq_true.1 List.all_takeWhile
  have start := head?_dropWhile_eq_false isBlank text
  have cut : text.takeWhile isBlank ++ text.dropWhile isBlank = text :=
    List.takeWhile_append_dropWhile
  generalize text.dropWhile isBlank = visible at start cut
  cases visible with
  | nil =>
    rw [← cut, List.append_nil]
    exact .inl blank
  | cons c more =>
    obtain ⟨word, rest, pieces, isWord, ends⟩ := exists_first_word (start c rfl) more
    exact .inr ⟨_, word, rest, by rw [← pieces, cut], blank, isWord, ends⟩

/-- **The first piece** stands behind nothing but blanks, and the other pieces stand behind it. -/
theorem exists_of_blankSeparated_cons {text word : List Char} {words : List (List Char)}
    (split : blankSeparated text = word :: words) :
    ∃ before rest, text = before ++ (word ++ rest) ∧ (∀ c ∈ before, isBlank c = true) ∧
      IsWord word ∧
      blankSeparated rest = words := by
  rcases blank_or_exists_first_word text with
    blank | ⟨before, first, rest, rfl, blank, isWord, ends⟩
  · have none := blankSeparated_append_of_blank blank []
    rw [List.append_nil, split] at none
    cases none
  · rw [blankSeparated_append_of_blank blank, blankSeparated_append isWord ends] at split
    obtain ⟨rfl, later⟩ := List.cons.inj split
    exact ⟨before, rest, rfl, blank, isWord, later⟩

/-- A text without pieces is blank. -/
theorem blank_of_blankSeparated_nil {text : List Char} (none : blankSeparated text = []) :
    ∀ c ∈ text, isBlank c = true := by
  rcases blank_or_exists_first_word text with
    blank | ⟨before, first, rest, rfl, blank, isWord, ends⟩
  · exact blank
  · rw [blankSeparated_append_of_blank blank, blankSeparated_append isWord ends] at none
    cases none

/-- A text that ends visibly is empty if it has no pieces. -/
theorem eq_nil_of_blankSeparated_nil {text : List Char}
    (visible : ∀ c ∈ text.getLast?, isBlank c = false)
    (none : blankSeparated text = []) : text = [] := by
  refine Decidable.byContradiction fun present => ?_
  have blank := blank_of_blankSeparated_nil none _ (List.getLast_mem present)
  rw [visible _ (List.getLast?_eq_some_getLast present)] at blank
  cases blank

/-- A text that ends visibly is its only piece behind blanks. -/
theorem exists_of_blankSeparated_singleton {text word : List Char}
    (visible : ∀ c ∈ text.getLast?, isBlank c = false) (split : blankSeparated text = [word]) :
    ∃ before, text = before ++ word ∧ ∀ c ∈ before, isBlank c = true := by
  obtain ⟨before, rest, rfl, blank, -, later⟩ := exists_of_blankSeparated_cons split
  have ends : ∀ c ∈ rest.getLast?, isBlank c = false :=
    fun c last => visible c (by simp [Option.mem_def.1 last])
  have empty : rest = [] := eq_nil_of_blankSeparated_nil ends later
  exact ⟨before, by rw [empty, List.append_nil], blank⟩

/-- Every character of a piece stands in the text. -/
theorem mem_of_mem_blankSeparated {text word : List Char} (listed : word ∈ blankSeparated text)
    {c : Char} (inside : c ∈ word) : c ∈ text := by
  generalize split : blankSeparated text = words at listed
  induction words generalizing text with
  | nil => cases listed
  | cons first words ih =>
    obtain ⟨before, rest, rfl, -, -, later⟩ := exists_of_blankSeparated_cons split
    rcases List.mem_cons.1 listed with rfl | behind
    · exact List.mem_append_right _ (List.mem_append_left _ inside)
    · exact List.mem_append_right _ (List.mem_append_right _ (ih later behind))

theorem join_cons_cons (separator word next : List Char) (words : List (List Char)) :
    join separator (word :: next :: words) = word ++ separator ++
      join separator (next :: words) := rfl

/-- **Words joined by spaces are the pieces between the blanks.** -/
theorem blankSeparated_join {words : List (List Char)} (each : ∀ word ∈ words, IsWord word) :
    blankSeparated (join [' '] words) = words := by
  induction words with
  | nil => rfl
  | cons word words ih =>
    have isWord := each word List.mem_cons_self
    have later := ih fun other listed => each other (.tail _ listed)
    cases words with
    | nil =>
      have ends : ∀ c ∈ ([] : List Char).head?, isBlank c = true := nofun
      have alone := blankSeparated_append isWord ends
      rwa [List.append_nil] at alone
    | cons next words =>
      have space : ∀ c ∈ ([' '] ++ join [' '] (next :: words)).head?, isBlank c = true := by
        rintro _ ⟨⟩
        rfl
      rw [join_cons_cons, List.append_assoc, blankSeparated_append isWord space,
        blankSeparated_append_of_blank (List.forall_mem_singleton.2 rfl), later]

/-- What is joined stands in a word or in the separator. -/
theorem mem_or_mem_of_mem_join {separator : List Char} {words : List (List Char)} {c : Char}
    (listed : c ∈ join separator words) : c ∈ separator ∨ ∃ word ∈ words, c ∈ word := by
  induction words with
  | nil => cases listed
  | cons word words ih =>
    cases words with
    | nil => exact .inr ⟨word, List.mem_cons_self, listed⟩
    | cons next words =>
      rw [join_cons_cons, List.mem_append, List.mem_append] at listed
      rcases listed with (here | between) | later
      · exact .inr ⟨word, List.mem_cons_self, here⟩
      · exact .inl between
      · exact (ih later).imp_right fun ⟨other, found, inside⟩ => ⟨other, .tail _ found, inside⟩

/-- Every word stands in the joined text. -/
theorem infix_join_of_mem {separator word : List Char} {words : List (List Char)}
    (listed : word ∈ words) :
    word <:+: join separator words := by
  induction words with
  | nil => cases listed
  | cons first words ih =>
    cases words with
    | nil => exact List.mem_singleton.1 listed ▸ List.infix_rfl
    | cons next words =>
      rw [join_cons_cons]
      rcases List.mem_cons.1 listed with rfl | later
      · exact ((List.prefix_append word separator).trans (List.prefix_append _ _)).isInfix
      · exact (ih later).trans (List.suffix_append _ _).isInfix

/-- Every character of a word is joined. -/
theorem mem_join_of_mem {separator word : List Char} {words : List (List Char)} {c : Char}
    (listed : word ∈ words) (inside : c ∈ word) : c ∈ join separator words :=
  (infix_join_of_mem listed).subset inside

/-- The first character of joined words is that of the first word. -/
theorem head?_join {separator word : List Char} (present : word ≠ []) (words : List (List Char)) :
    (join separator (word :: words)).head? = word.head? := by
  cases words with
  | nil => rfl
  | cons next words =>
    obtain ⟨c, more, rfl⟩ := List.exists_cons_of_ne_nil present
    rfl

/-- The last character of joined words is visible. -/
theorem visible_getLast?_join {words : List (List Char)} (each : ∀ word ∈ words, IsWord word) :
    ∀ c ∈ (join [' '] words).getLast?, isBlank c = false := by
  induction words with
  | nil => nofun
  | cons word words ih =>
    obtain ⟨present, visible⟩ := each word List.mem_cons_self
    cases words with
    | nil => exact fun c last => visible c (List.mem_of_mem_getLast? last)
    | cons next words =>
      have later : ∀ other ∈ next :: words, IsWord other :=
        fun other listed => each other (.tail _ listed)
      have nonempty : join [' '] (next :: words) ≠ [] := fun empty => by
        have first : (join [' '] (next :: words)).head? = next.head? :=
          head?_join (later next List.mem_cons_self).1 words
        rw [empty] at first
        exact (later next List.mem_cons_self).1 (List.head?_eq_none_iff.1 first.symm)
      rw [join_cons_cons, List.getLast?_append,
        Option.or_of_isSome (List.getLast?_isSome.2 nonempty)]
      exact ih later

end CatalogSchema.Text
