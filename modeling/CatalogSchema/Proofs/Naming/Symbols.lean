/-
**Labels made of symbols.**

A label without letters, digits and blanks is spelled out, symbol by symbol. The names of two
symbols can share an underscore, but no name with an underscore after it begins another
(`symbolName_append_inj`): a spelling is read from the left in one way only. A spelling is shouted
already, so the usual naming leaves it. Hence labels of symbols never clash.

* `hexValue_upperHex`: a number is read back from its hexadecimal digits.
* `symbolName_append_inj`: the first symbol of a spelling, and what follows it.
* `escapeLabel_symbols_injective`: different labels of symbols have different spellings.
* `shoutyMember_escapeLabel`: the usual naming leaves a spelling.
-/

import CatalogSchema.Proofs.Naming.Members
import CatalogSchema.Proofs.Resolution.Resolves
import CatalogSchema.Proofs.Text.Words
import Mathlib.Data.List.Nodup

namespace CatalogSchema

open Text Resolve

/-! ### Numbers in hexadecimal digits -/

/-- The hexadecimal digits, by their value. -/
def upperHexDigits : List Char := "0123456789ABCDEF".toList

/-- The number that a row of hexadecimal digits writes. -/
def hexValue (digits : List Char) : Nat :=
  digits.foldl (fun value digit => 16 * value + upperHexDigits.idxOf digit) 0

theorem hexValue_concat (digits : List Char) (digit : Char) :
    hexValue (digits ++ [digit]) = 16 * hexValue digits + upperHexDigits.idxOf digit :=
  List.foldl_append

/-- Zeros in front do not count. -/
theorem hexValue_zeros_append (zeros : Nat) (digits : List Char) :
    hexValue (List.replicate zeros '0' ++ digits) = hexValue digits := by
  induction zeros with
  | zero => rfl
  | succ zeros ih => exact ih

theorem upperDigit_cases : ∀ digit : Fin 16, (Nat.digitChar digit).toUpper ∈ upperHexDigits ∧
    upperHexDigits.idxOf (Nat.digitChar digit).toUpper = digit := by
  decide +kernel

/-- The digits of a number, each below 16. -/
theorem exists_digit_of_mem_toDigits {value : Nat} {c : Char} (listed : c ∈ Nat.toDigits 16 value) :
    ∃ digit : Fin 16, c = Nat.digitChar digit := by
  induction value using Nat.strongRecOn with
  | ind value ih =>
    by_cases single : value < 16
    · rw [Nat.toDigits_of_lt_base single] at listed
      exact ⟨⟨value, single⟩, List.mem_singleton.1 listed⟩
    · rw [Nat.toDigits_of_base_le (by omega) (by omega), List.mem_append] at listed
      rcases listed with early | last
      · exact ih (value / 16) (by omega) early
      · exact ⟨⟨value % 16, by omega⟩, List.mem_singleton.1 last⟩

theorem hexValue_toDigits (value : Nat) :
    hexValue ((Nat.toDigits 16 value).map Char.toUpper) = value := by
  induction value using Nat.strongRecOn with
  | ind value ih =>
    by_cases single : value < 16
    · rw [Nat.toDigits_of_lt_base single]
      exact (Nat.zero_add _).trans (upperDigit_cases ⟨value, single⟩).2
    · rw [Nat.toDigits_of_base_le (by omega) (by omega), List.map_append, List.map_singleton,
        hexValue_concat, ih (value / 16) (by omega), (upperDigit_cases ⟨value % 16, by omega⟩).2]
      exact Nat.div_add_mod value 16

/-- **A number is read back from its hexadecimal digits.** -/
theorem hexValue_upperHex (value : Nat) : hexValue (upperHex value) = value :=
  (hexValue_zeros_append _ _).trans (hexValue_toDigits value)

theorem mem_upperHex {value : Nat} {c : Char} (listed : c ∈ upperHex value) :
    c ∈ upperHexDigits := by
  rcases List.mem_append.1 listed with zero | written
  · rw [List.eq_of_mem_replicate zero]
    decide +kernel
  · obtain ⟨lower, found, rfl⟩ := List.mem_map.1 written
    obtain ⟨digit, rfl⟩ := exists_digit_of_mem_toDigits found
    exact (upperDigit_cases digit).1

/-- There are four digits at least. -/
theorem exists_upperHex (value : Nat) : ∃ digit rest, upperHex value = digit :: rest := by
  refine List.exists_cons_of_ne_nil fun empty => ?_
  obtain ⟨-, digits⟩ := List.append_eq_nil_iff.1 empty
  exact Nat.toDigits_ne_nil (List.map_eq_nil_iff.1 digits)

/-! ### The names of symbols -/

/-- The names of the table are shouted and start with a letter. -/
theorem symbolNames_shouted : ∀ entry ∈ symbolNames, Shouted entry.2.toList ∧
    entry.2.toList.head?.any Char.isUpper = true := by
  decide +kernel

/-- No name of the table, with an underscore after it, begins another. -/
theorem symbolNames_prefixFree : ∀ first ∈ symbolNames, ∀ second ∈ symbolNames,
    first.2.toList ++ ['_'] <+: second.2.toList ++ ['_'] → first.1 = second.1 ∧
      first.2 = second.2 := by
  decide +kernel

/-- No name of the table begins like a number. -/
theorem symbolNames_not_numbered {entry : Char × String} (listed : entry ∈ symbolNames)
    {digit : Char} (hexadecimal : digit ∈ upperHexDigits) :
    ¬ ['U', digit] <+: entry.2.toList ++ ['_'] := by
  have table : (symbolNames.all fun entry => upperHexDigits.all fun digit =>
      !(['U', digit].isPrefixOf (entry.2.toList ++ ['_']))) = true := by
    decide +kernel
  have checked := List.all_eq_true.1 (List.all_eq_true.1 table entry listed) digit hexadecimal
  rwa [Bool.not_eq_true', ← Bool.not_eq_true, List.isPrefixOf_iff_prefix] at checked

theorem isCapital_of_mem_upperHexDigits {digit : Char} (listed : digit ∈ upperHexDigits) :
    isCapital digit = true :=
  List.all_eq_true.1 (by decide +kernel : upperHexDigits.all isCapital = true) digit listed

/-- An underscore is no hexadecimal digit. -/
theorem ne_underscore_of_mem_upperHexDigits {digit : Char}
    (listed : digit ∈ upperHexDigits) : digit ≠ '_' := by
  rintro rfl
  cases isCapital_of_mem_upperHexDigits listed

/-- The name of a symbol is in the table, or it is its number. -/
theorem symbolName_cases (c : Char) :
    (∃ name, (c, name) ∈ symbolNames ∧ symbolName c = name.toList) ∨
      symbolName c = 'U' :: upperHex c.toNat := by
  unfold symbolName
  cases found : symbolNames.lookup c with
  | none => exact .inr rfl
  | some name =>
    obtain ⟨before, after, table, -⟩ := List.lookup_eq_some_iff.1 found
    exact .inl ⟨name, by rw [table]; simp, rfl⟩

/-- The name of a symbol is shouted. -/
theorem shouted_symbolName (c : Char) : Shouted (symbolName c) := by
  rcases symbolName_cases c with ⟨name, listed, named⟩ | numbered
  · rw [named]
    exact (symbolNames_shouted _ listed).1
  · rw [numbered]
    refine IsShout.shouted
      ⟨List.cons_ne_nil _ _, List.forall_mem_cons.2 ⟨rfl, fun digit found => ?_⟩⟩
    exact isCapital_of_mem_upperHexDigits (mem_upperHex found)

/-- The name of a symbol starts with a letter. -/
theorem exists_symbolName (c : Char) :
    ∃ first rest, symbolName c = first :: rest ∧ first.isUpper = true := by
  rcases symbolName_cases c with ⟨name, listed, named⟩ | numbered
  · have letter := (symbolNames_shouted _ listed).2
    rw [named]
    cases spelled : name.toList with
    | nil =>
      rw [spelled] at letter
      cases letter
    | cons first rest =>
      rw [spelled] at letter
      exact ⟨first, rest, rfl, letter⟩
  · exact ⟨'U', _, numbered, rfl⟩

/-- A name of the table is no number of a symbol, whatever follows it. -/
theorem listed_ne_numbered {c : Char} {name : String} (listed : (c, name) ∈ symbolNames)
    (value : Nat) (x y : List Char) :
    name.toList ++ '_' :: x ≠ 'U' :: upperHex value ++ '_' :: y := by
  intro same
  -- A number shows after `U` and one digit, so it is enough to look at the start of the name.
  obtain ⟨digit, rest, digits⟩ := exists_upperHex value
  have hexadecimal : digit ∈ upperHexDigits := mem_upperHex (digits ▸ List.mem_cons_self)
  obtain ⟨first, more, spelled, -⟩ := (symbolNames_shouted _ listed).1.exists_cons
  have whole : name.toList ++ ['_'] <+: name.toList ++ '_' :: x := ⟨x, by simp⟩
  have start : ['U', digit] <+: name.toList ++ '_' :: x :=
    ⟨rest ++ '_' :: y, by rw [same, digits]; simp⟩
  refine symbolNames_not_numbered listed hexadecimal
    (List.prefix_of_prefix_length_le start whole ?_)
  simp [spelled]

/-- **The first symbol of a spelling, and what follows it**, are determined by the spelling. -/
theorem symbolName_append_inj {a b : Char} {x y : List Char}
    (same : symbolName a ++ '_' :: x = symbolName b ++ '_' :: y) : a = b ∧ x = y := by
  rcases symbolName_cases a with ⟨first, listed, named⟩ | numbered <;>
    rcases symbolName_cases b with ⟨second, listed', named'⟩ | numbered'
  · rw [named, named'] at same
    have begins : first.toList ++ ['_'] <+: first.toList ++ '_' :: x := ⟨x, by simp⟩
    have begins' : second.toList ++ ['_'] <+: first.toList ++ '_' :: x := ⟨y, by rw [same]; simp⟩
    have equal : a = b ∧ first = second := by
      rcases List.prefix_or_prefix_of_prefix begins begins' with shorter | longer
      · exact symbolNames_prefixFree _ listed _ listed' shorter
      · exact (symbolNames_prefixFree _ listed' _ listed longer).imp Eq.symm Eq.symm
    rw [equal.2] at same
    exact ⟨equal.1, (List.cons.inj (List.append_cancel_left same)).2⟩
  · rw [named, numbered'] at same
    exact absurd same (listed_ne_numbered listed _ _ _)
  · rw [numbered, named'] at same
    exact absurd same.symm (listed_ne_numbered listed' _ _ _)
  · -- Digits have no underscore, so the first piece is the number.
    rw [numbered, numbered', List.cons_append, List.cons_append] at same
    have numbers := (List.cons.inj same).2
    have bare (value : Nat) : ∀ c ∈ upperHex value, decide (c = '_') = false := fun c found =>
      decide_eq_false (ne_underscore_of_mem_upperHexDigits (mem_upperHex found))
    have pieces := congrArg (splitAt fun c => decide (c = '_')) numbers
    rw [splitAt_append_cons (bare _) rfl, splitAt_append_cons (bare _) rfl] at pieces
    have digits : upperHex a.toNat = upperHex b.toNat := (List.cons.inj pieces).1
    have values : a.toNat = b.toNat := by
      rw [← hexValue_upperHex a.toNat, digits, hexValue_upperHex]
    rw [digits] at numbers
    exact ⟨Char.toNat_inj.1 values, (List.cons.inj (List.append_cancel_left numbers)).2⟩

/-! ### Labels of symbols -/

/-- A label without letters, digits and blanks. -/
def SymbolLabel (label : List Char) : Prop :=
  ∀ c ∈ label, isAlphanumeric c = false ∧ isBlank c = false

instance (label : List Char) : Decidable (SymbolLabel label) :=
  decidable_of_iff (label.all (fun c => !isAlphanumeric c && !isBlank c) = true)
    (by simp [SymbolLabel])

variable {label other : List Char}

/-- A label of symbols is the row of their names. -/
theorem escapeLabel_of_symbols (symbols : SymbolLabel label) (present : label ≠ []) :
    escapeLabel label = join ['_'] (label.map symbolName) := by
  have noLetter : label.any isAlphanumeric = false :=
    List.any_eq_false.2 fun c listed => by simp [(symbols c listed).1]
  have words : label.map symbolWord = label.map symbolName := List.map_congr_left fun c listed => by
    rw [symbolWord, (symbols c listed).2, if_neg Bool.false_ne_true]
  unfold escapeLabel
  rw [if_neg (by simpa using present), noLetter, if_neg Bool.false_ne_true, words]

/-- Names with an underscore between each two are names with an underscore after each. -/
theorem join_symbolName (present : label ≠ []) : join ['_'] (label.map symbolName) ++ ['_'] =
    label.flatMap fun c => symbolName c ++ ['_'] := by
  induction label with
  | nil => exact absurd rfl present
  | cons c label ih =>
    cases label with
    | nil => simp [join]
    | cons next label =>
      rw [List.map_cons, List.map_cons, join_cons_cons, List.flatMap_cons,
        ← ih (List.cons_ne_nil _ _), List.map_cons, List.append_assoc]

/-- **A spelling is read in one way**: symbol by symbol, from the left. -/
theorem eq_of_flatMap_symbolName (same : (label.flatMap fun c => symbolName c ++ ['_']) =
    other.flatMap fun c => symbolName c ++ ['_']) : label = other := by
  induction label generalizing other with
  | nil =>
    cases other with
    | nil => rfl
    | cons d other => simp at same
  | cons c label ih =>
    cases other with
    | nil => simp at same
    | cons d other =>
      rw [List.flatMap_cons, List.flatMap_cons, List.append_assoc, List.append_assoc] at same
      obtain ⟨first, rest⟩ := symbolName_append_inj same
      rw [first, ih rest]

/-- The spelling of a label of symbols starts with a letter. -/
theorem exists_escapeLabel (symbols : SymbolLabel label) (present : label ≠ []) :
    ∃ first rest, escapeLabel label = first :: rest ∧ first.isUpper = true := by
  obtain ⟨c, label, rfl⟩ := List.exists_cons_of_ne_nil present
  obtain ⟨first, rest, named, letter⟩ := exists_symbolName c
  have start : (escapeLabel (c :: label)).head? = some first := by
    rw [escapeLabel_of_symbols symbols present, List.map_cons, head?_join (by simp [named]), named,
      List.head?_cons]
  obtain ⟨more, spelled⟩ := List.head?_eq_some_iff.1 start
  exact ⟨first, more, spelled, letter⟩

/-- The empty label has a name that no label of symbols has. -/
theorem escapeLabel_ne_empty (symbols : SymbolLabel label) (present : label ≠ []) :
    escapeLabel label ≠ escapeLabel [] := by
  intro same
  obtain ⟨first, rest, spelled, letter⟩ := exists_escapeLabel symbols present
  have underscore : first = '_' := (List.cons.inj (spelled.symm.trans same)).1
  rw [underscore] at letter
  cases letter

/-- **Different labels of symbols have different spellings**, the empty one among them. -/
theorem escapeLabel_symbols_injective (symbols : SymbolLabel label) (symbols' : SymbolLabel other)
    (same : escapeLabel label = escapeLabel other) : label = other := by
  by_cases empty : label = []
  · by_cases empty' : other = []
    · rw [empty, empty']
    · rw [empty] at same
      exact absurd same.symm (escapeLabel_ne_empty symbols' empty')
  · by_cases empty' : other = []
    · rw [empty'] at same
      exact absurd same (escapeLabel_ne_empty symbols empty)
    · refine eq_of_flatMap_symbolName ?_
      rw [← join_symbolName empty, ← join_symbolName empty', ← escapeLabel_of_symbols symbols empty,
        ← escapeLabel_of_symbols symbols' empty', same]

/-! ### Their member names -/

/-- A text without the underscores at its edges. -/
def memberCore (text : List Char) : List Char :=
  trimEnd (fun c => decide (c = '_')) (trimStart (fun c => decide (c = '_')) text)

/-- The usual naming shouts a text between the underscores at its edges. -/
theorem shoutyMember_eq (text : List Char) : shoutyMember text =
    if (memberCore text).isEmpty then text
    else text.takeWhile (fun c => decide (c = '_')) ++ shoutySnake (memberCore text) ++
      text.reverse.takeWhile fun c => decide (c = '_') := rfl

/-- Without underscores at its edges, a text is shouted. -/
theorem shoutyMember_of_edges {text before after : List Char} {first last : Char}
    (starts : text = first :: after) (noFirst : first ≠ '_') (ends : text = before ++ [last])
    (noLast : last ≠ '_') : shoutyMember text = shoutySnake text := by
  have reversed : text.reverse = last :: before.reverse := by
    rw [ends, List.reverse_append]
    rfl
  have noStart : text.takeWhile (fun c => decide (c = '_')) = [] := by
    rw [starts, List.takeWhile_cons_of_neg (by simpa using noFirst)]
  have noEnd : text.reverse.takeWhile (fun c => decide (c = '_')) = [] := by
    rw [reversed, List.takeWhile_cons_of_neg (by simpa using noLast)]
  have trimmedStart : trimStart (fun c => decide (c = '_')) text = text := by
    rw [trimStart, starts, List.dropWhile_cons_of_neg (by simpa using noFirst)]
  have whole : memberCore text = text := by
    rw [memberCore, trimmedStart, trimEnd, reversed,
      List.dropWhile_cons_of_neg (by simpa using noLast), ← reversed, List.reverse_reverse]
  rw [shoutyMember_eq, whole, noStart, noEnd, if_neg (by simp [starts]), List.nil_append,
    List.append_nil]

/-- A shouted text is a member name. -/
theorem Text.Shouted.shoutyMember {text : List Char} (shouted : Shouted text) :
    shoutyMember text = text := by
  obtain ⟨first, after, starts, noFirst⟩ := shouted.exists_cons
  obtain ⟨before, last, ends, noLast⟩ := shouted.exists_concat
  rw [shoutyMember_of_edges starts noFirst ends noLast, shouted.shoutySnake]

/-- **The usual naming leaves the spelling of a label of symbols.** -/
theorem shoutyMember_escapeLabel (symbols : SymbolLabel label) :
    shoutyMember (escapeLabel label) = escapeLabel label := by
  by_cases empty : label = []
  · rw [empty]
    decide +kernel
  · rw [escapeLabel_of_symbols symbols empty]
    refine (Shouted.join (by simpa using empty) fun text listed => ?_).shoutyMember
    obtain ⟨c, -, rfl⟩ := List.mem_map.1 listed
    exact shouted_symbolName c

variable {naming : Naming}

/-- The member name of a label of symbols is its spelling. -/
theorem memberNameOf_symbols (usual : naming.memberName = shoutyMember) {label : String}
    (symbols : SymbolLabel label.toList) :
    memberNameOf naming label = String.ofList (escapeLabel label.toList) := by
  have noDigit : (escapeLabel label.toList).head?.any Char.isDigit = false := by
    by_cases empty : label.toList = []
    · rw [empty]
      rfl
    · obtain ⟨first, rest, spelled, letter⟩ := exists_escapeLabel symbols empty
      rw [spelled]
      exact isDigit_of_isUpper letter
  refine String.toList_injective ?_
  rw [toList_memberNameOf, casedSpelling, usual, shoutyMember_escapeLabel symbols, noDigit,
    if_neg Bool.false_ne_true, String.toList_ofList]

/-- Different labels of symbols have different member names. -/
theorem distinctNames_of_symbols (usual : naming.memberName = shoutyMember) {labels : List String}
    (symbols : ∀ label ∈ labels, SymbolLabel label.toList) (distinct : labels.Nodup) :
    DistinctNames naming labels := by
  refine List.Nodup.map_on (fun label listed other listed' same => ?_) distinct
  rw [memberNameOf_symbols usual (symbols label listed),
    memberNameOf_symbols usual (symbols other listed')] at same
  exact String.toList_injective (escapeLabel_symbols_injective (symbols label listed)
    (symbols other listed') (String.ofList_injective same))

/-! ### Enumerations of them -/

/-- **An enumeration whose labels have distinct names is always resolved**, whatever is settled
already. One that is new, without an override, gets a member for each label. -/
theorem runOn_entry_of_distinct {setting : Setting} {id : TypeId} {descriptor : Descriptor}
    (known : setting.catalog.find? id = some descriptor) (kind : descriptor.kind = .enumeration)
    (levels : 0 < setting.config.depthLimit)
    (distinct : DistinctNames setting.naming (descriptor.labels.getD [])) (registry : Registry) :
    (∃ entry, (runOn (Resolve.entry setting id) registry).1 = .ok entry) ∧
      (registry.types.find? id = none → registry.overrides.find? id = none → ∃ serial,
        (runOn (Resolve.entry setting id) registry).1 =
          .ok (.both (.enumeration serial (setting.naming.typeName descriptor)
            descriptor.description
            ((descriptor.labels.getD []).map (memberOf setting.naming))))) := by
  obtain ⟨remaining, limit⟩ := Nat.exists_eq_add_one_of_ne_zero (Nat.ne_of_gt levels)
  rw [Resolve.entry, limit, runOn_resolveAt_succ, Catalog.require_eq_ok known]
  have made : ∃ serial after, runOn (standalone setting descriptor) registry =
      (.ok (.both (.enumeration serial (setting.naming.typeName descriptor) descriptor.description
        ((descriptor.labels.getD []).map (memberOf setting.naming))), none), after) := by
    rcases runOn_standalone setting descriptor registry with
      ⟨entry, codec, after, ran, stands, -⟩ | ⟨error, -, collide, -⟩
    · cases stands with
      | enumeration serial kind named =>
        rw [enumMembers_of_distinct distinct, Except.ok.injEq] at named
        subst named
        exact ⟨serial, after, ran⟩
      | scalar _ other => exact absurd kind other
    · cases collide.symm.trans (enumMembers_of_distinct distinct)
  obtain ⟨serial, after, ran⟩ := made
  cases registry.types.find? id with
  | some entry => exact ⟨⟨entry, rfl⟩, nofun⟩
  | none =>
    dsimp only
    rw [runOn_synthesize, Descriptor.builtOver_enumeration kind]
    cases registry.overrides.find? id with
    | some mapping => exact ⟨⟨⟨mapping.output, mapping.input⟩, rfl⟩, fun _ => nofun⟩
    | none =>
      dsimp only
      rw [ran]
      exact ⟨⟨_, rfl⟩, fun _ _ => ⟨serial, rfl⟩⟩

/-- **Labels of symbols never clash.** Under the usual naming, different ones have different
spellings, which stay as they are, and an enumeration of different ones is always resolved: its
members are named by the spellings, in the order of the labels. A depth limit of zero is refused
before there is a setting. -/
theorem symbol_labels_resolve (setting : Setting)
    (usual : setting.naming.memberName = shoutyMember) :
    (∀ label other, SymbolLabel label → SymbolLabel other → escapeLabel label = escapeLabel other →
      label = other) ∧
    (∀ label, SymbolLabel label →
      setting.naming.memberName (escapeLabel label) = escapeLabel label) ∧
    ∀ id descriptor, setting.catalog.find? id = some descriptor → descriptor.kind = .enumeration →
      0 < setting.config.depthLimit →
        (∀ label ∈ descriptor.labels.getD [], SymbolLabel label.toList) →
      (descriptor.labels.getD []).Nodup → ∀ registry,
        (∃ entry, (runOn (Resolve.entry setting id) registry).1 = .ok entry) ∧
        (registry.types.find? id = none → registry.overrides.find? id = none → ∃ serial,
          (runOn (Resolve.entry setting id) registry).1 =
            .ok (.both (.enumeration serial (setting.naming.typeName descriptor)
              descriptor.description ((descriptor.labels.getD []).map fun label =>
                ⟨String.ofList (escapeLabel label.toList), label⟩)))) := by
  refine ⟨fun _ _ symbols symbols' same => escapeLabel_symbols_injective symbols symbols' same,
    fun label symbols => by rw [usual, shoutyMember_escapeLabel symbols],
    fun id descriptor known kind levels symbols distinct registry => ?_⟩
  have spelled : ((descriptor.labels.getD []).map fun label =>
      (⟨String.ofList (escapeLabel label.toList), label⟩ : EnumMember)) =
        (descriptor.labels.getD []).map (memberOf setting.naming) :=
    List.map_congr_left fun label listed => by
      rw [memberOf, memberNameOf_symbols usual (symbols label listed)]
  rw [spelled]
  exact runOn_entry_of_distinct known kind levels (distinctNames_of_symbols usual symbols distinct)
    registry

/-- Labels whose names share underscores, the empty label among them. -/
def operatorLabels : List String := ["<", "<=", "=", "", "_", "__", "€"]

/-- An enumeration of them. -/
def operatorSetting : Setting where
  catalog := ⟨.ofList [(70,
    { Descriptor.plain 70 "app" "operator" .enumeration Category.enumeration with
    labels := some operatorLabels })]⟩
  naming := .qualified
  config := .default
  scalars := .make false

/-- It is resolved, though the names of two of its labels begin alike. -/
theorem symbol_labels_resolve_operators :
    operatorSetting.naming.memberName = shoutyMember ∧
      ∃ serial, (runOn (Resolve.entry operatorSetting 70) .initial).1 =
        .ok (.both (.enumeration serial "app_operator" none
          [⟨"LESS_THAN", "<"⟩, ⟨"LESS_THAN_EQUALS", "<="⟩, ⟨"EQUALS", "="⟩, ⟨"_EMPTY_", ""⟩,
            ⟨"UNDERSCORE", "_"⟩, ⟨"UNDERSCORE_UNDERSCORE", "__"⟩, ⟨"U20AC", "€"⟩])) := by
  have members : [⟨"LESS_THAN", "<"⟩, ⟨"LESS_THAN_EQUALS", "<="⟩, ⟨"EQUALS", "="⟩, ⟨"_EMPTY_", ""⟩,
      ⟨"UNDERSCORE", "_"⟩, ⟨"UNDERSCORE_UNDERSCORE", "__"⟩, ⟨"U20AC", "€"⟩] =
        operatorLabels.map fun label =>
          (⟨String.ofList (escapeLabel label.toList), label⟩ : EnumMember) := by
    decide +kernel
  have symbols : ∀ label ∈ operatorLabels, SymbolLabel label.toList := by decide +kernel
  obtain ⟨-, -, resolved⟩ := symbol_labels_resolve operatorSetting rfl
  rw [members]
  exact ⟨rfl, (resolved 70 _ rfl rfl (by decide) symbols (by decide +kernel) .initial).2 rfl rfl⟩

end CatalogSchema
