/-
**Names that a schema admits.**

A name is letters, digits and underscores of ASCII, and starts with no digit. Spelling a label out
leaves nothing else in it, as long as its own letters and digits are of ASCII; the usual naming
changes the case and moves underscores; and a digit in front gets an underscore before it.

* `spelled_escapeLabel`: the spelling of a label is characters of names, one at least.
* `Spelled.shoutyMember`: the usual naming keeps it so.
* `isName_memberNameOf`: the member name of a label is a name.
-/

import CatalogSchema.Proofs.Naming.Symbols
import Mathlib.Data.List.TakeWhile

namespace CatalogSchema

open Text

/-- A character that may stand in a name. -/
def IsNameChar (c : Char) : Prop := c = '_' ∨ c.isAlphanum = true

instance : DecidablePred IsNameChar := fun _ => inferInstanceAs (Decidable (_ ∨ _))

/-- **A name of the schema** matches `[_A-Za-z][_0-9A-Za-z]*`. -/
def IsName : List Char → Prop
  | [] => False
  | first :: rest => (first = '_' ∨ first.isAlpha = true) ∧ ∀ c ∈ rest, IsNameChar c

/-- Characters of names, one at least; the first can be a digit. -/
def Spelled (text : List Char) : Prop := text ≠ [] ∧ ∀ c ∈ text, IsNameChar c

instance (text : List Char) : Decidable (Spelled text) :=
  decidable_of_iff (text ≠ [] ∧ text.all (fun c => decide (IsNameChar c)) = true)
    (by simp [Spelled])

/-- The letters and digits of a label are of ASCII; its symbols and blanks can be any. -/
def AsciiLetters (label : List Char) : Prop := ∀ c ∈ label, isAlphanumeric c = true → c.toNat < 128

variable {label text : List Char}

/-! ### The spelling of a label -/

theorem isNameChar_of_ascii {c : Char} (ascii : c.toNat < 128)
    (alphanumeric : isAlphanumeric c = true) :
    IsNameChar c := by
  rw [isAlphanumeric_ascii ascii] at alphanumeric
  exact .inr alphanumeric

theorem Text.Shouted.spelled (shouted : Shouted text) : Spelled text := by
  obtain ⟨first, rest, starts, -⟩ := shouted.exists_cons
  exact ⟨by simp [starts], fun c listed => (shouted.mem listed).imp_right isAlphanum_of_isCapital⟩

theorem spelled_escapeLabelChar {c : Char} (ascii : isAlphanumeric c = true → c.toNat < 128) :
    Spelled (escapeLabelChar c) := by
  unfold escapeLabelChar
  split
  · rename_i kept
    refine ⟨List.cons_ne_nil _ _, fun other listed => ?_⟩
    rw [List.mem_singleton.1 listed]
    rcases (Bool.or_eq_true _ _).mp kept with alphanumeric | underscore
    · exact isNameChar_of_ascii (ascii alphanumeric) alphanumeric
    · exact .inl (of_decide_eq_true underscore)
  · split
    · exact ⟨List.cons_ne_nil _ _, fun other listed => .inl (List.mem_singleton.1 listed)⟩
    · refine ⟨List.cons_ne_nil _ _, fun other listed => ?_⟩
      rcases List.mem_append.1 listed with early | last
      · rcases List.mem_cons.1 early with first | inside
        · exact .inl first
        · exact (shouted_symbolName c).spelled.2 other inside
      · exact .inl (List.mem_singleton.1 last)

theorem shouted_symbolWord (c : Char) : Shouted (symbolWord c) := by
  unfold symbolWord
  split
  · decide +kernel
  · exact shouted_symbolName c

/-- **The spelling of a label is characters of names**, one at least. -/
theorem spelled_escapeLabel (ascii : AsciiLetters label) : Spelled (escapeLabel label) := by
  unfold escapeLabel
  split
  · decide +kernel
  · rename_i present
    split
    · obtain ⟨c, rest, rfl⟩ :=
        List.exists_cons_of_ne_nil (fun empty => present (by simp [empty]) : label ≠ [])
      have each (d : Char) (listed : d ∈ c :: rest) : Spelled (escapeLabelChar d) :=
        spelled_escapeLabelChar (ascii d listed)
      refine ⟨fun empty => (each c List.mem_cons_self).1 (List.append_eq_nil_iff.1 empty).1,
        fun d listed => ?_⟩
      obtain ⟨source, found, spelled⟩ := List.mem_flatMap.1 listed
      exact (each source found).2 d spelled
    · refine (Shouted.join (by simpa using present) fun word listed => ?_).spelled
      obtain ⟨c, -, rfl⟩ := List.mem_map.1 listed
      exact shouted_symbolWord c

/-! ### The usual naming -/

theorem isNameChar_toUpper {c : Char} (alphanumeric : c.isAlphanum = true) : IsNameChar c.toUpper :=
  forall_ascii (P := fun c => c.isAlphanum = true → IsNameChar c.toUpper) (by decide +kernel)
    (ascii_of_isAlphanum alphanumeric) alphanumeric

/-- A character of a name that is a letter or digit of any script is one of ASCII. -/
theorem IsNameChar.isAlphanum {c : Char} (admitted : IsNameChar c)
    (alphanumeric : isAlphanumeric c = true) :
    c.isAlphanum = true := by
  rcases admitted with rfl | ascii
  · cases alphanumeric
  · exact ascii

theorem filter_memberCore (text : List Char) :
    (memberCore text).filter isAlphanumeric = text.filter isAlphanumeric := by
  refine filter_trimEnd_trimStart (fun c alphanumeric => decide_eq_false ?_) text
  rintro rfl
  cases alphanumeric

/-- What is left without the underscores at the edges has a letter or a digit. -/
theorem exists_mem_memberCore (admitted : ∀ c ∈ text, IsNameChar c) (left : memberCore text ≠ []) :
    ∃ source, source ∈ (memberCore text).filter isAlphanumeric := by
  refine List.exists_mem_of_ne_nil _ fun noLetter => left ?_
  rw [filter_memberCore, List.filter_eq_nil_iff] at noLetter
  -- Without letters and digits there are underscores alone, and nothing is left of them.
  have underscores : ∀ c ∈ text, decide (c = '_') = true := fun c listed => by
    refine decide_eq_true ((admitted c listed).resolve_right fun ascii => noLetter c listed ?_)
    rwa [isAlphanumeric_ascii (ascii_of_isAlphanum ascii)]
  rw [memberCore, trimStart, List.dropWhile_eq_nil_iff.2 underscores]
  rfl

/-- The letters and digits of a text of characters of names are of ASCII. -/
theorem isAlphanum_of_mem_memberCore (admitted : ∀ c ∈ text, IsNameChar c) {source : Char}
    (listed : source ∈ (memberCore text).filter isAlphanumeric) : source.isAlphanum = true := by
  rw [filter_memberCore, List.mem_filter] at listed
  exact (admitted source listed.1).isAlphanum listed.2

/-- A text of characters of names, with more than underscores, is shouted in characters of names. -/
theorem spelled_shoutySnake_memberCore (admitted : ∀ c ∈ text, IsNameChar c)
    (left : memberCore text ≠ []) :
    Spelled (shoutySnake (memberCore text)) := by
  have upper {source : Char} (listed : source ∈ (memberCore text).filter isAlphanumeric) :
      upperChar source = [source.toUpper] :=
    upperChar_ascii (ascii_of_isAlphanum (isAlphanum_of_mem_memberCore admitted listed))
  constructor
  · obtain ⟨source, listed⟩ := exists_mem_memberCore admitted left
    exact List.ne_nil_of_mem
      (mem_shoutySnake_of_mem listed (by rw [upper listed]; exact List.mem_cons_self))
  · intro c shouted
    rcases eq_or_mem_of_mem_shoutySnake shouted with underscore | ⟨source, listed, raised⟩
    · exact .inl underscore
    · rw [upper listed, List.mem_singleton] at raised
      rw [raised]
      exact isNameChar_toUpper (isAlphanum_of_mem_memberCore admitted listed)

/-- **The usual naming keeps a text spelled in characters of names.** -/
theorem Spelled.shoutyMember (spelled : Spelled text) : Spelled (shoutyMember text) := by
  rw [shoutyMember_eq]
  split
  · exact spelled
  · rename_i left
    obtain ⟨present, shouted⟩ :=
      spelled_shoutySnake_memberCore spelled.2 fun empty => left (List.isEmpty_iff.2 empty)
    have edge (side : List Char) : ∀ c ∈ side.takeWhile fun c => decide (c = '_'), IsNameChar c :=
      fun c kept => .inl (of_decide_eq_true (List.all_eq_true.1 List.all_takeWhile c kept))
    constructor
    · intro empty
      obtain ⟨front, -⟩ := List.append_eq_nil_iff.1 empty
      exact present (List.append_eq_nil_iff.1 front).2
    · exact List.forall_mem_append.2
        ⟨List.forall_mem_append.2 ⟨edge text, shouted⟩, edge text.reverse⟩

/-! ### Names -/

/-- With an underscore before a digit in front, a text of characters of names is a name. -/
theorem Spelled.isName (spelled : Spelled text) :
    IsName (if text.head?.any Char.isDigit then '_' :: text else text) := by
  obtain ⟨present, admitted⟩ := spelled
  obtain ⟨first, rest, rfl⟩ := List.exists_cons_of_ne_nil present
  obtain ⟨start, others⟩ := List.forall_mem_cons.1 admitted
  split
  · exact ⟨.inl rfl, admitted⟩
  · rename_i noDigit
    refine ⟨start.imp_right fun ascii => ?_, others⟩
    exact isAlpha_iff.2 ((isAlphanum_iff.1 ascii).resolve_right noDigit)

variable {naming : Naming}

/-- **The member name of a label is a name**, when the letters and digits of the label are of
ASCII. -/
theorem isName_memberNameOf (usual : naming.memberName = shoutyMember) {label : String}
    (ascii : AsciiLetters label.toList) : IsName (memberNameOf naming label).toList := by
  rw [toList_memberNameOf, casedSpelling, usual]
  exact (spelled_escapeLabel ascii).shoutyMember.isName

/-- **Labels of ASCII make names.** Under the usual naming, whatever the label, be it empty, blank,
or of symbols alone, and so do the members of an enumeration with other labels beside them. -/
theorem ascii_labels_make_names (naming : Naming) (usual : naming.memberName = shoutyMember) :
    (∀ label : String, (∀ c ∈ label.toList, c.toNat < 128) →
      IsName (memberNameOf naming label).toList) ∧
    ∀ typeName labels members, enumMembers naming typeName labels = .ok members →
      ∀ member ∈ members,
      (∀ c ∈ member.label.toList, c.toNat < 128) → IsName member.name.toList := by
  have names (label : String) (ascii : ∀ c ∈ label.toList, c.toNat < 128) :
      IsName (memberNameOf naming label).toList :=
    isName_memberNameOf usual fun c listed _ => ascii c listed
  refine ⟨names, fun typeName labels members made member listed ascii => ?_⟩
  rw [(enumMembers_eq_ok_iff.1 made).2] at listed
  obtain ⟨label, -, rfl⟩ := List.mem_map.1 listed
  exact names label ascii

/-- Labels that leave little for a name. -/
def edgeLabels : List String := ["", "_", "1st", "_2_", "\x00", "a-b", "-", "__x-"]

/-- Their names, and that they are names. -/
theorem ascii_labels_make_names_at_edges :
    Naming.inflected.memberName = shoutyMember ∧
      enumMembers .inflected "mood" edgeLabels = .ok [⟨"_EMPTY_", ""⟩, ⟨"UNDERSCORE", "_"⟩,
        ⟨"_1ST", "1st"⟩, ⟨"_2_", "_2_"⟩, ⟨"U0000", "\x00"⟩, ⟨"A_MINUS_B", "a-b"⟩, ⟨"MINUS", "-"⟩,
          ⟨"__X_MINUS_", "__x-"⟩] ∧
      ∀ member ∈ edgeLabels.map (memberOf .inflected), IsName member.name.toList := by
  have made : enumMembers .inflected "mood" edgeLabels =
      .ok (edgeLabels.map (memberOf .inflected)) :=
    enumMembers_of_distinct (by unfold DistinctNames; decide +kernel)
  have ascii : ∀ member ∈ edgeLabels.map (memberOf .inflected),
      member.label.toList.all (fun c => decide (c.toNat < 128)) = true := by
    decide +kernel
  refine ⟨rfl, made.trans (congrArg Except.ok (by decide +kernel)), fun member listed => ?_⟩
  refine (ascii_labels_make_names .inflected rfl).2 "mood" edgeLabels _ made member
    listed fun c found => ?_
  exact of_decide_eq_true (List.all_eq_true.1 (ascii member listed) c found)

end CatalogSchema
