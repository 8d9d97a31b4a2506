/-
**Which labels make an enumeration.**

Labels become members one after the other, and a table keeps the names taken so far, each with the
label that took it. Labels of distinct names all become members; otherwise the first label whose
name is taken ends the enumeration. Nothing is asked of the naming.

* `toList_memberNameOf`, `memberNameOf_eq_iff`: the name of a label, and when two labels have one
  name.
* `membersAfter_of_distinct`, `membersAfter_of_clash`: the two ways in which the labels can end.
* `distinct_or_clash`: there is no third.
* `enumMembers_eq_ok_iff`, `enumMembers_eq_error_iff`: which labels are an enumeration.
* `memberFor?_members`: the member of a label is the one that the label became.
-/

import CatalogSchema.Schema.Type
import Mathlib.Data.List.Induction

namespace CatalogSchema

/-- The member that a label becomes. -/
def memberOf (naming : Naming) (label : String) : EnumMember := ⟨memberNameOf naming label, label⟩

/-- No two of the labels have one name. -/
def DistinctNames (naming : Naming) (labels : List String) : Prop :=
  (labels.map (memberNameOf naming)).Nodup

/-- **The first clash among labels**: `second` has the name of `first`, which stands before it, and
the labels before `second` have distinct names. So `first` alone of these has the name of
`second`. -/
def FirstClash (naming : Naming) (labels : List String) (first second : String) : Prop :=
  ∃ before between after, labels = before ++ first :: between ++ second :: after ∧
    DistinctNames naming (before ++ first :: between) ∧
    memberNameOf naming first = memberNameOf naming second ∧
    ∀ other ∈ before ++ between, memberNameOf naming other ≠ memberNameOf naming second

variable {naming : Naming} {typeName : String}

/-! ### The name of a label -/

/-- The spelling of a label, in the case of the naming. -/
def casedSpelling (naming : Naming) (label : String) : List Char :=
  naming.memberName (escapeLabel label.toList)

/-- **The name of a label** is its spelling in the case of the naming, with an underscore before a
digit in front. -/
theorem toList_memberNameOf (naming : Naming) (label : String) :
    (memberNameOf naming label).toList =
      if (casedSpelling naming label).head?.any Char.isDigit then '_' :: casedSpelling naming label
      else casedSpelling naming label :=
  String.toList_ofList

/-- **When two labels have one name**: the naming gives them one, or one of them starts with a digit
there, and the other is the same with an underscore in front. -/
theorem memberNameOf_eq_iff {label other : String} :
    memberNameOf naming label = memberNameOf naming other ↔
      casedSpelling naming label = casedSpelling naming other ∨
      ((casedSpelling naming label).head?.any Char.isDigit = true ∧
        casedSpelling naming other = '_' :: casedSpelling naming label) ∨
      ((casedSpelling naming other).head?.any Char.isDigit = true ∧
        casedSpelling naming label = '_' :: casedSpelling naming other) := by
  rw [← String.toList_inj, toList_memberNameOf, toList_memberNameOf]
  generalize casedSpelling naming label = name
  generalize casedSpelling naming other = name'
  have noDigit (rest : List Char) : ('_' :: rest).head?.any Char.isDigit = false := rfl
  constructor
  · intro same
    split at same <;> split at same <;> rename_i digit digit'
    · exact .inl (List.cons.inj same).2
    · exact .inr (.inl ⟨digit, same.symm⟩)
    · exact .inr (.inr ⟨digit', same⟩)
    · exact .inl same
  · rintro (rfl | ⟨digit, rfl⟩ | ⟨digit, rfl⟩)
    · rfl
    · rw [if_pos digit, noDigit, if_neg Bool.false_ne_true]
    · rw [if_pos digit, noDigit, if_neg Bool.false_ne_true]

/-! ### Names that are distinct -/

theorem distinctNames_append {early late : List String} :
    DistinctNames naming (early ++ late) ↔ DistinctNames naming early ∧ DistinctNames naming late ∧
      ∀ label ∈ early, ∀ other ∈ late, memberNameOf naming label ≠ memberNameOf naming other := by
  unfold DistinctNames
  rw [List.map_append, List.nodup_append]
  simp only [List.forall_mem_map]

/-- One more label keeps names distinct exactly if its name is free. -/
theorem distinctNames_concat {labels : List String} {label : String} :
    DistinctNames naming (labels ++ [label]) ↔ DistinctNames naming labels ∧
      ∀ other ∈ labels, memberNameOf naming other ≠ memberNameOf naming label := by
  rw [distinctNames_append]
  simp [DistinctNames]

/-- In a list with distinct names, no other label than the one at a place has its name. -/
theorem DistinctNames.ne_of_mem {before between : List String} {label : String}
    (distinct : DistinctNames naming (before ++ label :: between)) :
    ∀ other ∈ before ++ between, memberNameOf naming other ≠ memberNameOf naming label := by
  have moved : DistinctNames naming (label :: (before ++ between)) :=
    ((List.perm_middle.map (memberNameOf naming)).nodup_iff).1 distinct
  intro other listed same
  exact (List.nodup_cons.1 moved).1 (List.mem_map.2 ⟨other, listed, same⟩)

theorem FirstClash.not_distinct {labels : List String} {first second : String}
    (clash : FirstClash naming labels first second) : ¬ DistinctNames naming labels := by
  obtain ⟨before, between, after, rfl, -, same, -⟩ := clash
  intro distinct
  obtain ⟨-, -, apart⟩ := distinctNames_append.1 distinct
  exact apart first (by simp) second List.mem_cons_self same

/-- **Labels have distinct names, or there is a first clash among them.** -/
theorem distinct_or_clash (naming : Naming) (labels : List String) :
    DistinctNames naming labels ∨ ∃ first second, FirstClash naming labels first second := by
  -- The first clash is found from the end: a clash before the last label stays the first one.
  induction labels using List.reverseRecOn with
  | nil => exact .inl List.nodup_nil
  | append_singleton labels label ih =>
    rcases ih with distinct | ⟨first, second, before, between, after, rfl, clash⟩
    · by_cases free : ∀ other ∈ labels, memberNameOf naming other ≠ memberNameOf naming label
      · exact .inl (distinctNames_concat.2 ⟨distinct, free⟩)
      · obtain ⟨first, listed, same⟩ : ∃ first ∈ labels,
            memberNameOf naming first = memberNameOf naming label := by
          simpa only [not_forall, not_not, exists_prop] using free
        obtain ⟨before, between, rfl⟩ := List.append_of_mem listed
        refine .inr ⟨first, label, before, between, [], rfl, distinct, same, ?_⟩
        rw [← same]
        exact distinct.ne_of_mem
    · exact .inr ⟨first, second, before, between, after ++ [label], by simp, clash⟩

/-! ### The table of names taken -/

/-- A table holds the names of the earlier labels, each with its label. -/
def HoldsNames (naming : Naming) (taken : SortedMap String String) (earlier : List String) : Prop :=
  ∀ name label, taken.find? name = some label ↔ label ∈ earlier ∧ memberNameOf naming label = name

theorem holdsNames_empty : HoldsNames naming .empty [] :=
  fun _ _ => ⟨nofun, fun listed => nomatch listed.1⟩

variable {taken : SortedMap String String} {earlier : List String}

/-- A name is free exactly if no earlier label has it. -/
theorem HoldsNames.find?_eq_none_iff (records : HoldsNames naming taken earlier) {name : String} :
    taken.find? name = none ↔ ∀ other ∈ earlier, memberNameOf naming other ≠ name := by
  rw [Option.eq_none_iff_forall_ne_some]
  exact ⟨fun free other listed same => free other ((records name other).2 ⟨listed, same⟩),
    fun absent other found =>
      absent other ((records name other).1 found).1 ((records name other).1 found).2⟩

/-- The table with one more label, whose name was free. -/
theorem HoldsNames.insert (records : HoldsNames naming taken earlier) {label : String}
    (free : ∀ other ∈ earlier, memberNameOf naming other ≠ memberNameOf naming label) :
    HoldsNames naming (taken.insert (memberNameOf naming label) label) (earlier ++ [label]) := by
  intro name other
  rw [List.mem_append, List.mem_singleton]
  by_cases same : name = memberNameOf naming label
  · subst same
    rw [SortedMap.find?_insert_self, Option.some.injEq]
    constructor
    · rintro rfl
      exact ⟨.inr rfl, rfl⟩
    · rintro ⟨listed | rfl, same⟩
      · exact absurd same (free other listed)
      · rfl
  · rw [SortedMap.find?_insert_of_ne _ same, records name other]
    constructor
    · exact fun listed => ⟨.inl listed.1, listed.2⟩
    · rintro ⟨listed | rfl, here⟩
      · exact ⟨listed, here⟩
      · exact absurd here.symm same

/-! ### One label -/

theorem membersAfter_of_taken {label first : String} {rest : List String}
    (found : taken.find? (memberNameOf naming label) = some first) :
    membersAfter naming typeName taken (label :: rest) =
      .error (.enumNameCollision typeName (memberNameOf naming label) first label) := by
  rw [membersAfter]
  simp only [found]

theorem membersAfter_of_free {label : String} {rest : List String}
    (free : taken.find? (memberNameOf naming label) = none) :
    membersAfter naming typeName taken (label :: rest) =
      (membersAfter naming typeName (taken.insert (memberNameOf naming label) label) rest).map
        (memberOf naming label :: ·) := by
  rw [membersAfter]
  simp only [free]
  cases membersAfter naming typeName (taken.insert (memberNameOf naming label) label) rest <;> rfl

/-- A label whose name no earlier label has becomes a member and is recorded. -/
theorem HoldsNames.next (records : HoldsNames naming taken earlier) {label : String}
    {rest : List String} (distinct : DistinctNames naming (earlier ++ label :: rest))
    (typeName : String) (labels : List String) :
    HoldsNames naming (taken.insert (memberNameOf naming label) label) (earlier ++ [label]) ∧
      membersAfter naming typeName taken (label :: labels) =
        (membersAfter naming typeName (taken.insert (memberNameOf naming label) label) labels).map
          (memberOf naming label :: ·) := by
  obtain ⟨-, -, apart⟩ := distinctNames_append.1 distinct
  have free : ∀ other ∈ earlier, memberNameOf naming other ≠ memberNameOf naming label :=
    fun other listed => apart other listed label List.mem_cons_self
  exact ⟨records.insert free, membersAfter_of_free (records.find?_eq_none_iff.2 free)⟩

/-! ### All labels -/

/-- **Labels of distinct names all become members.** -/
theorem membersAfter_of_distinct {labels : List String} (records : HoldsNames naming taken earlier)
    (distinct : DistinctNames naming (earlier ++ labels)) :
    membersAfter naming typeName taken labels = .ok (labels.map (memberOf naming)) := by
  -- `earlier` lists what the table holds: the induction moves each label to its end.
  induction labels generalizing taken earlier with
  | nil => rfl
  | cons label rest ih =>
    obtain ⟨recordsNext, step⟩ := records.next distinct typeName rest
    rw [step, ih recordsNext (by rwa [List.append_assoc])]
    rfl

/-- **A label whose name is taken ends the enumeration**, when the labels before it have distinct
names. -/
theorem membersAfter_of_clash {labels after : List String} {first second : String}
    (records : HoldsNames naming taken earlier)
    (distinct : DistinctNames naming (earlier ++ labels)) (listed : first ∈ earlier ++ labels)
    (same : memberNameOf naming first = memberNameOf naming second) :
    membersAfter naming typeName taken (labels ++ second :: after) =
      .error (.enumNameCollision typeName (memberNameOf naming second) first second) := by
  induction labels generalizing taken earlier with
  | nil =>
    rw [List.append_nil] at listed
    exact membersAfter_of_taken ((records _ first).2 ⟨listed, same⟩)
  | cons label rest ih =>
    obtain ⟨recordsNext, step⟩ := records.next distinct typeName (rest ++ second :: after)
    have moved : earlier ++ label :: rest = earlier ++ [label] ++ rest := by simp
    rw [moved] at distinct listed
    rw [List.cons_append, step, ih recordsNext distinct listed]
    rfl

theorem enumMembers_of_distinct {labels : List String} (distinct : DistinctNames naming labels) :
    enumMembers naming typeName labels = .ok (labels.map (memberOf naming)) :=
  membersAfter_of_distinct holdsNames_empty distinct

theorem enumMembers_of_clash {labels : List String} {first second : String}
    (clash : FirstClash naming labels first second) : enumMembers naming typeName labels =
      .error (.enumNameCollision typeName (memberNameOf naming second) first second) := by
  obtain ⟨before, between, after, rfl, distinct, same, -⟩ := clash
  exact membersAfter_of_clash holdsNames_empty distinct (by simp) same

/-- **Labels make an enumeration exactly if their names are distinct.** -/
theorem enumMembers_eq_ok_iff {labels : List String} {members : List EnumMember} :
    enumMembers naming typeName labels = .ok members ↔
      DistinctNames naming labels ∧ members = labels.map (memberOf naming) := by
  rcases distinct_or_clash naming labels with distinct | ⟨first, second, clash⟩
  · rw [enumMembers_of_distinct distinct, Except.ok.injEq]
    exact ⟨fun same => ⟨distinct, same.symm⟩, fun made => made.2.symm⟩
  · rw [enumMembers_of_clash clash]
    exact ⟨nofun, fun made => absurd made.1 clash.not_distinct⟩

/-- **The error of labels without an enumeration** names their first clash. -/
theorem enumMembers_eq_error_iff {labels : List String} {error : BuildError} :
    enumMembers naming typeName labels = .error error ↔ ∃ first second,
      FirstClash naming labels first second ∧
        error = .enumNameCollision typeName (memberNameOf naming second) first second := by
  constructor
  · intro failed
    rcases distinct_or_clash naming labels with distinct | ⟨first, second, clash⟩
    · rw [enumMembers_of_distinct distinct] at failed
      cases failed
    · rw [enumMembers_of_clash clash, Except.error.injEq] at failed
      exact ⟨first, second, clash, failed.symm⟩
  · rintro ⟨first, second, clash, rfl⟩
    exact enumMembers_of_clash clash

/-! ### Looking members up -/

/-- **The member of a label is the one that it became**; other labels have none. -/
theorem memberFor?_members (naming : Naming) (labels : List String) (label : String) (serial : Nat)
    (name : String) (description : Option String) :
    (SchemaType.enumeration serial name description
        (labels.map (memberOf naming))).memberFor? label =
      if label ∈ labels then some (memberOf naming label) else none := by
  change (labels.map (memberOf naming)).find? (fun member => decide (member.label = label)) = _
  induction labels with
  | nil => rfl
  | cons first rest ih =>
    rw [List.map_cons]
    by_cases here : first = label
    · subst here
      rw [if_pos List.mem_cons_self]
      exact List.find?_cons_of_pos (decide_eq_true rfl)
    · have passed : ¬ decide ((memberOf naming first).label = label) = true := by
        rwa [decide_eq_true_eq]
      have elsewhere : label ∈ first :: rest ↔ label ∈ rest := by
        rw [List.mem_cons, or_iff_right (Ne.symm here)]
      rw [List.find?_cons_of_neg (p := fun member : EnumMember => decide (member.label = label))
        passed, ih]
      simp only [elsewhere]

/-! ### Members or a clash -/

/-- **Labels are an enumeration or have a first clash.** With distinct names its members are those
that the labels become, in the order of the labels, and each label finds its own. Otherwise the
error names the first label whose name was taken, that name, and the one label before it that took
it. -/
theorem enumMembers_distinct_or_clash (naming : Naming) (typeName : String) (labels : List String) :
    ((∃ members, enumMembers naming typeName labels = .ok members) ↔
      (labels.map (memberNameOf naming)).Nodup) ∧
    (∀ members, enumMembers naming typeName labels = .ok members ↔
      (labels.map (memberNameOf naming)).Nodup ∧
        members = labels.map fun label => ⟨memberNameOf naming label, label⟩) ∧
    (∀ label serial name description, (SchemaType.enumeration serial name description
        (labels.map fun label => ⟨memberNameOf naming label, label⟩)).memberFor? label =
      if label ∈ labels then some ⟨memberNameOf naming label, label⟩ else none) ∧
    ∀ error, enumMembers naming typeName labels = .error error ↔
      ∃ first second, FirstClash naming labels first second ∧
        error = .enumNameCollision typeName (memberNameOf naming second) first second := by
  refine ⟨?_, fun members => enumMembers_eq_ok_iff, memberFor?_members naming labels,
    fun error => enumMembers_eq_error_iff⟩
  constructor
  · rintro ⟨members, made⟩
    exact (enumMembers_eq_ok_iff.1 made).1
  · exact fun distinct => ⟨_, enumMembers_of_distinct distinct⟩

-- The naming tells the first label from the last one; the underscore before its digit takes the
-- name of that.
example : enumMembers .inflected "app.rank" ["1st", "2nd", "_1st"] =
    .error (.enumNameCollision "app.rank" "_1ST" "1st" "_1st") := by
  rfl

end CatalogSchema
