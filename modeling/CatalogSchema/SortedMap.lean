/-
**Maps kept in the order of their keys.**

A `SortedMap` lists its entries by strictly increasing key. Two maps with the same entries are
therefore equal, whatever the order in which the entries came in.

* `find?_insert_self`, `find?_insert_of_ne`: reading after writing.
* `eq_of_find?`: two maps that hold the same are equal.
-/

set_option linter.unusedSectionVars false

namespace CatalogSchema

/-- Entries listed by strictly increasing key. -/
structure SortedMap (κ : Type u) (α : Type v) [LT κ] where
  /-- The entries, in key order. -/
  entries : List (κ × α)
  sorted : entries.Pairwise fun a b => a.1 < b.1

namespace SortedMap

/-! ### The entry list -/

section Entries

variable {κ : Type u} {α : Type v} [LT κ] [DecidableLT κ]

/-- Puts an entry at its place, replacing one with the same key. -/
def insertEntry (key : κ) (value : α) : List (κ × α) → List (κ × α)
  | [] => [(key, value)]
  | (other, kept) :: rest =>
    if key < other then (key, value) :: (other, kept) :: rest
    else if other < key then (other, kept) :: insertEntry key value rest
    else (key, value) :: rest

theorem mem_insertEntry {key : κ} {value : α} {entry : κ × α} :
    {entries : List (κ × α)} → entry ∈ insertEntry key value entries →
      entry = (key, value) ∨ entry ∈ entries
  | [], found => by simpa [insertEntry] using found
  | (other, kept) :: rest, found => by
    unfold insertEntry at found
    split at found
    · simpa using found
    · split at found
      · rcases List.mem_cons.1 found with rfl | found
        · simp
        · rcases mem_insertEntry found with rfl | found <;> simp [*]
      · rcases List.mem_cons.1 found with rfl | found <;> simp [*]

variable [LE κ] [Std.LawfulOrderLT κ] [Std.IsLinearOrder κ] [DecidableEq κ]

theorem sorted_insertEntry (key : κ) (value : α) :
    (entries : List (κ × α)) → entries.Pairwise (fun a b => a.1 < b.1) →
      (insertEntry key value entries).Pairwise fun a b => a.1 < b.1
  | [], _ => by simp [insertEntry]
  | (other, kept) :: rest, sorted => by
    obtain ⟨below, sortedRest⟩ := List.pairwise_cons.1 sorted
    unfold insertEntry
    split
    · rename_i before
      refine List.pairwise_cons.2 ⟨fun entry found => ?_, sorted⟩
      rcases List.mem_cons.1 found with rfl | found
      · exact before
      · exact Std.lt_trans before (below entry found)
    · rename_i notBefore
      split
      · rename_i after
        refine List.pairwise_cons.2
          ⟨fun entry found => ?_, sorted_insertEntry key value rest sortedRest⟩
        rcases mem_insertEntry found with rfl | found
        · exact after
        · exact below entry found
      · rename_i notAfter
        have same : key = other := by
          rcases Std.lt_trichotomy key other with h | h | h
          · exact absurd h notBefore
          · exact h
          · exact absurd h notAfter
        subst same
        exact List.pairwise_cons.2 ⟨below, sortedRest⟩

theorem lookup_insertEntry_self (key : κ) (value : α) :
    (entries : List (κ × α)) → (insertEntry key value entries).lookup key = some value
  | [] => by simp [insertEntry]
  | (other, kept) :: rest => by
    unfold insertEntry
    split
    · simp
    · split
      · rename_i after
        have different : key ≠ other := fun same => Std.lt_irrefl (same ▸ after)
        simp [List.lookup_cons, beq_eq_false_iff_ne.2 different,
          lookup_insertEntry_self key value rest]
      · simp

theorem lookup_insertEntry_of_ne {key wanted : κ} (different : wanted ≠ key) (value : α) :
    (entries : List (κ × α)) → (insertEntry key value entries).lookup wanted = entries.lookup wanted
  | [] => by simp [insertEntry, List.lookup_cons, beq_eq_false_iff_ne.2 different]
  | (other, kept) :: rest => by
    unfold insertEntry
    split
    · simp [List.lookup_cons, beq_eq_false_iff_ne.2 different]
    · rename_i notBefore
      split
      · simp [List.lookup_cons, lookup_insertEntry_of_ne different value rest]
      · rename_i notAfter
        have same : key = other := by
          rcases Std.lt_trichotomy key other with h | h | h
          · exact absurd h notBefore
          · exact h
          · exact absurd h notAfter
        subst same
        simp [List.lookup_cons, beq_eq_false_iff_ne.2 different]

/-- A key below all others has no value. -/
theorem lookup_eq_none_of_lt {key : κ} :
    {entries : List (κ × α)} → (∀ entry ∈ entries, key < entry.1) → entries.lookup key = none
  | [], _ => rfl
  | (other, kept) :: rest, below => by
    have different : key ≠ other := fun same =>
      Std.lt_irrefl (same ▸ below (other, kept) (List.mem_cons_self ..))
    rw [List.lookup_cons, beq_eq_false_iff_ne.2 different]
    exact lookup_eq_none_of_lt fun entry found => below entry (List.mem_cons_of_mem _ found)

/-- Sorted entries are known from the values under their keys. -/
theorem eq_of_lookup : {first second : List (κ × α)} → first.Pairwise (fun a b => a.1 < b.1) →
    second.Pairwise (fun a b => a.1 < b.1) → (∀ key, first.lookup key = second.lookup key) →
      first = second
  | [], [], _, _, _ => rfl
  | [], (key, value) :: rest, _, _, same => by
    have held := same key
    simp at held
  | (key, value) :: rest, [], _, _, same => by
    have held := same key
    simp at held
  | (key, value) :: rest, (key', value') :: rest', sorted, sorted', same => by
    obtain ⟨below, sortedRest⟩ := List.pairwise_cons.1 sorted
    obtain ⟨below', sortedRest'⟩ := List.pairwise_cons.1 sorted'
    have held := same key
    have held' := same key'
    rcases Std.lt_trichotomy key key' with before | rfl | after
    · have absent : ((key', value') :: rest').lookup key = none := by
        refine lookup_eq_none_of_lt fun entry found => ?_
        rcases List.mem_cons.1 found with rfl | found
        · exact before
        · exact Std.lt_trans before (below' entry found)
      rw [absent] at held
      simp at held
    · obtain rfl : value = value' := by simpa using held
      rw [eq_of_lookup sortedRest sortedRest' fun wanted => ?_]
      by_cases here : wanted = key
      · subst here
        rw [lookup_eq_none_of_lt below, lookup_eq_none_of_lt below']
      · have there := same wanted
        rwa [List.lookup_cons, List.lookup_cons, beq_eq_false_iff_ne.2 here] at there
    · have absent : ((key, value) :: rest).lookup key' = none := by
        refine lookup_eq_none_of_lt fun entry found => ?_
        rcases List.mem_cons.1 found with rfl | found
        · exact after
        · exact Std.lt_trans after (below entry found)
      rw [absent] at held'
      simp at held'

end Entries

/-! ### The map -/

variable {κ : Type u} {α : Type v} {β : Type w} [LT κ]

/-- The map without entries. -/
def empty : SortedMap κ α := ⟨[], List.Pairwise.nil⟩

instance : EmptyCollection (SortedMap κ α) := ⟨empty⟩

instance : Inhabited (SortedMap κ α) := ⟨empty⟩

instance [DecidableEq κ] [DecidableEq α] : DecidableEq (SortedMap κ α) := fun a b =>
  if same : a.entries = b.entries then
    isTrue (by cases a; cases b; simp_all)
  else
    isFalse fun equal => same (by rw [equal])

/-- The keys, in order. -/
def keys (map : SortedMap κ α) : List κ := map.entries.map (·.1)

/-- The values, in key order. -/
def values (map : SortedMap κ α) : List α := map.entries.map (·.2)

/-- The number of entries. -/
def size (map : SortedMap κ α) : Nat := map.entries.length

/-- Holds of the map without entries. -/
def isEmpty (map : SortedMap κ α) : Bool := map.entries.isEmpty

/-- The value stored under a key. -/
def find? [DecidableEq κ] (map : SortedMap κ α) (key : κ) : Option α := map.entries.lookup key

/-- Holds of the keys that have a value. -/
def contains [DecidableEq κ] (map : SortedMap κ α) (key : κ) : Bool := (map.find? key).isSome

/-- Drops the entry of a key, if there is one. -/
def erase [DecidableEq κ] (map : SortedMap κ α) (key : κ) : SortedMap κ α :=
  ⟨map.entries.filter fun entry => entry.1 ≠ key, map.sorted.filter _⟩

theorem lookup_filter_ne [DecidableEq κ] (key wanted : κ) (entries : List (κ × α)) :
    (entries.filter fun entry => entry.1 ≠ key).lookup wanted =
      if wanted = key then none else entries.lookup wanted := by
  induction entries with
  | nil => simp
  | cons entry entries ih =>
    by_cases erased : wanted = key
    · rw [if_pos erased] at ih ⊢
      by_cases dropped : entry.1 = key
      · rw [List.filter_cons_of_neg (by simp [dropped]), ih]
      · have other : wanted ≠ entry.1 := fun same => dropped (same.symm.trans erased)
        rw [List.filter_cons_of_pos (by simp [dropped]), List.lookup_cons,
          beq_eq_false_iff_ne.2 other, ih]
    · rw [if_neg erased] at ih ⊢
      by_cases dropped : entry.1 = key
      · rw [List.filter_cons_of_neg (by simp [dropped]), ih, List.lookup_cons, dropped,
          beq_eq_false_iff_ne.2 erased]
      · rw [List.filter_cons_of_pos (by simp [dropped]), List.lookup_cons, List.lookup_cons, ih]

@[simp] theorem find?_erase_self [DecidableEq κ] (map : SortedMap κ α) (key : κ) :
    (map.erase key).find? key = none :=
  (lookup_filter_ne key key map.entries).trans (if_pos rfl)

theorem find?_erase_of_ne [DecidableEq κ] (map : SortedMap κ α) {key wanted : κ}
    (different : wanted ≠ key) : (map.erase key).find? wanted = map.find? wanted :=
  (lookup_filter_ne key wanted map.entries).trans (if_neg different)

variable [LE κ] [DecidableLT κ] [Std.LawfulOrderLT κ] [Std.IsLinearOrder κ] [DecidableEq κ]

/-- Stores a value under a key, replacing an earlier one. -/
def insert (map : SortedMap κ α) (key : κ) (value : α) : SortedMap κ α :=
  ⟨insertEntry key value map.entries, sorted_insertEntry key value _ map.sorted⟩

/-- Stores a value under a key that has none, and changes nothing otherwise. -/
def insertIfNew (map : SortedMap κ α) (key : κ) (value : α) : SortedMap κ α :=
  if map.contains key then map else map.insert key value

/-- Stores a list of entries from left to right; of two with one key the later stays. -/
def insertMany (map : SortedMap κ α) (entries : List (κ × α)) : SortedMap κ α :=
  entries.foldl (fun grown entry => grown.insert entry.1 entry.2) map

/-- The map of a list of entries; of two with one key the later stays. -/
def ofList (entries : List (κ × α)) : SortedMap κ α := empty.insertMany entries

@[simp] theorem find?_insert_self (map : SortedMap κ α) (key : κ) (value : α) :
    (map.insert key value).find? key = some value :=
  lookup_insertEntry_self key value map.entries

theorem find?_insert_of_ne (map : SortedMap κ α) {key wanted : κ} (different : wanted ≠ key)
    (value : α) : (map.insert key value).find? wanted = map.find? wanted :=
  lookup_insertEntry_of_ne different value map.entries

/-- Two maps that hold the same are equal. -/
theorem eq_of_find? {first second : SortedMap κ α}
    (same : ∀ key, first.find? key = second.find? key) :
    first = second := by
  obtain ⟨entries, sorted⟩ := first
  obtain ⟨entries', sorted'⟩ := second
  obtain rfl : entries = entries' := eq_of_lookup sorted sorted' same
  rfl

/-- A greater key comes last. -/
theorem insertEntry_of_lt {key : κ} (value : α) {entries : List (κ × α)}
    (above : ∀ entry ∈ entries, entry.1 < key) :
    insertEntry key value entries = entries ++ [(key, value)] := by
  induction entries with
  | nil => rfl
  | cons entry entries ih =>
    have below := above entry List.mem_cons_self
    unfold insertEntry
    rw [if_neg fun before => Std.lt_irrefl (Std.lt_trans below before), if_pos below,
      ih fun other found => above other (List.mem_cons_of_mem _ found)]
    rfl

theorem entries_insertMany_of_sorted (map : SortedMap κ α) {entries : List (κ × α)}
    (sorted : (map.entries ++ entries).Pairwise fun a b => a.1 < b.1) :
    (map.insertMany entries).entries = map.entries ++ entries := by
  induction entries generalizing map with
  | nil => exact (List.append_nil _).symm
  | cons entry entries ih =>
    have above : ∀ other ∈ map.entries, other.1 < entry.1 := fun other found =>
      (List.pairwise_append.1 sorted).2.2 other found entry List.mem_cons_self
    have last : (map.insert entry.1 entry.2).entries = map.entries ++ [entry] :=
      insertEntry_of_lt entry.2 above
    change ((map.insert entry.1 entry.2).insertMany entries).entries = _
    rw [ih _ (by rw [last, List.append_assoc]; exact sorted), last, List.append_assoc]
    rfl

/-- A list by strictly increasing key is the list of its map. -/
theorem entries_ofList_of_sorted {entries : List (κ × α)}
    (sorted : entries.Pairwise fun a b => a.1 < b.1) :
    (ofList entries : SortedMap κ α).entries = entries :=
  entries_insertMany_of_sorted empty sorted

@[simp] theorem find?_empty (key : κ) : (empty : SortedMap κ α).find? key = none := rfl

end SortedMap

end CatalogSchema
