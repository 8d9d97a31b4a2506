/-
**What a cache of interval literals keeps.**

A cache that has served a list of calls is compared with the list itself.

* `byLastUse`: the literals among the calls that can be read, each once, the one used last first.
* `literals_read`, `hits_read`, `calls_read`: what one call does to the literals and the counters.
* `Serving.read`: one call keeps a cache in step with the list of calls.
* `cache_transparent`: answers, literals and counters after any list of calls.
-/

import CatalogSchema.Conversion.IntervalCache
import Mathlib.Data.List.Dedup
import Mathlib.Data.List.Induction

namespace CatalogSchema

/-! ### Literals by their last use -/

/-- Holds of the literals that can be read. -/
def readable (literal : String) : Bool := (Interval.parse literal).isOk

/-- The literals that can be read among those that were used, each once, the one used last first. -/
def byLastUse (used : List String) : List String := (used.filter readable).dedup.reverse

/-- The literals that a cache with a capacity keeps of those that were used. -/
def keptOf (capacity : Nat) (used : List String) : List String :=
  (byLastUse used).take (max capacity 1)

/-- The number of calls for a literal that was kept when the call was made. -/
def hitsOf (capacity : Nat) (used : List String) : Nat :=
  (List.range used.length).countP fun call =>
    used[call]?.any fun literal => literal ∈ keptOf capacity (used.take call)

section LastUse

variable {α : Type} [DecidableEq α]

/-- A last item is the last of the items without repetition. -/
theorem dedup_append_singleton (items : List α) (item : α) :
    (items ++ [item]).dedup = (items.dedup.filter fun other => other ≠ item) ++ [item] := by
  induction items with
  | nil => simp
  | cons first rest ih =>
    by_cases later : first ∈ rest
    · have there : first ∈ rest ++ [item] := List.mem_append_left _ later
      rw [List.cons_append, List.dedup_cons_of_mem there, List.dedup_cons_of_mem later, ih]
    · rw [List.cons_append, List.dedup_cons_of_notMem later]
      by_cases same : first = item
      · subst same
        have there : first ∈ rest ++ [first] := List.mem_append_right _ (List.mem_singleton_self _)
        rw [List.dedup_cons_of_mem there, ih, List.filter_cons_of_neg (by simp)]
      · have absent : first ∉ rest ++ [item] := by simp [later, same]
        rw [List.dedup_cons_of_notMem absent, ih, List.filter_cons_of_pos (by simp [same]),
          List.cons_append]

/-- Dropping an item before or after the end of a list is cut off leaves the same items in front. -/
theorem take_filter_take {items : List α} (distinct : items.Nodup) (item : α) (count : Nat) :
    ((items.take (count + 1)).filter fun other => other ≠ item).take count =
      (items.filter fun other => other ≠ item).take count := by
  induction items generalizing count with
  | nil => rfl
  | cons first rest ih =>
    obtain ⟨absent, distinctRest⟩ := List.nodup_cons.1 distinct
    rw [List.take_succ_cons]
    by_cases same : first = item
    · subst same
      have unchanged {part : List α} (sub : part ⊆ rest) :
          (part.filter fun other => other ≠ first) = part := by
        refine List.filter_eq_self.2 fun other found => ?_
        simp only [ne_eq, decide_not, Bool.not_eq_eq_eq_not, Bool.not_true, decide_eq_false_iff_not]
        rintro rfl
        exact absent (sub found)
      rw [List.filter_cons_of_neg (by simp), List.filter_cons_of_neg (by simp),
        unchanged (List.take_subset _ _), unchanged (List.Subset.refl _),
        List.take_take, Nat.min_self]
    · rw [List.filter_cons_of_pos (by simp [same]), List.filter_cons_of_pos (by simp [same])]
      cases count with
      | zero => rfl
      | succ count => rw [List.take_succ_cons, List.take_succ_cons, ih distinctRest]

end LastUse

theorem nodup_byLastUse (used : List String) : (byLastUse used).Nodup :=
  List.nodup_reverse.2 (List.nodup_dedup _)

/-- A literal that can be read is the one used last once it is used; any other leaves the order
alone. -/
theorem byLastUse_append_singleton (used : List String) (literal : String) :
    byLastUse (used ++ [literal]) =
      if readable literal then literal :: (byLastUse used).filter fun other => other ≠ literal
      else byLastUse used := by
  unfold byLastUse
  rw [List.filter_append]
  by_cases good : readable literal = true
  · rw [if_pos good, List.filter_cons_of_pos good, List.filter_nil, dedup_append_singleton,
      List.reverse_append, List.filter_reverse]
    rfl
  · rw [if_neg good, List.filter_cons_of_neg good, List.filter_nil, List.append_nil]

theorem keptOf_append_singleton (capacity : Nat) (used : List String) (literal : String) :
    keptOf capacity (used ++ [literal]) =
      if readable literal then
        (literal :: (keptOf capacity used).filter fun other => other ≠ literal).take
          (max capacity 1)
      else keptOf capacity used := by
  unfold keptOf
  rw [byLastUse_append_singleton]
  by_cases good : readable literal = true
  · obtain ⟨count, room⟩ : ∃ count, max capacity 1 = count + 1 :=
      Nat.exists_eq_succ_of_ne_zero (by omega)
    rw [if_pos good, if_pos good, room, List.take_succ_cons, List.take_succ_cons,
      take_filter_take (nodup_byLastUse used)]
  · rw [if_neg good, if_neg good]

/-- One more call is a hit if its literal is kept. -/
theorem hitsOf_append_singleton (capacity : Nat) (used : List String) (literal : String) :
    hitsOf capacity (used ++ [literal]) =
      hitsOf capacity used + if literal ∈ keptOf capacity used then 1 else 0 := by
  unfold hitsOf
  rw [List.length_append, List.length_singleton, List.range_succ, List.countP_append,
    List.countP_singleton]
  congr 1
  · refine List.countP_congr fun call earlier => ?_
    have earlier := List.mem_range.1 earlier
    rw [List.getElem?_append_left earlier, List.take_append_of_le_length (Nat.le_of_lt earlier)]
  · rw [List.getElem?_concat_length, List.take_left]
    simp

namespace IntervalCache

/-! ### One call -/

/-- The literals that are kept, the one used last first. -/
def literals (cache : IntervalCache) : List String := cache.recent.map Prod.fst

theorem literals_remember (cache : IntervalCache) {literal : String} {interval : Interval}
    (parsed : Interval.parse literal = .ok interval) :
    (cache.remember literal interval parsed).literals =
      (literal :: cache.literals.filter fun other => other ≠ literal).take cache.capacity := by
  unfold literals remember
  rw [List.map_take, List.map_cons, List.filter_map]
  rfl

theorem lookup_eq_none_iff {cache : IntervalCache} {literal : String} :
    cache.lookup literal = none ↔ literal ∉ cache.literals := by
  unfold lookup literals
  simp only [List.find?_eq_none, List.mem_map, decide_eq_true_eq, not_exists, not_and]

/-- What a call does to a cache, by what it finds and what the literal is read as. -/
theorem read_snd_cases (cache : IntervalCache) (literal : String) :
    (literal ∈ cache.literals ∧ ∃ interval parsed,
        (cache.read literal).2 = cache.countHit.remember literal interval parsed) ∨
      literal ∉ cache.literals ∧
        ((∃ interval parsed,
          (cache.read literal).2 = cache.countMiss.remember literal interval parsed) ∨
          readable literal = false ∧ (cache.read literal).2 = cache.countMiss) := by
  unfold read
  split
  · rename_i entry found
    have kept : literal ∈ cache.literals := by
      by_contra absent
      cases found.symm.trans (lookup_eq_none_iff.2 absent)
    exact .inl ⟨kept, entry.2, parse_of_lookup found, rfl⟩
  · rename_i absent
    refine .inr ⟨lookup_eq_none_iff.1 absent, ?_⟩
    split
    · rename_i interval parsed
      exact .inl ⟨interval, parsed, rfl⟩
    · rename_i error parsed
      refine .inr ⟨?_, rfl⟩
      unfold readable
      rw [parsed]
      rfl

theorem readable_of_parse {literal : String} {interval : Interval}
    (parsed : Interval.parse literal = .ok interval) : readable literal = true := by
  unfold readable
  rw [parsed]
  rfl

/-- A literal that can be read comes to the front, and the last one goes if there is no room. -/
theorem literals_read (cache : IntervalCache) (literal : String) :
    (cache.read literal).2.literals =
      if readable literal then
        (literal :: cache.literals.filter fun other => other ≠ literal).take cache.capacity
      else cache.literals := by
  rcases cache.read_snd_cases literal with
    ⟨-, interval, parsed, left⟩ | ⟨-, ⟨interval, parsed, left⟩ | ⟨bad, left⟩⟩
  · rw [left, literals_remember, if_pos (readable_of_parse parsed)]
    rfl
  · rw [left, literals_remember, if_pos (readable_of_parse parsed)]
    rfl
  · rw [left, bad]
    rfl

theorem capacity_read (cache : IntervalCache) (literal : String) :
    (cache.read literal).2.capacity = cache.capacity := by
  rcases cache.read_snd_cases literal with
    ⟨-, interval, parsed, left⟩ | ⟨-, ⟨interval, parsed, left⟩ | ⟨bad, left⟩⟩ <;>
  · rw [left]
    rfl

/-- A call is a hit if its literal is kept. -/
theorem hits_read (cache : IntervalCache) (literal : String) :
    (cache.read literal).2.hits = cache.hits + if literal ∈ cache.literals then 1 else 0 := by
  rcases cache.read_snd_cases literal with
    ⟨kept, interval, parsed, left⟩ | ⟨absent, ⟨interval, parsed, left⟩ | ⟨bad, left⟩⟩
  · rw [left, if_pos kept]
    rfl
  · rw [left, if_neg absent]
    rfl
  · rw [left, if_neg absent]
    rfl

/-- A call is a hit or a miss. -/
theorem calls_read (cache : IntervalCache) (literal : String) :
    (cache.read literal).2.hits + (cache.read literal).2.misses =
      cache.hits + cache.misses + 1 := by
  rcases cache.read_snd_cases literal with
    ⟨-, interval, parsed, left⟩ | ⟨-, ⟨interval, parsed, left⟩ | ⟨bad, left⟩⟩
  · rw [left]
    exact Nat.succ_add _ _
  · rw [left]
    rfl
  · rw [left]
    rfl

/-! ### Lists of calls -/

/-- Calls a cache for literals one after another. -/
def readAll (cache : IntervalCache) : List String → List (Conversion Interval) × IntervalCache
  | [] => ([], cache)
  | literal :: rest =>
    let (outcome, after) := cache.read literal
    let (outcomes, last) := after.readAll rest
    (outcome :: outcomes, last)

theorem readAll_append (cache : IntervalCache) (first second : List String) :
    cache.readAll (first ++ second) =
      ((cache.readAll first).1 ++ ((cache.readAll first).2.readAll second).1,
        ((cache.readAll first).2.readAll second).2) := by
  induction first generalizing cache with
  | nil => rfl
  | cons literal rest ih =>
    simp only [List.cons_append, readAll]
    rw [ih]

/-- A cache with room for some literals that has served a list of calls. -/
structure Serving (room : Nat) (used : List String) (cache : IntervalCache) : Prop where
  capacity : cache.capacity = max room 1
  literals : cache.literals = keptOf room used
  hits : cache.hits = hitsOf room used
  calls : cache.hits + cache.misses = used.length

theorem Serving.empty (capacity : Nat) : Serving capacity [] (.empty capacity) where
  capacity := rfl
  literals := List.take_nil.symm
  hits := rfl
  calls := rfl

/-- **One call** keeps a cache in step with the calls it has served. -/
theorem Serving.read {room : Nat} {used : List String} {cache : IntervalCache}
    (serving : Serving room used cache) (literal : String) :
    Serving room (used ++ [literal]) (cache.read literal).2 where
  capacity := (cache.capacity_read literal).trans serving.capacity
  literals := by rw [literals_read, keptOf_append_singleton, serving.literals, serving.capacity]
  hits := by rw [hits_read, hitsOf_append_singleton, serving.literals, serving.hits]
  calls := by rw [calls_read, serving.calls, List.length_append, List.length_singleton]

/-- Every list of calls is answered as by reading its literals, and leaves a cache in step with
it. -/
theorem readAll_empty (capacity : Nat) (used : List String) :
    ((empty capacity).readAll used).1 = used.map Interval.parse ∧
      Serving capacity used ((empty capacity).readAll used).2 := by
  induction used using List.reverseRecOn with
  | nil => exact ⟨rfl, .empty capacity⟩
  | append_singleton used literal ih =>
    obtain ⟨answers, serving⟩ := ih
    rw [readAll_append, List.map_append, answers]
    refine ⟨?_, serving.read literal⟩
    show used.map Interval.parse ++ [(_ : IntervalCache).read literal |>.1] = _
    rw [read_fst]
    rfl

/-- **A cache cannot be told from reading, and keeps the literals used last.** After any list of
calls to a new cache, each call was answered as by reading its literal. The cache holds the literals
that could be read and were used last, as many as there are but no more than its capacity, and at
least one. Each call was a hit or a miss, and a hit if its literal was held when the call was
made. -/
theorem cache_transparent (capacity : Nat) (used : List String) :
    ((empty capacity).readAll used).1 = used.map Interval.parse ∧
    ((empty capacity).readAll used).2.literals = (byLastUse used).take (max capacity 1) ∧
    ((empty capacity).readAll used).2.size = min (max capacity 1) (byLastUse used).length ∧
    ((empty capacity).readAll used).2.hits = hitsOf capacity used ∧
    ((empty capacity).readAll used).2.hits + ((empty capacity).readAll used).2.misses =
      used.length := by
  obtain ⟨answers, serving⟩ := readAll_empty capacity used
  refine ⟨answers, serving.literals, ?_, serving.hits, serving.calls⟩
  have kept := congrArg List.length serving.literals
  rwa [literals, List.length_map, keptOf, List.length_take] at kept

end IntervalCache

end CatalogSchema
