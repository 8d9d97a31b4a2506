/-
**A bounded cache of interval literals.**

The cache keeps the most recently used literals that could be read, newest first, and drops the
oldest when it is full. It counts the lookups that found their literal and those that did not; the
counts have no bound, and up to `2 ^ 64` lookups they are what a counter of 64 bits shows. A
malformed literal is not kept.

* `read_fst`: a lookup answers as `Interval.parse` does, whatever the cache holds.
-/

import CatalogSchema.Conversion.Interval

namespace CatalogSchema

/-- The literals used last, with what they denote. -/
structure IntervalCache where
  /-- The most literals that are kept. -/
  capacity : Nat
  /-- Literals and their intervals, the one used last first. -/
  recent : List (String × Interval)
  /-- The lookups that found their literal, without a bound. -/
  hits : Nat
  /-- The lookups that did not, without a bound. -/
  misses : Nat
  faithful : ∀ entry ∈ recent, Interval.parse entry.1 = .ok entry.2

namespace IntervalCache

/-- The empty cache; there is room for one literal at least. -/
def empty (capacity : Nat) : IntervalCache := ⟨max capacity 1, [], 0, 0, by simp⟩

/-- The number of literals kept. -/
def size (cache : IntervalCache) : Nat := cache.recent.length

/-- Keeps a literal as the one used last and drops the oldest if there is no room. -/
def remember (cache : IntervalCache) (literal : String) (interval : Interval)
    (parsed : Interval.parse literal = .ok interval) : IntervalCache :=
  { cache with
    recent := ((literal, interval) :: cache.recent.filter fun entry => entry.1 ≠ literal).take
      cache.capacity
    faithful := fun entry found => by
      rcases List.mem_cons.1 (List.mem_of_mem_take found) with rfl | found
      · exact parsed
      · exact cache.faithful entry (List.mem_filter.1 found).1 }

/-- Counts a lookup that found its literal. -/
def countHit (cache : IntervalCache) : IntervalCache := { cache with hits := cache.hits + 1 }

/-- Counts a lookup that did not find its literal. -/
def countMiss (cache : IntervalCache) : IntervalCache := { cache with misses := cache.misses + 1 }

/-- The entry of a literal. -/
def lookup (cache : IntervalCache) (literal : String) : Option (String × Interval) :=
  cache.recent.find? fun entry => entry.1 = literal

theorem parse_of_lookup {cache : IntervalCache} {literal : String} {entry : String × Interval}
    (found : cache.lookup literal = some entry) : Interval.parse literal = .ok entry.2 := by
  have same : entry.1 = literal := by simpa using List.find?_some found
  exact same ▸ cache.faithful entry (List.mem_of_find?_eq_some found)

/-- Looks a literal up, reads it if it is not kept, and keeps it as the one used last. -/
def read (cache : IntervalCache) (literal : String) : Conversion Interval × IntervalCache :=
  match found : cache.lookup literal with
  | some entry =>
    (.ok entry.2, cache.countHit.remember literal entry.2 (parse_of_lookup found))
  | none =>
    match parsed : Interval.parse literal with
    | .ok interval => (.ok interval, cache.countMiss.remember literal interval parsed)
    | .error error => (.error error, cache.countMiss)

/-- A lookup answers as reading the literal does. -/
theorem read_fst (cache : IntervalCache) (literal : String) :
    (cache.read literal).1 = Interval.parse literal := by
  unfold read
  split
  · rename_i entry found
    exact (parse_of_lookup found).symm
  · split
    · rename_i parsed
      exact parsed.symm
    · rename_i parsed
      exact parsed.symm

end IntervalCache

end CatalogSchema
