/-
**Intervals that were read are written and read again.**

* `Interval.InRange`: the whole components are 64-bit integers; every reader gives such an interval.
* `ofJson_toJson`: the object of such an interval denotes an interval with the same object.
-/

import CatalogSchema.Proofs.Conversion.IntervalSums
import CatalogSchema.Proofs.Conversion.Numbers

namespace CatalogSchema

open Number Text

namespace Interval

/-- The whole components are signed 64-bit integers. -/
structure InRange (interval : Interval) : Prop where
  minutes : int64? interval.minutes = some interval.minutes
  hours : int64? interval.hours = some interval.hours
  days : int64? interval.days = some interval.days
  months : int64? interval.months = some interval.months
  years : int64? interval.years = some interval.years

/-! ### Literals -/

/-- **A literal denotes an interval in range.** -/
theorem inRange_of_parse {literal : String} {interval : Interval}
    (parsed : parse literal = .ok interval) :
    interval.InRange := by
  have read := parse_eq_ok_iff.1 parsed
  obtain ⟨ago, components, spells⟩ := exists_spells read
  rw [spells.parse?_eq] at read
  obtain ⟨inRange, same⟩ := settled_iff.1 read
  have fits (part : Part) : int64? (interval.part part) = some (interval.part part) := by
    obtain ⟨fits, sum⟩ := inRange.part_settled part
    rw [same, sum]
    exact int64?_eq_some_iff.2 ⟨fits, rfl⟩
  exact ⟨fits .minutes, fits .hours, fits .days, fits .months, fits .years⟩

/-! ### Objects -/

/-- The object of components, its members by increasing key. -/
def object (seconds minutes hours days months years : Json) : Json :=
  .object [("days", days), ("hours", hours), ("minutes", minutes), ("months", months),
    ("seconds", seconds), ("years", years)]

theorem ofMembers_components (seconds minutes hours days months years : Json) :
    Json.ofMembers [("seconds", seconds), ("minutes", minutes), ("hours", hours), ("days", days),
      ("months", months), ("years", years)] = object seconds minutes hours days months years := by
  simp only [Json.ofMembers, SortedMap.ofList, SortedMap.insertMany, List.foldl_cons,
    List.foldl_nil, SortedMap.insert, SortedMap.insertEntry, SortedMap.empty, String.reduceLT,
    if_true, if_false, object]

theorem toJson_eq (interval : Interval) :
    interval.toJson = (fun seconds =>
      object seconds (.ofInt interval.minutes) (.ofInt interval.hours)
      (.ofInt interval.days) (.ofInt interval.months) (.ofInt interval.years)) <$>
        jsonOfBinary64 interval.seconds := by
  unfold toJson
  simp only [ofMembers_components]
  cases jsonOfBinary64 interval.seconds <;> rfl

theorem recordFields?_object (seconds minutes hours days months years : Json) :
    (object seconds minutes hours days months years).toTree.recordFields? true
        ["seconds", "minutes", "hours", "days", "months", "years"] =
      some [some seconds.toTree, some minutes.toTree, some hours.toTree, some days.toTree,
        some months.toTree, some years.toTree] := by
  simp [object, Json.toTree, Json.memberTrees, JsonTree.recordFields?, JsonTree.memberOnce?]

theorem int64?_ofInt {value : Int} (fits : int64? value = some value) :
    JsonTree.int64? (Json.ofInt value).toTree = some value := fits

/-- A number in normal form is read as a number of this normal form. -/
theorem exists_finite?_ofNumber (value : Finite) :
    ∃ again, JsonTree.finite? (Json.ofNumber value).toTree = some again ∧
      Json.ofNumber again = Json.ofNumber value := by
  rcases Json.ofNumber_cases value with ⟨integer, form, reads⟩ | form
  · refine ⟨value.plainZero, ?_, Json.ofNumber_plainZero value⟩
    rw [form, Json.ofInt, Json.toTree, JsonTree.finite?, reads]
    rfl
  · refine ⟨value, ?_, rfl⟩
    rw [form]
    rfl

/-- **The object of an interval in range denotes an interval with the same object.** -/
theorem ofJson_toJson {interval : Interval} (inRange : interval.InRange) {value : Json}
    (written : interval.toJson = .ok value) :
    ∃ members again, value = .object members ∧ ofJson value = .ok again ∧
      again.toJson = .ok value := by
  rw [toJson_eq] at written
  cases finite : interval.seconds with
  | finite seconds =>
    obtain ⟨again, read, same⟩ := exists_finite?_ofNumber seconds
    rw [finite] at written
    cases written
    refine ⟨_, { interval with seconds := .finite again }, rfl, ?_, ?_⟩
    · unfold ofJson ofTree?
      rw [recordFields?_object]
      simp only [Option.bind_eq_bind, Option.bind_some, JsonTree.fieldOr, read,
        int64?_ofInt inRange.minutes, int64?_ofInt inRange.hours, int64?_ofInt inRange.days,
        int64?_ofInt inRange.months, int64?_ofInt inRange.years, Option.pure_def]
    · rw [toJson_eq]
      simp only [jsonOfBinary64, same]
      rfl
  | infinite negative =>
    rw [finite] at written
    cases written
  | notANumber =>
    rw [finite] at written
    cases written

theorem int64?_of_fieldOr {field : Option JsonTree} {value : Int}
    (read : JsonTree.fieldOr 0 JsonTree.int64? field = some value) : int64? value = some value := by
  cases field with
  | none =>
    cases read
    rfl
  | some tree =>
    obtain ⟨integer, -, fits⟩ := Option.bind_eq_some_iff.1 read
    exact int64?_self fits

/-- **An object denotes an interval in range.** -/
theorem inRange_of_ofJson {value : Json} {interval : Interval}
    (read : ofJson value = .ok interval) :
    interval.InRange := by
  have tree : ofTree? value.toTree = some interval := by
    unfold ofJson at read
    split at read <;> cases read
    assumption
  unfold ofTree? at tree
  simp only [Option.bind_eq_bind, Option.bind_eq_some_iff] at tree
  obtain ⟨fields, -, tree⟩ := tree
  split at tree
  · simp only [Option.bind_eq_some_iff, Option.pure_def, Option.some.injEq] at tree
    obtain ⟨_, -, minutes, readMinutes, hours, readHours, days, readDays, months, readMonths,
      years, readYears, rfl⟩ := tree
    exact ⟨int64?_of_fieldOr readMinutes, int64?_of_fieldOr readHours, int64?_of_fieldOr readDays,
      int64?_of_fieldOr readMonths, int64?_of_fieldOr readYears⟩
  · cases tree

/-- The interval of a literal or an object. -/
def ofValue : Json → Conversion Interval
  | .string literal => parse literal
  | .object members => ofJson (.object members)
  | other => .error (.shape .interval other)

theorem inRange_of_ofValue {value : Json} {interval : Interval}
    (read : ofValue value = .ok interval) :
    interval.InRange := by
  cases value with
  | string literal => exact inRange_of_parse read
  | object members => exact inRange_of_ofJson read
  | _ => cases read

end Interval

end CatalogSchema
