/-
**The components of an interval are added up without wrapping.**

Every step of reading an interval is checked. What comes out of it is therefore the sum in unbounded
arithmetic, and where a step leaves the signed 64-bit range nothing comes out.

* `Component.share`, `total`: what a component adds to a part, and the unbounded sum of components.
* `addComponent?_eq_some_iff`: a component is added if all that is computed for it stays in range.
* `accumulate?_eq_some_iff`: so components are added up exactly if every partial sum stays in range.
* `parse_never_wraps`: the same for the components that a literal spells.
-/

import CatalogSchema.Proofs.Conversion.IntervalNotation
import Mathlib.Algebra.Ring.Int.Defs
import Mathlib.Data.List.Induction
import Mathlib.Data.List.Infix

namespace CatalogSchema

open Number Text

/-! ### Integers and seconds -/

namespace Number

/-- Holds of the signed 64-bit integers. -/
def IsInt64 (value : Int) : Prop := -(Nat.pow 2 63 : Int) ≤ value ∧ value < Nat.pow 2 63

instance (value : Int) : Decidable (IsInt64 value) := inferInstanceAs (Decidable (_ ∧ _))

theorem int64?_eq_some_iff {value result : Int} :
    int64? value = some result ↔ IsInt64 value ∧ result = value := by
  unfold int64?
  split
  · rename_i fits
    exact ⟨fun same => ⟨fits, (Option.some.inj same).symm⟩, fun same => congrArg some same.2.symm⟩
  · rename_i beyond
    exact ⟨nofun, fun same => absurd same.1 beyond⟩

namespace Binary64

/-- A number is an integer, without a fraction. -/
def IsExactly (value : Binary64) (integer : Int) : Prop :=
  ∃ number : Finite, value = .finite number ∧ number.signedUnits = integer * unitsPerOne

/-- The integer part of a number; special values have none. -/
def integerPart : Binary64 → Int
  | .finite number => number.truncate
  | .infinite _ | .notANumber => 0

/-- The sum of two numbers, the special values among them. -/
def plus : Binary64 → Binary64 → Binary64
  | .finite first, .finite second => first.add second
  | .finite _, special => special
  | .infinite negative, .infinite other =>
    if negative = other then .infinite negative else .notANumber
  | .infinite negative, .finite _ => .infinite negative
  | _, _ => .notANumber

/-- The quotient of a number by a count; special values stay what they are. -/
def divideBy (divisor : Nat) : Binary64 → Binary64
  | .finite number => number.divide divisor
  | special => special

/-- **A sum is finite** only if both terms are. -/
theorem plus_eq_finite_iff {first second : Binary64} {total : Finite} :
    first.plus second = .finite total ↔
      ∃ front back : Finite, first = .finite front ∧ second = .finite back ∧
        front.add back = .finite total := by
  constructor
  · intro sum
    unfold plus at sum
    split at sum
    · exact ⟨_, _, rfl, rfl, sum⟩
    · rename_i special
      exact absurd sum (special total)
    · split at sum <;> cases sum
    · cases sum
    · cases sum
  · rintro ⟨front, back, rfl, rfl, sum⟩
    exact sum

end Binary64

/-- A whole number is its integer part. -/
theorem Finite.isWhole_iff {number : Finite} :
    number.isWhole = true ↔ (Binary64.finite number).IsExactly number.truncate := by
  constructor
  · intro whole
    have exact : number.units / unitsPerOne * unitsPerOne = number.units :=
      Nat.div_mul_cancel (Nat.dvd_of_mod_eq_zero (of_decide_eq_true whole))
    refine ⟨number, rfl, ?_⟩
    unfold signedUnits truncate
    split
    · rw [Int.neg_mul, ← Int.natCast_mul, exact]
    · rw [← Int.natCast_mul, exact]
  · rintro ⟨_, ⟨⟩, same⟩
    have magnitude : number.units = number.units / unitsPerOne * unitsPerOne := by
      have absolute := congrArg Int.natAbs same
      rw [Int.natAbs_mul] at absolute
      unfold signedUnits truncate at absolute
      split at absolute <;> simpa only [Int.natAbs_neg, Int.natAbs_natCast] using absolute
    refine decide_eq_true ?_
    rw [magnitude, Nat.mul_mod_left]

end Number

namespace Interval

/-! ### What a component adds -/

/-- The whole parts of an interval. -/
inductive Part where
  | minutes
  | hours
  | days
  | months
  | years
  deriving DecidableEq

/-- The count of a whole part. -/
def part (interval : Interval) : Part → Int
  | .minutes => interval.minutes
  | .hours => interval.hours
  | .days => interval.days
  | .months => interval.months
  | .years => interval.years

/-- An interval is its whole parts and its seconds. -/
theorem ext_part {first second : Interval} (seconds : first.seconds = second.seconds)
    (parts : ∀ part, first.part part = second.part part) : first = second := by
  obtain ⟨_, _, _, _, _, _⟩ := first
  obtain ⟨_, _, _, _, _, _⟩ := second
  cases seconds
  cases parts .minutes
  cases parts .hours
  cases parts .days
  cases parts .months
  cases parts .years
  rfl

/-- The interval with another count of a whole part. -/
def withPart (interval : Interval) (count : Int) : Part → Interval
  | .minutes => { interval with minutes := count }
  | .hours => { interval with hours := count }
  | .days => { interval with days := count }
  | .months => { interval with months := count }
  | .years => { interval with years := count }

theorem seconds_withPart (interval : Interval) (count : Int) (changed : Part) :
    (interval.withPart count changed).seconds = interval.seconds := by
  cases changed <;> rfl

theorem part_withPart (interval : Interval) (count : Int) (changed part : Part) :
    (interval.withPart count changed).part part =
      if changed = part then count else interval.part part := by
  cases changed <;> cases part <;> rfl

theorem part_withSeconds (interval : Interval) (seconds : Binary64) (part : Part) :
    Interval.part { interval with seconds } part = interval.part part := by
  cases part <;> rfl

end Interval

/-- The whole part in which a unit is counted, and how many of it are one of the unit. -/
def IntervalUnit.part? : IntervalUnit → Option (Interval.Part × Int)
  | .years => some (.years, 1)
  | .months => some (.months, 1)
  | .weeks => some (.days, 7)
  | .days => some (.days, 1)
  | .hours => some (.hours, 1)
  | .minutes => some (.minutes, 1)
  | .seconds | .milliseconds | .microseconds => none

/-- An amount of a unit in seconds, unless the unit is counted in a whole part. -/
def IntervalUnit.inSeconds? (amount : Binary64) : IntervalUnit → Option Binary64
  | .seconds => some amount
  | .milliseconds => some (amount.divideBy 1000)
  | .microseconds => some (amount.divideBy 1000000)
  | .years | .months | .weeks | .days | .hours | .minutes => none

namespace Interval

/-- The factor of a sign. -/
def signOf (negative : Bool) : Int := if negative then -1 else 1

namespace Component

/-- What a component adds to a whole part, in unbounded arithmetic. -/
def share (part : Part) : Component → Int
  | .amount value unit =>
    match unit.part? with
    | some (counted, scale) => if counted = part then value.integerPart * scale else 0
    | none => 0
  | .clock negative hours minutes _ =>
    match part with
    | .hours => hours * signOf negative
    | .minutes => minutes * signOf negative
    | .days | .months | .years => 0

/-- The seconds that a component adds, if it adds any. -/
def seconds? : Component → Option Binary64
  | .amount value unit => unit.inSeconds? value
  | .clock negative _ _ seconds => some (if negative then seconds.negate else seconds)

/-- What is computed for a component alone is in range: an amount that is counted in a whole part is
an integer, and stays in range when it is scaled; the counts of a clock stay in range under its
sign. -/
def Fits : Component → Prop
  | .amount value unit => ∀ counted scale, unit.part? = some (counted, scale) →
      value.IsExactly value.integerPart ∧ IsInt64 value.integerPart ∧
        IsInt64 (value.integerPart * scale)
  | .clock negative hours minutes _ =>
    IsInt64 (hours * signOf negative) ∧ IsInt64 (minutes * signOf negative)

end Component

/-- The interval with a component added, in unbounded arithmetic; only sums of seconds are
rounded. -/
def plus (interval : Interval) (component : Component) : Interval where
  seconds := match component.seconds? with
    | some seconds => interval.seconds.plus seconds
    | none => interval.seconds
  minutes := interval.minutes + component.share .minutes
  hours := interval.hours + component.share .hours
  days := interval.days + component.share .days
  months := interval.months + component.share .months
  years := interval.years + component.share .years

@[simp] theorem part_plus (interval : Interval) (component : Component) (part : Part) :
    (interval.plus component).part part = interval.part part + component.share part := by
  cases part <;> rfl

section Seconds

variable {interval : Interval} {component : Component}

theorem seconds_plus_of_none (adds : component.seconds? = none) :
    (interval.plus component).seconds = interval.seconds := by
  unfold plus
  rw [adds]

theorem seconds_plus_of_some {seconds : Binary64} (adds : component.seconds? = some seconds) :
    (interval.plus component).seconds = interval.seconds.plus seconds := by
  unfold plus
  rw [adds]

end Seconds

/-! ### Adding a component -/

theorem addSeconds?_eq_some_iff {interval result : Interval} {amount : Binary64} :
    interval.addSeconds? amount = some result ↔
      ∃ total, interval.seconds.plus amount = .finite total ∧
        result = { interval with seconds := .finite total } := by
  unfold addSeconds?
  constructor
  · intro added
    split at added
    · rename_i front back first
      split at added
      · rename_i total sum
        cases added
        exact ⟨total, Binary64.plus_eq_finite_iff.2 ⟨front, back, first, rfl, sum⟩, rfl⟩
      · cases added
    · cases added
  · rintro ⟨total, sum, rfl⟩
    obtain ⟨front, back, first, rfl, added⟩ := Binary64.plus_eq_finite_iff.1 sum
    rw [first]
    dsimp only
    rw [added]

theorem addWhole?_eq_some_iff {count result : Int} {amount : Finite} {scale : Int} :
    addWhole? count amount scale = some result ↔
      ((Binary64.finite amount).IsExactly amount.truncate ∧ IsInt64 amount.truncate ∧
        IsInt64 (amount.truncate * scale)) ∧
        IsInt64 (count + amount.truncate * scale) ∧ result = count + amount.truncate * scale := by
  unfold addWhole? whole?
  simp only [Option.bind_eq_bind, Option.bind_eq_some_iff, Option.ite_none_right_eq_some,
    int64?_eq_some_iff, Finite.isWhole_iff]
  constructor
  · rintro ⟨_, ⟨whole, fits, rfl⟩, _, ⟨scaled, rfl⟩, sum, rfl⟩
    exact ⟨⟨whole, fits, scaled⟩, sum, rfl⟩
  · rintro ⟨⟨whole, fits, scaled⟩, sum, rfl⟩
    exact ⟨_, ⟨whole, fits, rfl⟩, _, ⟨scaled, rfl⟩, sum, rfl⟩

theorem addComponent?_finite (interval : Interval) (number : Finite) (unit : IntervalUnit) :
    interval.addComponent? (.amount (.finite number) unit) = interval.addAmount? number unit := rfl

theorem exists_finite_of_addComponent? {interval result : Interval} {value : Binary64}
    {unit : IntervalUnit} (added : interval.addComponent? (.amount value unit) = some result) :
    ∃ number : Finite, value = .finite number := by
  obtain ⟨number, finite, -⟩ := Option.bind_eq_some_iff.1 added
  exact ⟨number, eq_finite_of_finite? finite⟩

/-- An amount of a unit that is counted in a whole part changes this part. -/
theorem addAmount?_of_part? {unit : IntervalUnit} {counted : Part} {scale : Int}
    (whole : unit.part? = some (counted, scale)) (interval : Interval) (amount : Finite) :
    interval.addAmount? amount unit =
      (addWhole? (interval.part counted) amount scale).map (interval.withPart · counted) := by
  cases unit <;> cases whole <;> rfl

/-- An amount of another unit changes the seconds. -/
theorem addAmount?_of_inSeconds? {unit : IntervalUnit} {amount : Finite} {seconds : Binary64}
    (other : unit.inSeconds? (.finite amount) = some seconds) (interval : Interval) :
    interval.addAmount? amount unit = interval.addSeconds? seconds := by
  cases unit with
  | seconds | milliseconds | microseconds =>
    obtain rfl := Option.some.inj other
    rfl
  | _ => cases other

/-- A unit is counted in a whole part or in seconds. -/
theorem part?_or_inSeconds? (unit : IntervalUnit) (amount : Binary64) :
    (∃ counted scale, unit.part? = some (counted, scale) ∧ unit.inSeconds? amount = none) ∨
      unit.part? = none ∧ ∃ seconds, unit.inSeconds? amount = some seconds := by
  cases unit with
  | seconds | milliseconds | microseconds => exact .inr ⟨rfl, _, rfl⟩
  | _ => exact .inl ⟨_, _, rfl, rfl⟩

/-- All that an interval holds is in range. -/
structure Holds (interval : Interval) : Prop where
  parts : ∀ part, IsInt64 (interval.part part)
  seconds : ∃ amount, interval.seconds = .finite amount

/-- A component that is counted in a whole part changes this part only. -/
theorem plus_eq_withPart {interval : Interval} {value : Binary64} {unit : IntervalUnit}
    {counted : Part} {scale : Int} (whole : unit.part? = some (counted, scale))
    (noSeconds : unit.inSeconds? value = none) :
    interval.plus (.amount value unit) =
      interval.withPart (interval.part counted + value.integerPart * scale) counted := by
  refine ext_part ?_ fun part => ?_
  · have adds : (Component.amount value unit).seconds? = none := noSeconds
    rw [seconds_withPart, seconds_plus_of_none adds]
  · rw [part_withPart, part_plus, Component.share, whole]
    dsimp only
    split
    · rename_i same
      rw [same]
    · rw [Int.add_zero]

/-- A component that is counted in seconds changes the seconds only. -/
theorem plus_eq_withSeconds {interval : Interval} {value seconds : Binary64} {unit : IntervalUnit}
    (noPart : unit.part? = none) (adds : unit.inSeconds? value = some seconds) :
    interval.plus (.amount value unit) =
      { interval with seconds := interval.seconds.plus seconds } := by
  refine ext_part (seconds_plus_of_some adds) fun part => ?_
  rw [part_plus, part_withSeconds, Component.share, noPart]
  exact Int.add_zero _

theorem Holds.withPart {interval : Interval} (holds : interval.Holds) {count : Int}
    (fits : IsInt64 count) (changed : Part) : (interval.withPart count changed).Holds := by
  refine ⟨fun part => ?_, ?_⟩
  · rw [part_withPart]
    split
    · exact fits
    · exact holds.parts part
  · rw [seconds_withPart]
    exact holds.seconds

theorem Holds.withSeconds {interval : Interval} (holds : interval.Holds) (seconds : Finite) :
    Holds { interval with seconds := .finite seconds } :=
  ⟨fun part => by rw [part_withSeconds]; exact holds.parts part, seconds, rfl⟩

/-- An amount in seconds is finite only if the amount is. -/
theorem exists_finite_of_inSeconds? {unit : IntervalUnit} {value : Binary64} {seconds : Finite}
    (adds : unit.inSeconds? value = some (.finite seconds)) :
    ∃ number : Finite, value = .finite number := by
  cases value with
  | finite number => exact ⟨number, rfl⟩
  | infinite negative => cases unit <;> cases adds
  | notANumber => cases unit <;> cases adds

section Step

variable {interval result : Interval} (holds : interval.Holds)

include holds

/-- An amount that is counted in a whole part is added if it is an integer and nothing leaves the
range. -/
theorem addComponent?_whole {value : Binary64} {unit : IntervalUnit} {counted : Part} {scale : Int}
    (whole : unit.part? = some (counted, scale)) (noSeconds : unit.inSeconds? value = none) :
    interval.addComponent? (.amount value unit) = some result ↔
      (Component.amount value unit).Fits ∧ (interval.plus (.amount value unit)).Holds ∧
        result = interval.plus (.amount value unit) := by
  have sum : (interval.plus (.amount value unit)).part counted =
      interval.part counted + value.integerPart * scale := by
    rw [plus_eq_withPart whole noSeconds, part_withPart, if_pos rfl]
  constructor
  · intro added
    obtain ⟨number, rfl⟩ := exists_finite_of_addComponent? added
    rw [addComponent?_finite, addAmount?_of_part? whole] at added
    obtain ⟨count, counts, rfl⟩ := Option.map_eq_some_iff.1 added
    obtain ⟨fits, inRange, rfl⟩ := addWhole?_eq_some_iff.1 counts
    rw [plus_eq_withPart whole noSeconds]
    refine ⟨fun other factor same => ?_, holds.withPart inRange counted, rfl⟩
    rw [whole] at same
    cases same
    exact fits
  · rintro ⟨fits, sums, rfl⟩
    have fits := fits counted scale whole
    have inRange := sums.parts counted
    rw [sum] at inRange
    obtain ⟨number, rfl, -⟩ := fits.1
    rw [addComponent?_finite, addAmount?_of_part? whole, plus_eq_withPart whole noSeconds]
    exact Option.map_eq_some_iff.2 ⟨_, addWhole?_eq_some_iff.2 ⟨fits, inRange, rfl⟩, rfl⟩

/-- An amount that is counted in seconds is added if the sum of seconds is finite. -/
theorem addComponent?_seconds {value seconds : Binary64} {unit : IntervalUnit}
    (noPart : unit.part? = none) (adds : unit.inSeconds? value = some seconds) :
    interval.addComponent? (.amount value unit) = some result ↔
      (Component.amount value unit).Fits ∧ (interval.plus (.amount value unit)).Holds ∧
        result = interval.plus (.amount value unit) := by
  have fits : (Component.amount value unit).Fits := fun _ _ same => by
    rw [noPart] at same
    cases same
  rw [plus_eq_withSeconds noPart adds]
  constructor
  · intro added
    obtain ⟨number, rfl⟩ := exists_finite_of_addComponent? added
    rw [addComponent?_finite, addAmount?_of_inSeconds? adds] at added
    obtain ⟨total, sum, rfl⟩ := addSeconds?_eq_some_iff.1 added
    rw [sum]
    exact ⟨fits, holds.withSeconds total, rfl⟩
  · rintro ⟨-, ⟨-, total, sum⟩, rfl⟩
    obtain ⟨_, amount, -, rfl, -⟩ := Binary64.plus_eq_finite_iff.1 sum
    obtain ⟨number, rfl⟩ := exists_finite_of_inSeconds? adds
    rw [addComponent?_finite, addAmount?_of_inSeconds? adds]
    exact addSeconds?_eq_some_iff.2
      ⟨total, sum, congrArg (fun seconds => { interval with seconds }) sum⟩

/-- A clock is added if its counts stay in range under its sign, and all sums do. -/
theorem addComponent?_clock {negative : Bool} {hours minutes : Int} {seconds : Binary64} :
    interval.addComponent? (.clock negative hours minutes seconds) = some result ↔
      (Component.clock negative hours minutes seconds).Fits ∧
        (interval.plus (.clock negative hours minutes seconds)).Holds ∧
        result = interval.plus (.clock negative hours minutes seconds) := by
  have parts : interval.plus (.clock negative hours minutes seconds) =
      { interval with
        hours := interval.hours + hours * signOf negative
        minutes := interval.minutes + minutes * signOf negative
        seconds := interval.seconds.plus (if negative then seconds.negate else seconds) } :=
    ext_part rfl fun part => by cases part <;> first | rfl | exact Int.add_zero _
  rw [parts]
  simp only [addComponent?, Option.bind_eq_bind, Option.bind_eq_some_iff, int64?_eq_some_iff,
    addSeconds?_eq_some_iff]
  constructor
  · rintro ⟨_, ⟨signedHours, rfl⟩, _, ⟨sumHours, rfl⟩, _, ⟨signedMinutes, rfl⟩,
      _, ⟨sumMinutes, rfl⟩, total, sum, rfl⟩
    refine ⟨⟨signedHours, signedMinutes⟩, ⟨fun part => ?_, total, sum⟩, ?_⟩
    · cases part with
      | hours => exact sumHours
      | minutes => exact sumMinutes
      | days => exact holds.parts .days
      | months => exact holds.parts .months
      | years => exact holds.parts .years
    · rw [sum]
      rfl
  · rintro ⟨⟨signedHours, signedMinutes⟩, ⟨sums, total, sum⟩, rfl⟩
    refine ⟨_, ⟨signedHours, rfl⟩, _, ⟨sums .hours, rfl⟩, _, ⟨signedMinutes, rfl⟩,
      _, ⟨sums .minutes, rfl⟩, total, sum, ?_⟩
    dsimp only at sum
    rw [sum]
    rfl

/-- **A component is added** exactly if what is computed for it alone and all sums stay in range. -/
theorem addComponent?_eq_some_iff {component : Component} :
    interval.addComponent? component = some result ↔
    component.Fits ∧ (interval.plus component).Holds ∧ result = interval.plus component := by
  cases component with
  | amount value unit =>
    rcases part?_or_inSeconds? unit value with ⟨counted, scale, whole, noSeconds⟩ |
      ⟨noPart, seconds, adds⟩
    · exact addComponent?_whole holds whole noSeconds
    · exact addComponent?_seconds holds noPart adds
  | clock negative hours minutes seconds => exact addComponent?_clock holds

end Step

/-! ### Adding all components -/

/-- The sum of components, in unbounded arithmetic; only sums of seconds are rounded. -/
def total (components : List Component) : Interval := components.foldl plus zero

theorem total_concat (components : List Component) (component : Component) :
    total (components ++ [component]) = (total components).plus component := List.foldl_concat ..

/-- **A part of the sum** is the sum of what the components add to it. -/
theorem part_total (components : List Component) (part : Part) :
    (total components).part part = (components.map (Component.share part)).sum := by
  induction components using List.reverseRecOn with
  | nil => cases part <;> rfl
  | append_singleton components component ih =>
    rw [total_concat, part_plus, ih, List.map_append, List.sum_append, List.map_singleton,
      List.sum_singleton]

/-- What is computed when components are added up stays in range: for each component alone, and in
the sum of those that were added before. -/
structure InBounds (components : List Component) : Prop where
  each : ∀ component ∈ components, component.Fits
  sums : ∀ before, before <+: components → ∀ part, IsInt64 ((before.map (Component.share part)).sum)
  seconds : ∀ before, before <+: components → ∃ amount, (total before).seconds = .finite amount

theorem InBounds.holds {components : List Component} (bounds : InBounds components) :
    (total components).Holds :=
  ⟨fun part => part_total components part ▸ bounds.sums components (List.prefix_refl _) part,
    bounds.seconds components (List.prefix_refl _)⟩

theorem inBounds_nil : InBounds [] where
  each := List.forall_mem_nil _
  sums before first part := by
    rw [List.prefix_nil.1 first]
    exact (by decide : IsInt64 0)
  seconds before first := by
    rw [List.prefix_nil.1 first]
    exact ⟨_, rfl⟩

/-- One more component stays in range if it fits and the sums with it are in range. -/
theorem inBounds_concat_iff {components : List Component} {component : Component} :
    InBounds (components ++ [component]) ↔
      InBounds components ∧ component.Fits ∧ (total (components ++ [component])).Holds := by
  constructor
  · intro bounds
    have earlier : components <+: components ++ [component] := List.prefix_append ..
    exact ⟨⟨fun other listed => bounds.each other (List.mem_append_left _ listed),
        fun before first => bounds.sums before (first.trans earlier),
        fun before first => bounds.seconds before (first.trans earlier)⟩,
      bounds.each component (List.mem_append_right _ (List.mem_singleton_self _)), bounds.holds⟩
  · rintro ⟨bounds, fits, holds⟩
    refine ⟨List.forall_mem_append.2 ⟨bounds.each, List.forall_mem_singleton.2 fits⟩,
      fun before first => ?_, fun before first => ?_⟩
    · rcases List.prefix_concat_iff.1 first with rfl | earlier
      · exact fun part => part_total _ part ▸ holds.parts part
      · exact bounds.sums before earlier
    · rcases List.prefix_concat_iff.1 first with rfl | earlier
      · exact holds.seconds
      · exact bounds.seconds before earlier

/-- **Components are added up** to their sum, exactly if all that is computed for it stays in
range. -/
theorem accumulate?_eq_some_iff {components : List Component} {result : Interval} :
    accumulate? components = some result ↔ InBounds components ∧ result = total components := by
  induction components using List.reverseRecOn generalizing result with
  | nil =>
    refine ⟨fun same => ⟨inBounds_nil, (Option.some.inj same).symm⟩, ?_⟩
    rintro ⟨-, rfl⟩
    rfl
  | append_singleton components component ih =>
    have step : accumulate? (components ++ [component]) =
        (accumulate? components).bind fun interval => interval.addComponent? component := by
      unfold accumulate?
      rw [List.foldlM_append]
      simp
    rw [step, Option.bind_eq_some_iff, inBounds_concat_iff, total_concat]
    constructor
    · rintro ⟨interval, before, added⟩
      obtain ⟨bounds, rfl⟩ := ih.1 before
      obtain ⟨fits, holds, rfl⟩ := (addComponent?_eq_some_iff bounds.holds).1 added
      exact ⟨⟨bounds, fits, holds⟩, rfl⟩
    · rintro ⟨⟨bounds, fits, holds⟩, rfl⟩
      exact ⟨_, ih.2 ⟨bounds, rfl⟩, (addComponent?_eq_some_iff bounds.holds).2 ⟨fits, holds, rfl⟩⟩

/-! ### Turning the signs -/

/-- The interval with all signs turned, in unbounded arithmetic. -/
def turned (interval : Interval) : Interval where
  seconds := interval.seconds.negate
  minutes := -interval.minutes
  hours := -interval.hours
  days := -interval.days
  months := -interval.months
  years := -interval.years

theorem part_turned (interval : Interval) (part : Part) :
    interval.turned.part part = -interval.part part := by
  cases part <;> rfl

/-- **Signs are turned** exactly if all parts stay in range. -/
theorem negate?_eq_some_iff {interval result : Interval} :
    interval.negate? = some result ↔ (∀ part, IsInt64 (-interval.part part)) ∧
      result = interval.turned := by
  simp only [negate?, Option.bind_eq_bind, Option.bind_eq_some_iff, int64?_eq_some_iff,
    Option.pure_def, Option.some.injEq]
  constructor
  · rintro ⟨_, ⟨minutes, rfl⟩, _, ⟨hours, rfl⟩, _, ⟨days, rfl⟩, _, ⟨months, rfl⟩,
      _, ⟨years, rfl⟩, rfl⟩
    refine ⟨fun part => ?_, rfl⟩
    cases part with
    | minutes => exact minutes
    | hours => exact hours
    | days => exact days
    | months => exact months
    | years => exact years
  · rintro ⟨parts, rfl⟩
    exact ⟨_, ⟨parts .minutes, rfl⟩, _, ⟨parts .hours, rfl⟩, _, ⟨parts .days, rfl⟩, _,
      ⟨parts .months, rfl⟩, _, ⟨parts .years, rfl⟩, rfl⟩

/-- What is computed for the components of a literal stays in range, and so do the parts of their
sum when all signs are turned at the end. -/
structure StaysInRange (ago : Bool)
    (components : List Component) : Prop extends InBounds components where
  turned : ago = true → ∀ part, IsInt64 (-(components.map (Component.share part)).sum)

/-- The sum of components, with all signs turned or not. -/
theorem settled_iff {ago : Bool} {components : List Component} {result : Interval} :
    (accumulate? components).bind (settle? ago) = some result ↔
      StaysInRange ago components ∧
        result = if ago then (total components).turned else total components := by
  simp only [Option.bind_eq_some_iff, accumulate?_eq_some_iff]
  constructor
  · rintro ⟨_, ⟨bounds, rfl⟩, settled⟩
    cases ago with
    | false => exact ⟨⟨bounds, fun behind => absurd behind Bool.false_ne_true⟩,
      (Option.some.inj settled).symm⟩
    | true =>
      obtain ⟨parts, rfl⟩ := negate?_eq_some_iff.1 settled
      exact ⟨⟨bounds, fun _ part => part_total components part ▸ parts part⟩, rfl⟩
  · rintro ⟨⟨bounds, parts⟩, rfl⟩
    refine ⟨_, ⟨bounds, rfl⟩, ?_⟩
    cases ago with
    | false => rfl
    | true =>
      exact negate?_eq_some_iff.2 ⟨fun part => part_total components part ▸ parts rfl part, rfl⟩

/-- The parts of a sum, with all signs turned or not, are in range and what the components add to
them. -/
theorem StaysInRange.part_settled {ago : Bool} {components : List Component}
    (inRange : StaysInRange ago components) (part : Part) :
    IsInt64 (signOf ago * (components.map (Component.share part)).sum) ∧
      Interval.part (if ago then (total components).turned else total components) part =
        signOf ago * (components.map (Component.share part)).sum := by
  cases ago with
  | false =>
    rw [signOf, if_neg Bool.false_ne_true, if_neg Bool.false_ne_true, Int.one_mul]
    exact ⟨inRange.sums components (List.prefix_refl _) part, part_total components part⟩
  | true =>
    rw [signOf, if_pos rfl, if_pos rfl, Int.neg_mul, Int.one_mul, part_turned, part_total]
    exact ⟨inRange.turned rfl part, rfl⟩

/-! ### Literals -/

/-- **Intervals are never added up wrongly.** A parsed literal spells components for which
everything stays in range, and each whole part is what they add to it in unbounded arithmetic, with
its sign turned behind `ago`; it is a 64-bit integer. Of a literal that spells components, an
interval is parsed if everything stays in range for them; if anything does not, the literal is
refused by name. -/
theorem parse_never_wraps (literal : String) :
    (∀ interval, parse literal = .ok interval → ∃ ago components,
      Spells literal.toList ago components ∧ StaysInRange ago components ∧
        ∀ part, interval.part part = signOf ago * (components.map (Component.share part)).sum ∧
          IsInt64 (interval.part part)) ∧
    ∀ ago components, Spells literal.toList ago components →
      (StaysInRange ago components → ∃ interval, parse literal = .ok interval) ∧
      (¬ StaysInRange ago components → parse literal = .error (.malformedInterval literal)) := by
  refine ⟨fun interval parsed => ?_, fun ago components spells =>
      ⟨fun inRange => ?_, fun leaves => ?_⟩⟩
  · rw [parse_eq_ok_iff] at parsed
    obtain ⟨ago, components, spells⟩ := exists_spells parsed
    rw [spells.parse?_eq] at parsed
    obtain ⟨inRange, rfl⟩ := settled_iff.1 parsed
    refine ⟨ago, components, spells, inRange, fun part => ?_⟩
    obtain ⟨fits, same⟩ := inRange.part_settled part
    exact ⟨same, same ▸ fits⟩
  · refine ⟨if ago then (total components).turned else total components, parse_eq_ok_iff.2 ?_⟩
    rw [spells.parse?_eq]
    exact settled_iff.2 ⟨inRange, rfl⟩
  · rw [parse_eq_error_iff, spells.parse?_eq, Option.eq_none_iff_forall_ne_some]
    exact fun interval settled => leaves (settled_iff.1 settled).1

/-- The least 64-bit count of days. -/
def leastDays : List Component := [.amount (.ofInt (-(Nat.pow 2 63 : Int))) .days]

/-- Weeks, days and a clock behind which all signs are turned; and the least 64-bit count of days,
whose sign cannot be turned. -/
theorem parse_never_wraps_sample :
    parse "1 week 2 days -2:30 ago" = .ok ⟨.finite (.zero true), 30, 2, -9, 0, 0⟩ ∧
    (∃ ago components, Spells "1 week 2 days -2:30 ago".toList ago components ∧
      StaysInRange ago components ∧
      ∀ part, Interval.part ⟨.finite (.zero true), 30, 2, -9, 0, 0⟩ part =
          signOf ago * (components.map (Component.share part)).sum ∧
        IsInt64 (Interval.part ⟨.finite (.zero true), 30, 2, -9, 0, 0⟩ part)) ∧
    Spells "-9223372036854775808 days ago".toList true leastDays ∧ ¬ StaysInRange true leastDays ∧
    parse "-9223372036854775808 days ago" =
      .error (.malformedInterval "-9223372036854775808 days ago") := by
  have parsed : parse "1 week 2 days -2:30 ago" = .ok ⟨.finite (.zero true), 30, 2, -9, 0, 0⟩ :=
    parse_eq_ok_iff.2 (by decide +kernel)
  have spells : Spells "-9223372036854775808 days ago".toList true leastDays := by
    have row : VerboseWords ["-9223372036854775808".toList, "days".toList] leastDays :=
      .amount rfl (by decide +kernel) rfl .nil
    exact .verbose (by decide) (by decide) (by decide) row
  have leaves : ¬ StaysInRange true leastDays := fun inRange =>
    absurd (inRange.turned rfl .days) (by decide +kernel)
  exact ⟨parsed, (parse_never_wraps _).1 _ parsed, spells, leaves,
    ((parse_never_wraps _).2 _ _ spells).2 leaves⟩

end Interval

end CatalogSchema
