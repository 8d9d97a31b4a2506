/-
**Spans of time.**

An `Interval` has six components that are never carried over into each other. Its literal is read in
two notations: the verbose one (`1 year 2 mons -04:05:06 ago`) and the ISO one (`P1Y2MT3H`). Both
give a list of `Component`s, which `Interval.accumulate?` adds up; a component that is not whole
where it must be, or that leaves the 64-bit range, makes the literal malformed.
-/

import CatalogSchema.Conversion.Numeric
import CatalogSchema.Json.Record

namespace CatalogSchema

open Number Text

/-- A span of time, component by component. -/
structure Interval where
  seconds : Binary64
  minutes : Int
  hours : Int
  days : Int
  months : Int
  years : Int
  deriving DecidableEq

/-- The units of a component. -/
inductive IntervalUnit where
  | years
  | months
  | weeks
  | days
  | hours
  | minutes
  | seconds
  | milliseconds
  | microseconds
  deriving DecidableEq

/-- The unit with a name, in lower case. -/
def IntervalUnit.ofName? (name : String) : Option IntervalUnit :=
  match name with
  | "year" | "years" | "yr" | "yrs" | "y" => some .years
  | "mon" | "mons" | "month" | "months" => some .months
  | "week" | "weeks" | "w" => some .weeks
  | "day" | "days" | "d" => some .days
  | "hour" | "hours" | "hr" | "hrs" | "h" => some .hours
  | "min" | "mins" | "minute" | "minutes" | "m" => some .minutes
  | "sec" | "secs" | "second" | "seconds" | "s" => some .seconds
  | "millisecond" | "milliseconds" | "ms" => some .milliseconds
  | "microsecond" | "microseconds" | "us" => some .microseconds
  | _ => none

/-- The unit of an ISO designator, before or after the time mark. -/
def IntervalUnit.ofDesignator? (inTime : Bool) (designator : Char) : Option IntervalUnit :=
  match inTime, designator with
  | false, 'Y' => some .years
  | false, 'M' => some .months
  | false, 'W' => some .weeks
  | false, 'D' => some .days
  | true, 'H' => some .hours
  | true, 'M' => some .minutes
  | true, 'S' => some .seconds
  | _, _ => none

namespace Interval

/-- One component of a literal. -/
inductive Component where
  /-- An amount of a unit. -/
  | amount (value : Binary64) (unit : IntervalUnit)
  /-- A clock: hours, minutes and seconds under one sign. -/
  | clock (negative : Bool) (hours minutes : Int) (seconds : Binary64)
  deriving DecidableEq

/-- The interval without any component. -/
def zero : Interval := ⟨.zero, 0, 0, 0, 0, 0⟩

instance : Inhabited Interval := ⟨zero⟩

/-! ### Adding components up -/

/-- The integer a number is, if it is whole and in the signed 64-bit range. -/
def whole? (amount : Finite) : Option Int :=
  if amount.isWhole then int64? amount.truncate else none

/-- Adds a whole amount, times a scale, to a component; nothing may leave the 64-bit range. -/
def addWhole? (component : Int) (amount : Finite) (scale : Int) : Option Int := do
  let amount ← whole? amount
  let scaled ← int64? (amount * scale)
  int64? (component + scaled)

/-- Adds a number of seconds; the sum must stay finite. -/
def addSeconds? (interval : Interval) (amount : Binary64) : Option Interval :=
  match interval.seconds, amount with
  | .finite seconds, .finite amount =>
    match seconds.add amount with
    | .finite total => some { interval with seconds := .finite total }
    | _ => none
  | _, _ => none

/-- Adds an amount of a unit. -/
def addAmount? (interval : Interval) (amount : Finite) : IntervalUnit → Option Interval
  | .years => (addWhole? interval.years amount 1).map fun years => { interval with years }
  | .months => (addWhole? interval.months amount 1).map fun months => { interval with months }
  | .weeks => (addWhole? interval.days amount 7).map fun days => { interval with days }
  | .days => (addWhole? interval.days amount 1).map fun days => { interval with days }
  | .hours => (addWhole? interval.hours amount 1).map fun hours => { interval with hours }
  | .minutes => (addWhole? interval.minutes amount 1).map fun minutes => { interval with minutes }
  | .seconds => interval.addSeconds? (.finite amount)
  | .milliseconds => interval.addSeconds? (amount.divide 1000)
  | .microseconds => interval.addSeconds? (amount.divide 1000000)

/-- Adds a component. -/
def addComponent? (interval : Interval) : Component → Option Interval
  | .amount value unit => value.finite?.bind fun value => interval.addAmount? value unit
  | .clock negative hours minutes seconds => do
    let sign : Int := if negative then -1 else 1
    let hours ← int64? (interval.hours + (← int64? (hours * sign)))
    let minutes ← int64? (interval.minutes + (← int64? (minutes * sign)))
    { interval with hours, minutes }.addSeconds? (if negative then seconds.negate else seconds)

/-- Adds components from left to right. -/
def accumulate? (components : List Component) : Option Interval :=
  components.foldlM addComponent? zero

/-- The interval with every component negated. -/
def negate? (interval : Interval) : Option Interval := do
  return {
    seconds := interval.seconds.negate
    minutes := ← int64? (-interval.minutes)
    hours := ← int64? (-interval.hours)
    days := ← int64? (-interval.days)
    months := ← int64? (-interval.months)
    years := ← int64? (-interval.years) }

/-! ### The verbose notation -/

/-- Reads a clock: an optional sign, hours and minutes, and perhaps finite seconds. -/
def readClock? (token : List Char) : Option Component :=
  let (negative, clock) := splitSign token
  match splitAt (· = ':') clock with
  | [hours, minutes] => do
    return .clock negative (← readInt64? hours) (← readInt64? minutes) .zero
  | [hours, minutes, seconds] => do
    let hours ← readInt64? hours
    let minutes ← readInt64? minutes
    let seconds ← (← readBinary64? seconds).finite?
    return .clock negative hours minutes (.finite seconds)
  | _ => none

/-- Reads clocks and pairs of an amount and the name of its unit. -/
def readVerbose? : List (List Char) → Option (List Component)
  | [] => some []
  | [token] => if token.contains ':' then (readClock? token).map ([·]) else none
  | token :: next :: rest =>
    if token.contains ':' then do
      let component ← readClock? token
      let components ← readVerbose? (next :: rest)
      return component :: components
    else do
      let value ← readBinary64? token
      let unit ← IntervalUnit.ofName? (String.ofList (next.map Char.toLower))
      let components ← readVerbose? rest
      return .amount value unit :: components

/-- Drops a last word `ago`, and tells whether there was one. -/
def splitAgo (tokens : List (List Char)) : Bool × List (List Char) :=
  if tokens.getLast? = some ['a', 'g', 'o'] then (true, tokens.dropLast) else (false, tokens)

/-- Reads the verbose notation: an optional `@`, components, and `ago` to negate them all. -/
def parseVerbose? (text : List Char) : Option Interval := do
  let body := match text with
    | '@' :: rest => rest
    | text => text
  let (ago, tokens) := splitAgo (blankSeparated body)
  let interval ← accumulate? (← readVerbose? tokens)
  if ago then interval.negate? else some interval

/-! ### The ISO notation -/

/-- Holds of the characters of an ISO amount. -/
def isAmountChar (c : Char) : Bool := c.isDigit || c = '.' || c = '-'

/-- Reads amounts with their designators; a time mark may stand once, between components. -/
def readIso? (inTime : Bool) (amount : List Char) : List Char → Option (List Component)
  | [] => if amount.isEmpty then some [] else none
  | c :: rest =>
    if c = 'T' ∧ inTime = false ∧ amount.isEmpty then readIso? true [] rest
    else if isAmountChar c then readIso? inTime (amount ++ [c]) rest
    else do
      let value ← readBinary64? amount
      let unit ← IntervalUnit.ofDesignator? inTime c
      let components ← readIso? inTime [] rest
      return .amount value unit :: components

/-- Reads the ISO notation after its leading `P`. -/
def parseIso? (text : List Char) : Option Interval := do
  accumulate? (← readIso? false [] text)

/-! ### Literals and objects -/

/-- Reads a literal in either notation. -/
def parse? (literal : List Char) : Option Interval :=
  match trim literal with
  | [] => none
  | 'P' :: iso => parseIso? iso
  | text => parseVerbose? text

/-- Reads a literal; a malformed one is named in the error. -/
def parse (literal : String) : Conversion Interval :=
  match parse? literal.toList with
  | some interval => .ok interval
  | none => .error (.malformedInterval literal)

/-- A whole component of a literal, unless it is zero. -/
def componentText (amount : Int) (unit : String) : List (List Char) :=
  if amount = 0 then [] else [textOfInt amount ++ ' ' :: unit.toList]

/-- The seconds of a literal, unless they are zero. -/
def secondsText (seconds : Binary64) : List (List Char) :=
  if seconds.isZero then [] else [seconds.plainText.toList ++ " seconds".toList]

/-- The literal of an interval: the components that are not zero, from years to seconds. -/
def literal (interval : Interval) : String :=
  let parts :=
    componentText interval.years "years" ++ componentText interval.months "months" ++
      componentText interval.days "days" ++ componentText interval.hours "hours" ++
      componentText interval.minutes "minutes" ++ secondsText interval.seconds
  if parts.isEmpty then "0 seconds" else String.ofList (join [' '] parts)

/-- The object of an interval, with all components. -/
def toJson (interval : Interval) : Conversion Json := do
  let seconds ← jsonOfBinary64 interval.seconds
  return .ofMembers [
    ("seconds", seconds),
    ("minutes", .ofInt interval.minutes),
    ("hours", .ofInt interval.hours),
    ("days", .ofInt interval.days),
    ("months", .ofInt interval.months),
    ("years", .ofInt interval.years)]

/-- The components of an object or a list; a component that is missing is zero. -/
def ofTree? (tree : JsonTree) : Option Interval := do
  let fields ← tree.recordFields? true ["seconds", "minutes", "hours", "days", "months", "years"]
  match fields with
  | [seconds, minutes, hours, days, months, years] =>
    return {
      seconds := .finite (← JsonTree.fieldOr (.zero false) JsonTree.finite? seconds)
      minutes := ← JsonTree.fieldOr 0 JsonTree.int64? minutes
      hours := ← JsonTree.fieldOr 0 JsonTree.int64? hours
      days := ← JsonTree.fieldOr 0 JsonTree.int64? days
      months := ← JsonTree.fieldOr 0 JsonTree.int64? months
      years := ← JsonTree.fieldOr 0 JsonTree.int64? years }
  | _ => none

/-- The interval of an object; no member may be unknown. -/
def ofJson (value : Json) : Conversion Interval :=
  match ofTree? value.toTree with
  | some interval => .ok interval
  | none => .error (.malformedInterval value.text)

end Interval

end CatalogSchema
