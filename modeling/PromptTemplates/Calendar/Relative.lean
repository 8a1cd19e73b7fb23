import PromptTemplates.Calendar.Format

/-!
# Relative times

How long ago a moment was, or how far ahead it lies, in the largest unit that fits at least once. A
moment outside the given bounds is shown as a date instead.
-/

namespace PromptTemplates

open Calendar Number

/-- A unit of time and its length in seconds. -/
structure TimeUnit where
  name : String
  seconds : Nat
  deriving DecidableEq, Repr

namespace TimeUnit

/-- The shortest unit. -/
def second : TimeUnit := ⟨"second", 1⟩

/-- The units, the longest first. Years have 365 days and months 30. -/
def all : List TimeUnit :=
  [⟨"year", 365 * 86400⟩, ⟨"month", 30 * 86400⟩, ⟨"week", 7 * 86400⟩, ⟨"day", 86400⟩,
   ⟨"hour", 3600⟩, ⟨"minute", 60⟩, second]

/-- The longest unit that fits into `num / den` seconds, and how often it does. -/
def largest (num den : Nat) : TimeUnit × Nat :=
  match all.find? fun unit => unit.seconds * den ≤ num with
  | some unit => (unit, num / (unit.seconds * den))
  | none => (second, num / den)

/-- A count of the unit. -/
def label (unit : TimeUnit) (count : Nat) : String :=
  toString count ++ " " ++ unit.name ++ (if count = 1 then "" else "s")

end TimeUnit

/-- A number of microseconds in seconds, to the nearest floating-point number, as a fraction. -/
def secondsOfMicros (micros : Nat) : Nat × Nat :=
  match (Binary64.ofRatio false micros microsPerSecond).toRatio? with
  | some (num, den) => (num.toNat, den)
  | none => (micros, microsPerSecond)

/-- The distance of a moment from now: `elapsed` microseconds have passed since. -/
def relativeText (elapsed : Int) : String :=
  let (num, den) := secondsOfMicros elapsed.natAbs
  if num < den then "just now"
  else
    let (unit, count) := TimeUnit.largest num den
    if 0 < elapsed then unit.label count ++ " ago" else "in " ++ unit.label count

namespace Formatter

/-- Whether a moment lies before (`sign` 1) or after (`sign` -1) a bound. A null bound bounds nothing,
and no clock is asked for it. -/
def isBeyond (f : Formatter) (m : Moment) (bound : Value) (sign : Int) : Except Fault Bool := do
  match bound with
  | .null => return false
  | bound => return 0 < sign * (← f.coerce bound none).since m

/-- A value relative to what the clock shows, or its long date if it lies before `earliest` or after
`latest`. -/
def relative (f : Formatter) (value clock earliest latest : Value) : Except Fault String := do
  let target ← f.coerce value (some clock)
  if ← f.isBeyond target earliest 1 then return target.longDate
  if ← f.isBeyond target latest (-1) then return target.longDate
  let now ← f.coerce .null (some clock)
  return relativeText (now.since target)

end Formatter

end PromptTemplates
