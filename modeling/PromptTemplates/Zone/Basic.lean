import PromptTemplates.Calendar.Date

/-!
# Time zones

A zone says for every instant which offset from universal time and which abbreviation its clocks
use. Its history is a list of changes; after the last one either nothing changes any more or a rule
names two days of every year. Going from a wall clock back to an offset, a reading that occurs twice
needs to be told which of the two is meant: `fold` picks the later one.

Seconds count from 1970-01-01T00:00:00, of universal time or of the wall clock as the name says.
-/

namespace PromptTemplates

/-- What the clocks of a zone do for a while: seconds ahead of universal time, and a name. -/
structure Period where
  offset : Int
  abbreviation : String
  deriving DecidableEq, Repr

/-- A day of every year, such as the second Sunday in March, with a time of that day in seconds of
the wall clock. Week 5 is the last one of the month, weekday 0 is Sunday. -/
structure YearlyDay where
  month : Nat
  week : Nat
  weekday : Nat
  seconds : Int
  deriving DecidableEq, Repr

/-- What a zone does after its recorded changes. -/
inductive ZoneTail where
  | steady
  | yearly (standard daylight : Period) (start stop : YearlyDay)
  deriving Repr

/-- A time zone: the period before the first change, the seconds of universal time at which later
periods start, in ascending order, and what happens after them. -/
structure Zone where
  name : String
  initial : Period
  changes : List (Int × Period)
  tail : ZoneTail
  deriving Repr

/-- The seconds from day zero of the calendar to 1970-01-01. -/
def epochSeconds : Int := 62135596800

/-- The wall-clock second of a yearly day in a year. -/
def YearlyDay.secondIn (d : YearlyDay) (year : Nat) : Int :=
  let first := Calendar.daysBeforeYear year + Calendar.daysBeforeMonth year d.month
  let ahead := (d.weekday + 7 - Calendar.weekday first) % 7
  let day := ahead + (d.week - 1) * 7
  let day := if Calendar.monthLength year d.month ≤ day then day - 7 else day
  ((first + day : Nat) : Int) * 86400 - epochSeconds + d.seconds

namespace Zone

/-- Whether `start ≤ x < stop` on the circle of the year. -/
def withinSeason (start stop x : Int) : Bool :=
  if start < stop then start ≤ x && x < stop else !(stop ≤ x && x < start)

/-- The period in force at a second of universal time, together with the one before it and the
second at which it started. `before` is the period of all earlier changes. -/
def lastChange (second : Int) : (before current : Period) → (start : Option Int) →
    List (Int × Period) → Period × Period × Option Int
  | before, current, start, [] => (before, current, start)
  | before, current, start, (t, p) :: rest =>
    if t ≤ second then lastChange second current p (some t) rest else (before, current, start)

/-- Whether every recorded change lies before the second. -/
def isPastChanges (z : Zone) (second : Int) : Bool := z.changes.all fun change => change.1 < second

/-- The period at a second of universal time of the year `year`, and whether the wall clock shows a
reading that it has shown before. -/
def periodAt (z : Zone) (second : Int) (year : Nat) : Period × Bool :=
  match z.tail, z.isPastChanges second with
  | .yearly standard daylight startDay stopDay, true =>
    let start := startDay.secondIn year - standard.offset
    let stop := stopDay.secondIn year - daylight.offset
    let ahead := daylight.offset - standard.offset
    let twice := if 0 < ahead then (stop, stop + ahead) else (start, start - ahead)
    (if withinSeason start stop second then daylight else standard,
      twice.1 ≤ second && second < twice.2)
  | _, _ =>
    let (before, current, start) := lastChange second z.initial z.initial none z.changes
    (current, match start with
      | some t => second - t < before.offset - current.offset
      | none => false)

/-- The changes with the wall-clock seconds at which they show: for the first of two readings the
later of the clocks before and after the change counts, for the second one the earlier. -/
def wallChanges (fold : Bool) : (before : Period) → List (Int × Period) → List (Int × Period)
  | _, [] => []
  | before, (t, p) :: rest =>
    let shift := if fold then min before.offset p.offset else max before.offset p.offset
    (t + shift, p) :: wallChanges fold p rest

/-- The period that a wall-clock second of the year `year` belongs to. -/
def periodOfWall (z : Zone) (second : Int) (year : Nat) (fold : Bool) : Period :=
  let changes := wallChanges fold z.initial z.changes
  match z.tail, changes.all fun change => change.1 < second with
  | .yearly standard daylight startDay stopDay, true =>
    let start := startDay.secondIn year
    let stop := stopDay.secondIn year
    let ahead := daylight.offset - standard.offset
    let (start, stop) := if fold == decide (0 ≤ ahead) then (start, stop - ahead)
      else (start + ahead, stop)
    if withinSeason start stop second then daylight else standard
  | _, _ => (lastChange second z.initial z.initial none changes).2.1

end Zone

end PromptTemplates
