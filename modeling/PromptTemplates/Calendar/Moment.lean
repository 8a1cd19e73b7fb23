import PromptTemplates.Zone.Basic

/-!
# Moments

A moment is a reading of a wall clock, in microseconds since 0001-01-01T00:00:00, together with what
ties it to universal time: nothing, a fixed offset, or a zone. Moving a moment to another zone keeps
its instant; it fails when a reading would leave the years 1 to 9999.
-/

namespace PromptTemplates.Calendar

/-- Microseconds in a second. -/
def microsPerSecond : Nat := 1000000

/-- Microseconds in a day. -/
def microsPerDay : Nat := 86400000000

/-- The first reading after year 9999. -/
def microLimit : Nat := dayLimit * microsPerDay

/-- What ties a wall-clock reading to universal time. A zone comes with the choice between two equal
readings: `later` takes the second one. -/
inductive Anchor where
  | floating
  | offset (micros : Int)
  | zone (z : Zone) (later : Bool)
  deriving Repr

/-- A reading of a wall clock. -/
structure Moment where
  micros : Nat
  anchor : Anchor
  micros_lt : micros < microLimit := by omega
  deriving Repr

/-- A time of day: a reading of a wall clock on no particular day. -/
structure TimeOfDay where
  micros : Nat
  micros_lt : micros < microsPerDay := by omega
  deriving DecidableEq, Repr

namespace TimeOfDay

/-- The time of day so many microseconds after midnight, if the day has them. -/
def ofMicros? (micros : Nat) : Option TimeOfDay :=
  if h : micros < microsPerDay then some ⟨micros, h⟩ else none

/-- The hour, from 0 to 23. -/
def hour (t : TimeOfDay) : Nat := t.micros / microsPerSecond / 3600

/-- The minute of the hour. -/
def minute (t : TimeOfDay) : Nat := t.micros / microsPerSecond / 60 % 60

/-- The second of the minute. -/
def second (t : TimeOfDay) : Nat := t.micros / microsPerSecond % 60

/-- The microsecond of the second. -/
def microsecond (t : TimeOfDay) : Nat := t.micros % microsPerSecond

end TimeOfDay

namespace Moment

/-- The moment with this reading, if it lies in the years 1 to 9999. -/
def ofMicros? (micros : Int) (anchor : Anchor) : Option Moment :=
  if h : 0 ≤ micros ∧ micros < (microLimit : Int) then
    some { micros := micros.toNat, anchor := anchor, micros_lt := by omega }
  else none

/-- The day number of the reading. -/
def days (m : Moment) : Nat := m.micros / microsPerDay

/-- Year, month and day of the reading. -/
def yearMonthDay (m : Moment) : YearMonthDay := Date.split m.days

/-- The seconds since midnight. -/
def secondOfDay (m : Moment) : Nat := m.micros % microsPerDay / microsPerSecond

/-- The hour, from 0 to 23. -/
def hour (m : Moment) : Nat := m.secondOfDay / 3600

/-- The minute of the hour. -/
def minute (m : Moment) : Nat := m.secondOfDay / 60 % 60

/-- The second of the minute. -/
def second (m : Moment) : Nat := m.secondOfDay % 60

/-- The microsecond of the second. -/
def microsecond (m : Moment) : Nat := m.micros % microsPerSecond

/-- The seconds of the wall clock since 1970-01-01. -/
def wallSecond (m : Moment) : Int := (m.micros / microsPerSecond : Nat) - epochSeconds

/-- The period of its zone that the reading belongs to. -/
def period? (m : Moment) : Option Period :=
  match m.anchor with
  | .zone z later => some (z.periodOfWall m.wallSecond m.yearMonthDay.year later)
  | _ => none

/-- How far the clock is ahead of universal time, in microseconds. -/
def offset? (m : Moment) : Option Int :=
  match m.anchor with
  | .floating => none
  | .offset micros => some micros
  | .zone _ _ => m.period?.map fun p => p.offset * microsPerSecond

/-- The instant in microseconds of universal time; a floating reading counts as universal. -/
def instant (m : Moment) : Int := (m.micros : Int) - m.offset?.getD 0

/-- Midnight at the start of a date. -/
def midnight (d : Date) (anchor : Anchor) : Moment where
  micros := d.days * microsPerDay
  anchor := anchor
  micros_lt := Nat.mul_lt_mul_of_pos_right d.days_lt (by decide)

/-- The same instant shown by the clocks of a zone, or of universal time when there is none. -/
def moveTo? (m : Moment) (target : Option Zone) : Option Moment := do
  let utc ← ofMicros? m.instant (.offset 0)
  match target with
  | none => return utc
  | some z =>
    let (period, later) := z.periodAt utc.wallSecond utc.yearMonthDay.year
    ofMicros? ((utc.micros : Int) + period.offset * microsPerSecond) (.zone z later)

/-- The same instant in the given zone. A reading that is already in that zone stays as it is. -/
def inZone? (m : Moment) (target : Option Zone) : Option Moment :=
  match m.anchor, target with
  | .zone z _, some t => if z.name = t.name then some m else m.moveTo? target
  | _, _ => m.moveTo? target

/-- The abbreviation of the zone: universal time has the name `UTC`. -/
def abbreviation (m : Moment) : String := (m.period?.map (·.abbreviation)).getD "UTC"

/-- Whether two moments are read off the clocks of one zone, so that their readings are compared as
they stand. -/
def sameClock (a b : Moment) : Bool :=
  match a.anchor, b.anchor with
  | .zone z _, .zone y _ => z.name == y.name
  | .floating, .floating => true
  | _, _ => false

/-- Microseconds from `b` to `a`: between readings of one clock the difference of the readings,
otherwise the difference of the instants. -/
def since (a b : Moment) : Int :=
  if a.sameClock b then (a.micros : Int) - b.micros else a.instant - b.instant

end Moment

end PromptTemplates.Calendar
