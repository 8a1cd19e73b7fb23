import PromptTemplates.Calendar.Coerce
import PromptTemplates.Journal
import PromptTemplates.Markup
import PromptTemplates.Value.Key

/-!
# Styles of dates and times

The styles in which a moment is written, in English. A style that shows a date and a time joins the
two. Times are written with hours from 1 to 12; how the half of the day is marked, and how the zone is
named, can be chosen.
-/

namespace PromptTemplates

open Calendar

/-- The styles. -/
inductive Style where
  | date
  | dateLong
  | dateMedium
  | dateShort
  | timeLong
  | timeMedium
  | timeShort
  | timeZone
  | dateTimeLong
  | dateTimeMedium
  | dateTimeShort
  | dateTimeZone
  deriving DecidableEq, Repr

namespace Style

/-- All styles with their names. -/
def named : List (String × Style) :=
  [("date", .date), ("date_long", .dateLong), ("date_medium", .dateMedium),
   ("date_short", .dateShort), ("time_long", .timeLong), ("time_medium", .timeMedium),
   ("time_short", .timeShort), ("time_zone", .timeZone), ("datetime_long", .dateTimeLong),
   ("datetime_medium", .dateTimeMedium), ("datetime_short", .dateTimeShort),
   ("datetime_zone", .dateTimeZone)]

/-- The style of a name. -/
def ofName? (name : String) : Option Style := Entries.get? name named

end Style

/-- The names of the months. -/
def monthNames : List String :=
  ["January", "February", "March", "April", "May", "June", "July", "August", "September", "October",
   "November", "December"]

/-- The name of a month. -/
def monthName (month : Nat) : String := monthNames[month - 1]?.getD ""

/-- The first three letters of the name of a month. -/
def monthAbbreviation (month : Nat) : String := String.ofList ((monthName month).toList.take 3)

/-- How the halves of the day are marked. -/
structure Meridiem where
  morning : String
  afternoon : String
  deriving DecidableEq, Repr

namespace Meridiem

/-- The marks without a choice. -/
def plain : Meridiem := ⟨"am", "pm"⟩

/-- The marks that have a name. -/
def named : List (String × Meridiem) :=
  [("caps", ⟨"AM", "PM"⟩), ("space", ⟨" am", " pm"⟩), ("period", ⟨" a.m.", " p.m."⟩),
   ("short", ⟨"a", "p"⟩)]

end Meridiem

/-- The marks that a value chooses. -/
def Meridiem.ofValue : Value → Except Fault Meridiem
  | .null => .ok .plain
  | .str s =>
    match Entries.get? s Meridiem.named with
    | some marks => .ok marks
    | none => .error (.unknownMeridiem s)
  | v => .error (if v.canBeKey then .unknownMeridiem v.text else .plain .badType)

/-- How a zone can be named: by its abbreviation or by one of three longer names. -/
inductive ZoneStyle where
  | short
  | long
  | shortGeneric
  | longGeneric
  deriving DecidableEq, Repr

namespace ZoneStyle

/-- The styles with their names. -/
def named : List (String × ZoneStyle) :=
  [("short", .short), ("long", .long), ("shortGeneric", .shortGeneric),
   ("longGeneric", .longGeneric)]

/-- The style that a value chooses; one that does not count as true chooses the abbreviation. -/
def ofValue (v : Value) : Except Fault ZoneStyle :=
  if !v.isTruthy then .ok .short
  else
    match v with
    | .str s =>
      match Entries.get? s named with
      | some style => .ok style
      | none => .error (.unknownZoneStyle s)
    | v => .error (.unknownZoneStyle v.text)

end ZoneStyle

/-- The longer names of a zone: with the season, short and long without it. -/
structure ZoneNames where
  long : String
  shortGeneric : String
  longGeneric : String
  deriving DecidableEq, Repr

/-- The longer names by abbreviation. -/
def zoneNames : List (String × ZoneNames) :=
  [("EST", ⟨"Eastern Standard Time", "ET", "Eastern Time"⟩),
   ("EDT", ⟨"Eastern Daylight Time", "ET", "Eastern Time"⟩),
   ("CST", ⟨"Central Standard Time", "CT", "Central Time"⟩),
   ("CDT", ⟨"Central Daylight Time", "CT", "Central Time"⟩),
   ("MST", ⟨"Mountain Standard Time", "MT", "Mountain Time"⟩),
   ("MDT", ⟨"Mountain Daylight Time", "MT", "Mountain Time"⟩),
   ("PST", ⟨"Pacific Standard Time", "PT", "Pacific Time"⟩),
   ("PDT", ⟨"Pacific Daylight Time", "PT", "Pacific Time"⟩),
   ("AKST", ⟨"Alaska Standard Time", "AKT", "Alaska Time"⟩),
   ("AKDT", ⟨"Alaska Daylight Time", "AKT", "Alaska Time"⟩),
   ("HST", ⟨"Hawaii-Aleutian Standard Time", "HST", "Hawaii-Aleutian Time"⟩),
   ("UTC", ⟨"Coordinated Universal Time", "UTC", "Coordinated Universal Time"⟩),
   ("GMT", ⟨"Greenwich Mean Time", "GMT", "Greenwich Mean Time"⟩)]

/-- The name of a zone with this abbreviation, or `none` if the style needs a longer name and the zone
has none. -/
def zoneName? (abbreviation : String) (style : ZoneStyle) : Option String :=
  match style with
  | .short => some abbreviation
  | .long => (Entries.get? abbreviation zoneNames).map (·.long)
  | .shortGeneric => (Entries.get? abbreviation zoneNames).map (·.shortGeneric)
  | .longGeneric => (Entries.get? abbreviation zoneNames).map (·.longGeneric)

namespace Calendar.Moment

/-- Year, month and day with hyphens; the year has as many digits as it needs. -/
def plainDate (m : Moment) : String :=
  let d := m.yearMonthDay
  toString d.year ++ "-" ++ padded 2 d.month ++ "-" ++ padded 2 d.day

/-- The date with the full name of the month. -/
def longDate (m : Moment) : String :=
  let d := m.yearMonthDay
  monthName d.month ++ " " ++ toString d.day ++ ", " ++ toString d.year

/-- The date with three letters of the month. -/
def mediumDate (m : Moment) : String :=
  let d := m.yearMonthDay
  monthAbbreviation d.month ++ " " ++ toString d.day ++ ", " ++ toString d.year

/-- The date in numbers, month first. -/
def shortDate (m : Moment) : String :=
  let d := m.yearMonthDay
  toString d.month ++ "/" ++ toString d.day ++ "/" ++ toString d.year

/-- How much of a time is written: minutes only when they are not zero, always, or seconds too. -/
inductive Precision where
  | compact
  | minutes
  | seconds
  deriving DecidableEq, Repr

/-- The hour on a clock face. -/
def clockHour (m : Moment) : Nat := if m.hour % 12 = 0 then 12 else m.hour % 12

/-- The time with the given marks. -/
def clockTime (m : Moment) (precision : Precision) (marks : Meridiem) : String :=
  let mark := if m.hour < 12 then marks.morning else marks.afternoon
  let minutes := toString m.clockHour ++ ":" ++ padded 2 m.minute
  match precision with
  | .compact => if m.minute = 0 then toString m.clockHour ++ mark else minutes ++ mark
  | .minutes => minutes ++ mark
  | .seconds => minutes ++ ":" ++ padded 2 m.second ++ mark

/-- The time, with the marks that a value chooses. -/
def time (m : Moment) (precision : Precision) (meridiem : Value) : Except Fault String := do
  return m.clockTime precision (← Meridiem.ofValue meridiem)

/-- The name of the zone, in the style that a value chooses. A zone without a longer name is named by
its abbreviation, which leaves an event. -/
def zoneText (m : Moment) (style : Value) : Action String := do
  match zoneName? m.abbreviation (← Action.ofExcept (ZoneStyle.ofValue style)) with
  | some name => return name
  | none =>
    note .noLongZoneName
    return m.abbreviation

end Calendar.Moment

namespace Formatter

/-- The date of a moment as a value of its own: the moment is brought into the zone of the formatter once
more, and no clock is there to ask. -/
def dateOf (f : Formatter) (m : Moment) (written : Moment → String) : Action String := do
  return written (← Action.ofExcept (f.coerce (.moment m) none))

/-- The moment in a style. `meridiem` and `zone` choose how the half of the day is marked and how the
zone is named. A medium or a short date in front of a time is formatted as a value of its own. -/
def write (f : Formatter) (m : Moment) (style : Style) (meridiem zone : Value) : Action String := do
  let time (precision : Moment.Precision) : Action String :=
    Action.ofExcept (m.time precision meridiem)
  match style with
  | .date => return m.plainDate
  | .dateLong => return m.longDate
  | .dateMedium => return m.mediumDate
  | .dateShort => return m.shortDate
  | .timeLong => time .seconds
  | .timeMedium => time .minutes
  | .timeShort => time .compact
  | .timeZone => return (← time .minutes) ++ " " ++ (← m.zoneText zone)
  | .dateTimeLong => return m.longDate ++ " at " ++ (← time .minutes)
  | .dateTimeMedium => return (← f.dateOf m Moment.mediumDate) ++ ", " ++ (← time .minutes)
  | .dateTimeShort => return (← f.dateOf m Moment.shortDate) ++ ", " ++ (← time .minutes)
  | .dateTimeZone =>
    return m.longDate ++ " at " ++ (← time .minutes) ++ " " ++ (← m.zoneText zone)

/-- A value in a style. -/
def format (f : Formatter) (value : Value) (style : Style) (meridiem zone : Value)
    (clock : Option Value) : Action String := do
  f.write (← Action.ofExcept (f.coerce value clock)) style meridiem zone

/-- A value in the style of a name. An unknown style is a fault once the value is found to be good. -/
def formatNamed (f : Formatter) (value : Value) (style : String) (meridiem zone : Value)
    (clock : Option Value) : Action String := do
  let m ← Action.ofExcept (f.coerce value clock)
  match Style.ofName? style with
  | some style => f.write m style meridiem zone
  | none => throw (.unsupportedStyle (Text.quoted style))

end Formatter

end PromptTemplates
