import PromptTemplates.Calendar.Moment
import PromptTemplates.Number.Power
import PromptTemplates.Text.Utf8

/-!
# ISO 8601 texts of moments

Reading takes a date, written with or without hyphens, as month and day or as a week of the year,
then optionally any one separator character and a time with an optional fraction and an optional
offset. The text is read octet by octet, and an octet zero stands for the end of the text. Writing
gives the one extended form.
-/

namespace PromptTemplates.Calendar.Iso

/-- A reading position: the octets still to come. -/
abbrev Octets := List UInt8

private def digitValue? (b : UInt8) : Option Nat :=
  if 48 ≤ b ∧ b ≤ 57 then some (b.toNat - 48) else none

private def isDigit (b : UInt8) : Bool := (digitValue? b).isSome

/-- The octet at an index, zero beyond the end. -/
def octetAt (s : Octets) (i : Nat) : UInt8 := s[i]?.getD 0

/-- Reads exactly `n` digits, continuing the number `value`. -/
def digits? : (n value : Nat) → Octets → Option (Nat × Octets)
  | 0, value, s => some (value, s)
  | _ + 1, _, [] => none
  | n + 1, value, b :: s => (digitValue? b).bind fun d => digits? n (value * 10 + d) s

/-- The length of the date at the front of a text of at least seven octets. A week date may be
followed by a day; where that is ambiguous the shorter reading is taken if a hyphen can separate, and
otherwise the number of digits in a row decides. -/
def dateLength? (s : Octets) : Option Nat :=
  let hyphen : UInt8 := 45
  let week : UInt8 := 87
  if s.length = 7 then some 7
  else if octetAt s 4 = hyphen then
    if octetAt s 5 = week then
      if octetAt s 8 = hyphen then
        if s.length = 9 then none
        else if 10 < s.length ∧ isDigit (octetAt s 10) then some 8
        else some 10
      else some 8
    else some 10
  else if octetAt s 4 = week then
    let end_ := 7 + ((s.drop 7).takeWhile isDigit).length
    if end_ < 9 then some end_ else if end_ % 2 = 0 then some 7 else some 8
  else some 8

/-- The day number of the Monday of the first week of a year, counted from 0001-01-01, which was a
Monday. The first week is the one with the first Thursday. -/
def firstMonday (year : Nat) : Int :=
  let first := daysBeforeYear year
  let weekday := first % 7
  if 3 < weekday then (first : Int) - weekday + 7 else first - weekday

/-- Whether the year has a week of this number. -/
def hasWeek (year week : Nat) : Bool :=
  let weekday := daysBeforeYear year % 7
  (1 ≤ week && week ≤ 52) || (week == 53 && (weekday == 3 || (weekday == 2 && isLeap year)))

/-- The day number of a date given by week and weekday, Monday being 1. -/
def weekDate? (year week weekday : Nat) : Option Nat :=
  if 1 ≤ year ∧ hasWeek year week ∧ 1 ≤ weekday ∧ weekday ≤ 7 then
    let n := firstMonday year + ((week - 1) * 7 + (weekday - 1) : Nat)
    if 0 ≤ n ∧ n < (dayLimit : Int) then some n.toNat else none
  else none

/-- Consumes the octet `b`. -/
def octet? (b : UInt8) : Octets → Option Octets
  | [] => none
  | c :: s => if c = b then some s else none

/-- Reads the date at the front of a text, which is `length` octets long, as a day number. -/
def date? (s : Octets) (length : Nat) : Option Nat := do
  let (year, rest) ← digits? 4 0 s
  let hyphens := octetAt rest 0 = 45
  let rest := if hyphens then rest.drop 1 else rest
  if octetAt rest 0 = 87 then
    let (week, rest) ← digits? 2 0 (rest.drop 1)
    if s.length - rest.length < length then
      let rest ← if hyphens then octet? 45 rest else some rest
      let (day, _) ← digits? 1 0 rest
      weekDate? year week day
    else weekDate? year week 1
  else
    let (month, rest) ← digits? 2 0 rest
    let rest ← if hyphens then octet? 45 rest else some rest
    let (day, _) ← digits? 2 0 rest
    dayNumber? year month day

/-- Hours, minutes, seconds and microseconds. -/
structure Clock where
  hour : Nat := 0
  minute : Nat := 0
  second : Nat := 0
  micro : Nat := 0
  deriving DecidableEq, Repr

/-- The microseconds that a clock reading amounts to. -/
def Clock.micros (c : Clock) : Nat :=
  ((c.hour * 60 + c.minute) * 60 + c.second) * microsPerSecond + c.micro

/-- Reads the digits after the decimal mark: six of them count, missing ones are zeros, and further
ones are passed over. `window` is how many octets belong to the fraction. The flag says whether
anything follows. -/
def fraction? (window : Nat) (s : Octets) : Option (Nat × Bool) := do
  let n := min window 6
  let (value, rest) ← digits? n 0 s
  let rest := rest.dropWhile isDigit
  return (value * Number.tenTo (6 - n), octetAt rest 0 ≠ 0)

/-- Stores the field with index `i`. -/
def Clock.set (c : Clock) (i value : Nat) : Clock :=
  match i with
  | 0 => { c with hour := value }
  | 1 => { c with minute := value }
  | _ => { c with second := value }

/-- Reads the fields from index `i` on, `left` fields at most, within `window` octets. The separator
after the first field decides whether colons separate the fields. The flag of the result says whether
anything follows. -/
def fields? (colons : Bool) : (left i window : Nat) → Clock → Octets → Option (Clock × Bool)
  | 0, _, window, c, s =>
    (fraction? window s).map fun (micro, more) => ({ c with micro }, more)
  | left + 1, i, window, c, s => do
    let (value, rest) ← digits? 2 0 s
    let c := c.set i value
    let next := octetAt rest 0
    let colons := if i = 0 then next = 58 else colons
    if window ≤ 3 then some (c, next ≠ 0)
    else if colons && next = 58 then fields? colons left (i + 1) (window - 3) c (rest.drop 1)
    else if next = 46 ∨ next = 44 then
      (fraction? (window - 3) (rest.drop 1)).map fun (micro, more) => ({ c with micro }, more)
    else if !colons then fields? colons left (i + 1) (window - 2) c rest
    else none

/-- Reads a clock from the first `window` octets of the text. -/
def clock? (window : Nat) (s : Octets) : Option (Clock × Bool) := fields? true 3 0 window {} s

/-- Whether a clock reading exists on a day. -/
def Clock.isValid (c : Clock) : Bool := c.hour < 24 && c.minute < 60 && c.second < 60

/-- The offset that a clock reading stands for, in microseconds. One below a second counts as zero. -/
def Clock.offset (c : Clock) : Int := if c.micros < microsPerSecond then 0 else c.micros

/-- Reads a time with its optional offset, which is in microseconds. -/
def time? (s : Octets) : Option (Clock × Option Int) := do
  let isMark (b : UInt8) : Bool := b = 43 || b = 45 || b = 90
  let length := (s.takeWhile fun b => !isMark b).length
  let (clock, more) ← clock? length s
  match s.drop length with
  | [] => if more then none else some (clock, none)
  | mark :: rest =>
    if mark = 90 then if rest.isEmpty then some (clock, some 0) else none
    else
      let (offset, more) ← clock? rest.length rest
      if more then none
      else
        some (clock, some (if mark = 45 then -offset.offset else offset.offset))

/-- The number of octets of the character whose first octet is `b`. -/
def separatorLength (b : UInt8) : Nat :=
  if b < 0x80 then 1 else if b / 16 = 14 then 3 else if b / 16 = 15 then 4 else 2

/-- Reads a moment. An offset must be shorter than a day. -/
def parseOctets? (s : Octets) : Option Moment := do
  if s.length < 7 then none
  else
    let length ← dateLength? s
    let day ← date? s length
    let (clock, offset) ←
      if s.length ≤ length then some ({}, none)
      else time? (s.drop (length + separatorLength (octetAt s length)))
    let anchor ← match offset with
      | none => some Anchor.floating
      | some micros =>
        if micros.natAbs < microsPerDay then some (Anchor.offset micros) else none
    if clock.isValid then Moment.ofMicros? (day * microsPerDay + clock.micros : Nat) anchor else none

/-- Reads a moment from its ISO 8601 text. -/
def parse? (s : String) : Option Moment := parseOctets? (Text.Utf8.encode s)

/-- Hours and minutes of a length of time, with seconds and microseconds when they are not zero. -/
def offsetText (micros : Int) : String :=
  let size := micros.natAbs
  let seconds := size / microsPerSecond
  let short := (if micros < 0 then "-" else "+") ++ padded 2 (seconds / 3600) ++ ":" ++
    padded 2 (seconds / 60 % 60)
  if size % microsPerSecond ≠ 0 then
    short ++ ":" ++ padded 2 (seconds % 60) ++ "." ++ padded 6 (size % microsPerSecond)
  else if seconds % 60 ≠ 0 then short ++ ":" ++ padded 2 (seconds % 60)
  else short

/-- The extended text of a reading of a clock, with a fraction when it is not zero. -/
def clockText (hour minute second microsecond : Nat) : String :=
  let fraction := if microsecond = 0 then "" else "." ++ padded 6 microsecond
  padded 2 hour ++ ":" ++ padded 2 minute ++ ":" ++ padded 2 second ++ fraction

/-- The extended text of a moment, with `separator` between date and time. -/
def text (separator : String) (m : Moment) : String :=
  let clock := clockText m.hour m.minute m.second m.microsecond
  m.yearMonthDay.text ++ separator ++ clock ++ (m.offset?.map offsetText).getD ""

end PromptTemplates.Calendar.Iso
