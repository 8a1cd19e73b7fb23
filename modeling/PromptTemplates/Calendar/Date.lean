/-!
# Calendar dates

A date of the Gregorian calendar, extended back to year 1, is the number of days since 0001-01-01.
Years run from 1 to 9999. Year, month and day are read off the day number and back.
-/

namespace PromptTemplates.Calendar

/-- Whether the year has a 29 February. -/
def isLeap (year : Nat) : Bool := year % 4 == 0 && (year % 100 != 0 || year % 400 == 0)

/-- The lengths of the twelve months. -/
def monthLengths (year : Nat) : List Nat :=
  [31, if isLeap year then 29 else 28, 31, 30, 31, 30, 31, 31, 30, 31, 30, 31]

/-- The number of days in the years before `year`. -/
def daysBeforeYear (year : Nat) : Nat :=
  let y := year - 1
  y * 365 + y / 4 - y / 100 + y / 400

/-- The number of days from the start of the year to the start of the month. -/
def daysBeforeMonth (year month : Nat) : Nat := ((monthLengths year).take (month - 1)).foldl (· + ·) 0

/-- The length of the month, zero if there is no such month. -/
def monthLength (year month : Nat) : Nat :=
  if month = 0 then 0 else (monthLengths year)[month - 1]?.getD 0

/-- One more than the day number of 9999-12-31. -/
def dayLimit : Nat := 3652059

/-- A calendar date by its day number. -/
structure Date where
  days : Nat
  days_lt : days < dayLimit := by omega
  deriving DecidableEq, Repr

/-- Year, month and day. -/
structure YearMonthDay where
  year : Nat
  month : Nat
  day : Nat
  deriving DecidableEq, Repr

/-- Finds the month of the day with number `n` in its year, counting months from `month`. -/
def monthOfDay : (lengths : List Nat) → (month n : Nat) → Nat × Nat
  | [], month, n => (month, n + 1)
  | length :: rest, month, n =>
    if n < length then (month, n + 1) else monthOfDay rest (month + 1) (n - length)

/-- The day number of a day that exists. -/
def dayNumber? (year month day : Nat) : Option Nat :=
  if 1 ≤ year ∧ year ≤ 9999 ∧ 1 ≤ month ∧ month ≤ 12 ∧ 1 ≤ day ∧ day ≤ monthLength year month then
    some (daysBeforeYear year + daysBeforeMonth year month + (day - 1))
  else none

namespace Date

/-- The date with a given day number. -/
def ofDays? (n : Nat) : Option Date := if h : n < dayLimit then some ⟨n, h⟩ else none

/-- The date with this year, month and day. -/
def ofYearMonthDay? (year month day : Nat) : Option Date :=
  (dayNumber? year month day).bind ofDays?

/-- Year, month and day of a day number: cycles of 400, 100, 4 and 1 years are taken off in turn,
and the last day of a long cycle belongs to its last year. -/
def split (n : Nat) : YearMonthDay :=
  let n400 := n / 146097
  let n := n % 146097
  let n100 := n / 36524
  let n := n % 36524
  let n4 := n / 1461
  let n := n % 1461
  let n1 := n / 365
  let day := n % 365
  let year := n400 * 400 + n100 * 100 + n4 * 4 + n1
  if n1 = 4 ∨ n100 = 4 then { year := year, month := 12, day := 31 }
  else
    let (month, d) := monthOfDay (monthLengths (year + 1)) 1 day
    { year := year + 1, month := month, day := d }

/-- Year, month and day of the date. -/
def yearMonthDay (d : Date) : YearMonthDay := split d.days

end Date

/-- The day of the week of a day number, with Sunday as zero. Day zero was a Monday. -/
def weekday (days : Nat) : Nat := (days + 1) % 7

/-- Writes a number with at least `width` digits. -/
def padded (width n : Nat) : String :=
  let digits := (Nat.repr n).toList
  String.ofList (List.replicate (width - digits.length) '0' ++ digits)

/-- The date as year, month and day with two hyphens. -/
def YearMonthDay.text (d : YearMonthDay) : String :=
  padded 4 d.year ++ "-" ++ padded 2 d.month ++ "-" ++ padded 2 d.day

/-- The date as year, month and day with two hyphens. -/
def Date.text (d : Date) : String := d.yearMonthDay.text

end PromptTemplates.Calendar
