import PromptTemplates.Calendar.Epoch
import PromptTemplates.Calendar.Iso
import PromptTemplates.Value.Basic
import PromptTemplates.Zone.Table
import PromptTemplates.Text.Search

/-!
# From values to moments

A formatter shows everything in its zone. It takes moments, dates, texts in ISO 8601 form and numbers
of seconds since 1970; without a value it takes the current time. A moment that is not tied to
universal time counts as universal. A date is midnight of its day in the zone of the formatter.
-/

namespace PromptTemplates

open Calendar

namespace Formatter

/-- The formatter for a choice of zone. -/
def ofChoice : ZoneChoice → Except Fault Formatter
  | .here => .ok ⟨none⟩
  | .named name =>
    match Zone.find? name with
    | some zone => .ok ⟨some zone⟩
    | none => .error (.config (.unknownZone name))
  | .illTyped => .error (.plain .badType)

/-- A moment shown in the zone of the formatter. -/
def localize (f : Formatter) (m : Moment) : Except Fault Moment :=
  let m := match m.anchor with
    | .floating => { m with anchor := .offset 0 }
    | _ => m
  match m.inZone? f.zone with
  | some m => .ok m
  | none => .error (.plain .overflow)

/-- The start of a day. The local zone knows no moment before the first day, which it would need to
tell whether the clock was moved. -/
def startOfDay (f : Formatter) (d : Date) : Except Fault Moment :=
  match f.zone with
  | some z => .ok (Moment.midnight d (.zone z false))
  | none => if d.days = 0 then .error (.plain .badValue) else .ok (Moment.midnight d (.offset 0))

/-- The moment that a text stands for. The letter `Z` is the offset zero. -/
def momentOfText (s : String) : Except Fault Moment :=
  match Iso.parse? (Text.replaceAll "Z" "+00:00" s) with
  | some m => .ok m
  | none => .error (.plain .badValue)

/-- The moment that a value stands for, in the zone of the formatter. `clock` is what a clock shows,
if there is one. -/
def coerce (f : Formatter) (value : Value) (clock : Option Value) : Except Fault Moment := do
  let value ← match value, clock with
    | .null, some now => pure now
    | .null, none => throw .noTime
    | value, _ => pure value
  match value with
  | .str s => f.localize (← momentOfText s)
  | .int n => f.localize (← Moment.ofEpoch n 0)
  | .float x => f.localize (← Moment.ofFloat x)
  | .date d => f.startOfDay d
  | .moment m => f.localize m
  | value => throw (.unformattable value.typeName)

end Formatter

end PromptTemplates
