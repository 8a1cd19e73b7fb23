import PromptTemplates.Value.Basic
import PromptTemplates.Text.Quoted

/-!
# The quoted form of a value

Inside a printed collection, and in messages, a value is written so that its kind can be seen:
strings are quoted, dates are constructor calls, collections list their members.
-/

namespace PromptTemplates

open Calendar

/-- A length of time as days, seconds and microseconds; only the nonzero parts are written. -/
def durationCall (micros : Int) : String :=
  let days := micros.fdiv microsPerDay
  let rest := (micros.fmod microsPerDay).toNat
  let part (name : String) (n : Int) := if n = 0 then [] else [name ++ "=" ++ toString n]
  let parts := part "days" days ++ part "seconds" (rest / microsPerSecond : Nat) ++
    part "microseconds" (rest % microsPerSecond : Nat)
  "datetime.timedelta(" ++ String.intercalate ", " (if parts.isEmpty then ["0"] else parts) ++ ")"

/-- What ties a moment to universal time, as further arguments of its constructor call. -/
def Calendar.Anchor.calls : Anchor → List String
  | .floating => []
  | .offset micros =>
    if micros = 0 then ["tzinfo=datetime.timezone.utc"]
    else ["tzinfo=datetime.timezone(" ++ durationCall micros ++ ")"]
  | .zone z later =>
    (if later then ["fold=1"] else []) ++ ["tzinfo=zoneinfo.ZoneInfo(key=" ++ Text.quoted z.name ++ ")"]

/-- The reading of a clock as arguments of a constructor call. Seconds and microseconds are left out when
nothing follows them that is not zero. -/
def clockFields (hour minute second microsecond : Nat) : List Nat :=
  if microsecond ≠ 0 then [hour, minute, second, microsecond]
  else if second ≠ 0 then [hour, minute, second]
  else [hour, minute]

/-- A moment as a constructor call. -/
def Calendar.Moment.call (m : Moment) : String :=
  let d := m.yearMonthDay
  let clock := clockFields m.hour m.minute m.second m.microsecond
  let fields := ([d.year, d.month, d.day] ++ clock).map toString
  "datetime.datetime(" ++ String.intercalate ", " (fields ++ m.anchor.calls) ++ ")"

/-- A date as a constructor call. -/
def Calendar.Date.call (d : Date) : String :=
  let ymd := d.yearMonthDay
  "datetime.date(" ++ String.intercalate ", " ([ymd.year, ymd.month, ymd.day].map toString) ++ ")"

/-- A time of day as a constructor call. -/
def Calendar.TimeOfDay.call (t : TimeOfDay) : String :=
  let fields := clockFields t.hour t.minute t.second t.microsecond
  "datetime.time(" ++ String.intercalate ", " (fields.map toString) ++ ")"

/-- A collection of written members between two brackets. -/
def bracketed (left right : String) (members : List String) : String :=
  left ++ String.intercalate ", " members ++ right

/-- A tuple of written members: a single one is followed by a comma. -/
def tupleText : List String → String
  | [member] => "(" ++ member ++ ",)"
  | members => bracketed "(" ")" members

mutual

/-- The quoted form of a value. -/
def Value.quoted : Value → String
  | .null => "None"
  | .bool b => if b then "True" else "False"
  | .int n => toString n
  | .float x => x.text
  | .str s => Text.quoted s
  | .bytes octets => Text.quotedBytes octets
  | .date d => d.call
  | .moment m => m.call
  | .time t => t.call
  | .list items => bracketed "[" "]" (quotedItems items)
  | .tuple items => tupleText (quotedItems items)
  | .map entries => bracketed "\x7b" "\x7d" (quotedEntries entries)
  | .safe parts => bracketed "[" "]" (parts.map Text.quoted)
  | .record fields => bracketed "namespace(" ")" (quotedFields fields)
  | .element tag attributes content =>
    bracketed "Element(" ")" ["tag=" ++ Text.quoted tag,
      "attributes=" ++ bracketed "\x7b" "\x7d" (quotedEntries attributes),
      "content=" ++ content.quoted]
  | .scope context _ _ _ _ _ _ => context.quoted
  | .block .. => "\x7b\x7d"
  | .helperContext .. => "HelperContext()"
  | .method _ name => "<built-in method " ++ name ++ ">"

/-- The quoted forms of the members of a list. -/
def quotedItems : List Value → List String
  | [] => []
  | item :: rest => item.quoted :: quotedItems rest

/-- The quoted forms of the entries of a mapping. -/
def quotedEntries : List (Value × Value) → List String
  | [] => []
  | (key, value) :: rest => (key.quoted ++ ": " ++ value.quoted) :: quotedEntries rest

/-- The quoted forms of the attributes of a record. -/
def quotedFields : List (String × Value) → List String
  | [] => []
  | (name, value) :: rest => (name ++ "=" ++ value.quoted) :: quotedFields rest

end

end PromptTemplates
