import PromptTemplates.Calendar.Relative
import PromptTemplates.Helper.Function
import PromptTemplates.Helper.Registration

/-!
# Standard helpers

The helpers that every template can use: dates and times in the styles of the library, times relative
to now, the number of the current iteration, links, buttons and lists.
-/

namespace PromptTemplates.Standard

/-- What the call offers to the helper. -/
def surroundings? (frame : Frame) : Option Surroundings :=
  match frame.get contextParameter with
  | .helperContext surroundings _ => surroundings
  | _ => none

/-- The formatter that the surroundings give, or the one for their zone. -/
def formatter (frame : Frame) : Except Fault Formatter :=
  match surroundings? frame with
  | none => .ok ⟨none⟩
  | some s =>
    match s.formatter with
    | some f => .ok f
    | none => Formatter.ofChoice s.timezone

/-- What the clock of the surroundings shows. -/
def clock (frame : Frame) : Option Value := (surroundings? frame).map fun s => .moment s.now

/-- An optional parameter. -/
def optional (name : String) (fallback : Value := .null) : Parameter :=
  { name := name, fallback := some fallback }

/-- A required parameter. -/
def required (name : String) : Parameter := { name := name }

/-- The parameter for the surroundings. -/
def context : Parameter := optional contextParameter

/-- Writes the parameter `value` in a style. -/
def write (style : Style) (frame : Frame) (meridiem zone : Value) : Action Value := do
  let f ← Action.ofExcept (formatter frame)
  return .str (← f.format (frame.get "value") style meridiem zone (clock frame))

/-- A helper for dates. -/
def dateHelper (style : Style) : Handler where
  signature := some [optional "value", context]
  run frame := write style frame .null (.str "short")

/-- A helper for times. -/
def timeHelper (style : Style) : Handler where
  signature := some [optional "value", optional "meridiem", context]
  run frame := write style frame (frame.get "meridiem") (.str "short")

/-- A helper for times with the name of the zone. -/
def zoneHelper (style : Style) : Handler where
  signature := some [optional "value", optional "meridiem", optional "style" (.str "short"), context]
  run frame := write style frame (frame.get "meridiem") (frame.get "style")

/-- A helper for relative times. -/
def relativeHelper : Handler where
  signature := some [optional "value", optional "min", optional "max", context]
  run frame := Action.ofExcept do
    let f ← formatter frame
    let text ← f.relative (frame.get "value") ((clock frame).getD .null) (frame.get "min")
      (frame.get "max")
    return .str text

/-- One more than a number. -/
def successor : Value → Except Fault Value
  | .bool b => .ok (.int (if b then 2 else 1))
  | .int n => .ok (.int (n + 1))
  | .float x =>
    match x.toRatio? with
    | some (num, den) => .ok (.float (.ofQuotient (num + den) den))
    | none => .ok (.float x)
  | _ => .error (.plain .badType)

/-- The number of the current iteration, counted from one. -/
def numberHelper : Handler where
  signature := some [context]
  run frame :=
    match frame.get contextParameter with
    | .helperContext _ data =>
      match Entries.get? "index" data with
      | none => pure (.str "")
      | some .null => pure (.str "")
      | some index => Action.ofExcept (successor index)
    | _ => pure (.str "")

/-- A link with a text. -/
def linkHelper : Handler where
  signature := some [required "url", required "text"]
  run frame :=
    pure (.safe ["[" ++ (frame.get "text").text ++ "](" ++ (frame.get "url").text ++ ")"])

/-- A link that opens in a window of its own. -/
def buttonHelper : Handler where
  signature := some [required "url", required "text"]
  run frame :=
    pure (.element "a" [(.str "href", frame.get "url"), (.str "class", .str "button"),
      (.str "target", .str "_blank")] (frame.get "text"))

/-- The members of a value, as they are listed: a text has its characters, a mapping its keys. -/
def members : Value → Except Fault (List Value)
  | .list items => .ok items
  | .tuple items => .ok items
  | .safe parts => .ok (parts.map .str)
  | .str s => .ok (s.toList.map fun c => .str (String.ofList [c]))
  | .bytes octets => .ok (octets.map fun b => .int b.toNat)
  | .map entries => .ok (entries.map (·.1))
  | .block .. => .ok (Value.blockKeys.map .str)
  | _ => .error (.plain .badType)

/-- A list of lines that begin with a hyphen. -/
def listHelper : Handler where
  signature := some [required "items"]
  run frame := Action.ofExcept do
    let items := frame.get "items"
    let items ← if items.isTruthy then members items else pure []
    return .str (String.intercalate "\n" (items.map fun item => "- " ++ item.text))

/-- The standard helpers by name. -/
def helpers : Entries String Handler :=
  [("date", dateHelper .date), ("dateLong", dateHelper .dateLong),
   ("dateMedium", dateHelper .dateMedium), ("dateShort", dateHelper .dateShort),
   ("time", timeHelper .timeMedium), ("timeZone", zoneHelper .timeZone),
   ("timeLong", timeHelper .timeLong), ("timeMedium", timeHelper .timeMedium),
   ("timeShort", timeHelper .timeShort), ("dateTime", timeHelper .dateTimeLong),
   ("dateTimeZone", zoneHelper .dateTimeZone), ("dateTimeLong", timeHelper .dateTimeLong),
   ("dateTimeMedium", timeHelper .dateTimeMedium), ("dateTimeShort", timeHelper .dateTimeShort),
   ("relTime", relativeHelper), ("number", numberHelper), ("link", linkHelper),
   ("button", buttonHelper), ("list", listHelper)]

end PromptTemplates.Standard
