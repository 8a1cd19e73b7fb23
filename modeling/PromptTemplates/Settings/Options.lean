import PromptTemplates.Helper.Registration
import PromptTemplates.Calendar.Coerce
import PromptTemplates.Path
import PromptTemplates.Text.Blank

/-!
# Render options

The options of a render call. Settings are kept as the values they were given as; what they have to be
is checked where they are used. Layers of options are put on top of one another: a setting of the upper
layer replaces the one below unless it is null, while parameters and helpers are layered by name.
-/

namespace PromptTemplates

/-- The options of a render call. -/
structure RenderOptions where
  directory : Option Path := none
  baseUrl : Value := .null
  params : List (Value × Value) := []
  helpers : Entries String Registration := []
  timezone : Value := .null
  unescape : Value := .bool true
  now : Option Calendar.Moment := none
  formatter : Option Formatter := none

/-- A layer of options. A setting that is null or absent leaves the layer below as it is. `unknown` are
the names of settings that do not exist. -/
structure OptionLayer where
  directory : Value := .null
  baseUrl : Value := .null
  params : Value := .null
  helpers : Entries String Registration := []
  timezone : Value := .null
  unescape : Value := .null
  now : Option Calendar.Moment := none
  formatter : Option Formatter := none
  unknown : List String := []

namespace RenderOptions

/-- The path that a value denotes. -/
def pathOfValue : Value → Except Fault Path
  | .str s => .ok (Path.ofString s)
  | _ => .error (.plain .badType)

/-- A base address without slashes at its end. A value that does not count as true stays as it is. -/
def cleanBase (v : Value) : Except Fault Value :=
  match v with
  | .str s => .ok (.str (Text.dropEndAll '/' s))
  | v => if v.isTruthy then .error (.plain .missingAttribute) else .ok v

/-- The entries of a mapping; null and everything that does not count as true has none. -/
def tableOf : Value → Except Fault (List (Value × Value))
  | .map entries => .ok entries
  | v => if v.isTruthy then .error (.plain .badType) else .ok []

/-- The upper value, unless it is null. -/
def overlay (upper lower : Value) : Value := if upper.isNull then lower else upper

/-- Puts a layer on top of the options. -/
def merged (o : RenderOptions) (layer : OptionLayer) : Except Fault RenderOptions := do
  if !layer.unknown.isEmpty then throw (.config (.unknownOptions layer.unknown))
  let params := Entries.putAll o.params (← tableOf layer.params)
  let directory ← match layer.directory with
    | .null => pure o.directory
    | v => some <$> pathOfValue v
  return {
    directory := directory
    baseUrl := ← cleanBase (overlay layer.baseUrl o.baseUrl)
    params := params
    helpers := Entries.putAll o.helpers layer.helpers
    timezone := overlay layer.timezone o.timezone
    unescape := overlay layer.unescape o.unescape
    now := layer.now <|> o.now
    formatter := layer.formatter <|> o.formatter }

/-- The zone that the options ask for. -/
def zoneChoice (o : RenderOptions) : ZoneChoice :=
  match o.timezone with
  | .str s => if s.isEmpty then .here else .named s
  | v => if v.isTruthy then .illTyped else .here

/-- What the options offer to helpers; `clock` is the time when they set none. -/
def surroundings (o : RenderOptions) (clock : Calendar.Moment) : Surroundings where
  baseUrl := o.baseUrl.string?
  timezone := o.zoneChoice
  formatter := o.formatter
  now := o.now.getD clock

end RenderOptions

end PromptTemplates
