import PromptTemplates.Settings.Options
import PromptTemplates.Value.Quoted

/-!
# Configuration

A configuration is a table of settings. A layer on top of another one wins setting by setting, except
that the tables of parameters and of profiles are layered name by name. A profile is a layer that is
kept in the configuration and put on top of it when it is selected. Render options are made from the
settings that have the right types.
-/

namespace PromptTemplates

/-- A table of settings. -/
abbrev Config := List (Value × Value)

namespace Config

/-- The settings whose tables are layered name by name. -/
def layeredKeys : List String := ["params", "profiles"]

/-- The setting that holds the profiles. -/
def profilesKey : String := "profiles"

/-- The setting of a profile that describes it. -/
def descriptionKey : String := "description"

/-- Puts one setting on top of a configuration. -/
def overlay (lower : Config) (key value : Value) : Config :=
  let isLayered := layeredKeys.any fun name => key == .str name
  match if isLayered then Entries.get? key lower else none, value with
  | some (.map below), .map above => Entries.put key (.map (Entries.putAll below above)) lower
  | _, _ => Entries.put key value lower

/-- Puts a layer on top of a configuration. -/
def merge (lower upper : Config) : Config :=
  upper.foldl (fun config (key, value) => overlay config key value) lower

/-- Puts a value on top of a configuration. Only a table is a layer. -/
def mergeValue (lower : Config) : Value → Except Fault Config
  | .map upper => .ok (merge lower upper)
  | _ => .error (.plain .missingAttribute)

/-- The entry of a table; a value of another type has none to look up. -/
def member? (key : String) : Value → Except Fault (Option Value)
  | .map entries => .ok (Value.entry? key entries)
  | _ => .error (.plain .missingAttribute)

/-- The profile of a name. -/
def profile (config : Config) (name : String) : Except Fault Value := do
  let profiles := (Value.entry? profilesKey config).getD (.map [])
  match ← member? name profiles with
  | none => throw (.config (.noProfile name))
  | some .null => throw (.config (.noProfile name))
  | some v => return v

/-- The settings without the profiles, with the selected profile on top of them. -/
def select (config : Config) (name : Option String) : Action Config := do
  let settings := Entries.erase (.str profilesKey) config
  match name.filter (!·.isEmpty) with
  | none => return settings
  | some name =>
    let found ← Action.ofExcept (profile config name)
    note .profileApplied
    match found with
    | .map entries => return merge settings (Entries.erase (.str descriptionKey) entries)
    | _ => Action.failWith .missingAttribute

end Config

/-- The settings that render options are made from. -/
inductive Setting where
  | directory
  | baseUrl
  | timezone
  | unescape
  | params
  deriving DecidableEq, Repr

/-- The keys of the settings. The directory has two. -/
def Setting.keys : List (String × Setting) :=
  [("dir", .directory), ("directory", .directory), ("base_url", .baseUrl), ("timezone", .timezone),
   ("unescape", .unescape), ("params", .params)]

/-- The setting of a key. -/
def Setting.ofKey? : Value → Option Setting
  | .str name => keys.lookup name
  | _ => none

namespace RenderOptions

/-- The directory that a value denotes, with the home directory for a tilde. -/
def directoryOf (home : String) : Value → Except Fault (Option Path)
  | .null => .ok none
  | v => do
    match (← pathOfValue v).expandHome? home with
    | some p => return some p
    | none => throw (.plain (.other "RuntimeError"))

/-- Applies a setting. -/
def set (home : String) (o : RenderOptions) (setting : Setting) (v : Value) :
    Except Fault RenderOptions :=
  match setting, v with
  | .directory, v => do return { o with directory := ← directoryOf home v }
  | .baseUrl, v => .ok { o with baseUrl := v }
  | .timezone, v => .ok { o with timezone := v }
  | .unescape, .bool b => .ok { o with unescape := .bool b }
  | .unescape, v => .error (.config (.unescapeNotBoolean v.quoted))
  | .params, .map entries => .ok { o with params := entries }
  | .params, v => .error (.config (.paramsNotTable v.typeName))

/-- Applies settings in order. Keys that are no settings are passed over. -/
def setAll (home : String) : RenderOptions → Config → Action RenderOptions
  | o, [] => return o
  | o, (key, v) :: rest =>
    match Setting.ofKey? key with
    | none => do
      note .unknownConfigKey
      setAll home o rest
    | some setting => do
      let o ← Action.ofExcept (o.set home setting v)
      setAll home o rest

/-- The options that a configuration describes. -/
def ofConfig (home : String) (config : Config) : Action RenderOptions := do
  let o ← setAll home {} config
  return { o with baseUrl := ← Action.ofExcept (cleanBase o.baseUrl) }

end RenderOptions

end PromptTemplates
