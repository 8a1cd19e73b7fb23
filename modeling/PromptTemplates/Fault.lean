import PromptTemplates.Template.Nesting
import PromptTemplates.Template.Label

/-!
# Faults

What can go wrong, as causes. A `Fault` arises while values are formatted, helpers run or templates
are evaluated; a `ConfigFault` lies in settings, registrations or command-line choices; a
`RenderFault` says which phase of rendering failed. A cause whose wording is fixed has a text; the
others are known by their kind only.
-/

namespace PromptTemplates

/-- The kind of a fault that has no wording of its own. -/
inductive FaultKind where
  | badValue
  | badType
  | missingKey
  | missingAttribute
  | badIndex
  | overflow
  | system
  | other (name : String)
  deriving DecidableEq, Repr

/-- A fault of the configuration. Values are given by their quoted form, paths as they are written. -/
inductive ConfigFault where
  | duplicateParameters (names : String)
  | handlerNotCallable (handler : String)
  | registrationWithout (key : String)
  | unusableHelper (typeName : String)
  | unknownZone (name : String)
  | unknownOptions (names : List String)
  | paramsNotTable (typeName : String)
  | unescapeNotBoolean (value : String)
  | noProfile (name : String)
  | unreadableConfig (path : String)
  | unreadableParams (path : String)
  | unsupportedParams (suffix : String)
  | paramsNotObject (path : String)
  | noSection (name : String) (known : List String)
  deriving DecidableEq, Repr

namespace ConfigFault

/-- The message of a configuration fault. -/
def message : ConfigFault → String
  | .duplicateParameters names => "duplicate parameter names in helper descriptor: " ++ names
  | .handlerNotCallable handler => "helper handler is not callable: " ++ handler
  | .registrationWithout key =>
    "helper mapping is missing '" ++ key ++ "'; expected 'params' and 'handler'"
  | .unusableHelper typeName => "cannot use " ++ typeName ++ " as a template helper"
  | .unknownZone name => "unknown time zone '" ++ name ++ "'"
  | .unknownOptions names => "unknown render option(s): " ++ String.intercalate ", " names
  | .paramsNotTable typeName => "'params' must be a table, got " ++ typeName
  | .unescapeNotBoolean value => "'unescape' must be a boolean, got " ++ value
  | .noProfile name => "profile '" ++ name ++ "' not found in config files"
  | .unreadableConfig path => "Could not read config file " ++ path
  | .unreadableParams path => "could not read params file '" ++ path ++ "'"
  | .unsupportedParams suffix =>
    "unsupported params file type '" ++ suffix ++ "' (use .json or .toml)"
  | .paramsNotObject path => "params file '" ++ path ++ "' must contain an object at the top level"
  | .noSection name known =>
    let known := if known.isEmpty then "none" else String.intercalate ", " known
    "section '" ++ name ++ "' not found in rendered output (sections: " ++ known ++ ")"

end ConfigFault

/-- A fault of formatting, of a helper or of evaluation. `reported` is what a helper reports in its
own words; `helper` is a fault inside the helper of that name. -/
inductive Fault where
  | plain (kind : FaultKind)
  | reported (kind : FaultKind) (text : String)
  | unknownMeridiem (style : String)
  | unknownZoneStyle (style : String)
  | unsupportedStyle (style : String)
  | unformattable (typeName : String)
  | noTime
  | noProperty (name : String)
  | noInclude (name : String)
  | config (cause : ConfigFault)
  | helper (name : String) (cause : Fault)
  deriving DecidableEq, Repr

namespace Fault

/-- A context with the text of its cause, if the cause has one. -/
def withCause (context : String) (cause : Option String) : String :=
  match cause with
  | some text => context ++ ": " ++ text
  | none => context

/-- The text of a fault whose wording is fixed. -/
def text? : Fault → Option String
  | .plain _ => none
  | .reported _ text => some text
  | .unknownMeridiem style => some ("unknown meridiem style '" ++ style ++ "'")
  | .unknownZoneStyle style => some ("unknown time zone name style '" ++ style ++ "'")
  | .unsupportedStyle style => some ("unsupported date style " ++ style)
  | .unformattable typeName => some ("cannot format " ++ typeName ++ " as a date")
  | .noTime => some "no value given and no clock to read the current time from"
  | .noProperty name => some ("Could not find property " ++ name)
  | .noInclude name => some ("The partial " ++ name ++ " could not be found")
  | .config cause => some cause.message
  | .helper name cause => some (withCause ("helper '" ++ name ++ "' failed") cause.text?)

end Fault

/-- Why a template does not compile. -/
inductive CompileFault where
  | nesting (cause : NestingFault)
  | grammar
  deriving DecidableEq, Repr

/-- Why the file of a template cannot be read. -/
inductive SourceFault where
  | notText (path : String)
  | unreadable (path : String)
  deriving DecidableEq, Repr

/-- Why the header block of a rendered text is refused. -/
inductive HeaderFault where
  | malformed
  | notMapping (typeName : String)
  deriving DecidableEq, Repr

/-- A fault of rendering, by phase. `stray` is a fault that no phase accounts for. -/
inductive RenderFault where
  | config (cause : ConfigFault)
  | resolution (cause : SourceFault)
  | compilation (identifier : String) (cause : CompileFault)
  | evaluation (identifier : String) (cause : Fault)
  | helper (name : String) (cause : Fault)
  | extraction (cause : HeaderFault)
  | stray (cause : Fault)
  deriving DecidableEq, Repr

/-- The phases of rendering that a fault can name. -/
inductive Stage where
  | resolution
  | compilation
  | evaluation
  | extraction
  deriving DecidableEq, Repr

namespace RenderFault

/-- The phase that failed. -/
def stage? : RenderFault → Option Stage
  | .resolution _ => some .resolution
  | .compilation .. => some .compilation
  | .evaluation .. => some .evaluation
  | .helper .. => some .evaluation
  | .extraction _ => some .extraction
  | .config _ => none
  | .stray _ => none

/-- The text of a fault whose wording is fixed. -/
def text? : RenderFault → Option String
  | .config cause => some cause.message
  | .resolution (.notText path) => some ("template file '" ++ path ++ "' is not valid utf-8")
  | .resolution (.unreadable path) => some ("failed to read template file '" ++ path ++ "'")
  | .compilation identifier cause =>
    some (Fault.withCause ("Failed to compile template '" ++ templateLabel identifier ++ "'")
      (match cause with
        | .nesting fault => some fault.message
        | .grammar => none))
  | .evaluation identifier cause =>
    some (Fault.withCause ("Render failed for '" ++ templateLabel identifier ++ "'") cause.text?)
  | .helper name cause => (Fault.helper name cause).text?
  | .extraction .malformed => some "Invalid YAML in front matter"
  | .extraction (.notMapping typeName) =>
    some ("Front matter must be a YAML mapping, got " ++ typeName)
  | .stray cause => cause.text?

end RenderFault

end PromptTemplates
