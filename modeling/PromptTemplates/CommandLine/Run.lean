import PromptTemplates.CommandLine.Output
import PromptTemplates.Json.Reader
import PromptTemplates.Renderer
import PromptTemplates.Settings.Files
import PromptTemplates.Settings.Pair
import PromptTemplates.Threshold

/-!
# A run of the command line

A run puts the configuration, the file of parameters and the options of the command line on top of one
another, renders the template and writes the result to a file, to the clipboard or to the standard
output. Nothing is written before the whole text is there. What a run has done is kept in a record, also
when it fails.
-/

namespace PromptTemplates.CommandLine

/-- What a run finds: its arguments and its input, the files, the home directory and the configuration
of the user, the current time, whether the clipboard works, and which characters the standard output
can show. -/
structure Surround where
  args : List String
  input : String := ""
  files : FileTree
  home : String
  userConfig : Path
  clock : Calendar.Moment
  clipboardWorks : Bool := true
  canShow : Char → Bool := fun _ => true

/-- What a run has done so far: the text on the standard output, the messages, the texts on the
clipboard, the files, and the summary. -/
structure Effects where
  files : FileTree
  stdout : String := ""
  messages : List String := []
  copied : List String := []
  summary : Option Summary := none

/-- Why a run fails: rendering failed, a file cannot be written, or something else went wrong. -/
inductive RunFault where
  | rendering (cause : RenderFault)
  | unwritable (path : String)
  deriving DecidableEq, Repr

namespace RunFault

/-- A fault of the configuration or of the output. -/
def ofFault (fault : Fault) : RunFault := .rendering (.ofFault fault)

/-- Whether a fault is one that the library knows. -/
def isKnown : RunFault → Bool
  | .rendering (.stray _) => false
  | _ => true

/-- The text of a fault whose wording is fixed. -/
def text? : RunFault → Option String
  | .rendering cause => cause.text?
  | .unwritable path => some ("failed to write to file '" ++ path ++ "'")

end RunFault

/-- A step of a run. Its effects and the journal survive a failure. -/
abbrev RunAction := ExceptT RunFault (StateT Effects Logged)

namespace RunAction

/-- Notes an event. -/
def note (e : Event) : RunAction Unit := fun effects => do
  PromptTemplates.note e
  return (.ok (), effects)

/-- A step without effects. -/
def ofAction {α : Type} (action : Action α) : RunAction α := fun effects => do
  match ← action.run with
  | .ok a => return (.ok a, effects)
  | .error fault => return (.error (.ofFault fault), effects)

/-- A step that only notes events. -/
def ofLogged {α : Type} (action : Logged α) : RunAction α := ofAction (ExceptT.lift action)

/-- Adds a message. -/
def say (message : String) : RunAction Unit :=
  modifyThe Effects fun e => { e with messages := e.messages ++ [message] }

end RunAction

open RunAction

/-- Reads the text of a file of parameters by its extension. -/
def parseParams (p : Path) (text : String) : Except Fault Value :=
  let unreadable := Fault.config (.unreadableParams p.text)
  let extension := String.ofList (p.suffix.toList.map Char.toLower)
  if extension = ".json" then
    match Json.read? text.toList with
    | some j => .ok j.toValue
    | none => .error unreadable
  else if extension = ".toml" then
    match Toml.read text.toList with
    | .ok table => .ok (.map table)
    | .error .malformed => .error unreadable
    | .error (.clash kind) => .error (.plain kind)
  else .error (.config (.unsupportedParams p.suffix))

/-- The parameters in a file. -/
def readParams (files : FileTree) (p : Path) : Except Fault (List (Value × Value)) :=
  match files.readText p with
  | .error _ => .error (.config (.unreadableParams p.text))
  | .ok text => do
    match ← parseParams p text with
    | .map entries => .ok entries
    | _ => .error (.config (.paramsNotObject p.text))

/-- The parameters that a run is given: those of the file, and the variables on top of them. -/
def params (files : FileTree) (o : Options) : Action (List (Value × Value)) := do
  let base ← match o.paramsFile with
    | none => pure []
    | some path => do
      let entries ← Action.ofExcept (readParams files (Path.ofString path))
      note .paramsFileLoaded
      pure entries
  let assigned ← ExceptT.lift (Pair.tableNoted o.assignments)
  return Entries.putAll base (assigned.map fun (name, v) => (.str name, v))

/-- A text as a value; null if there is none. -/
def textOrNull : Option String → Value
  | some s => .str s
  | none => .null

/-- The options of the command line as a layer. -/
def Options.layer (o : Options) (params : List (Value × Value)) : OptionLayer where
  directory := textOrNull o.directory
  baseUrl := textOrNull o.baseUrl
  timezone := textOrNull o.timezone
  unescape := Value.ofOption (o.unescape.map .bool)
  params := .map params

/-- The render options of a run. -/
def renderOptions (s : Surround) (o : Options) : Action RenderOptions := do
  let config ← Config.loadAll s.files s.userConfig s.files.workingDirectory
  let selected ← Config.select config o.profile
  let options ← RenderOptions.ofConfig s.home selected
  let params ← params s.files o
  Action.ofExcept (options.merged (o.layer params))

/-- Writes a text to the standard output. Characters that it cannot show are written all the same. -/
def writeStdout (canShow : Char → Bool) (text : String) : RunAction Unit := do
  if !text.toList.all canShow then RunAction.note .stdoutFallback
  modifyThe Effects fun e => { e with stdout := e.stdout ++ text }

/-- Writes a text to a file. -/
def writeFile (p : Path) (text : String) : RunAction Unit := do
  RunAction.note .writingToFile
  match (← getThe Effects).files.write? p (Text.Utf8.encode text) with
  | none =>
    RunAction.note .fileNotWritten
    throw (.unwritable p.text)
  | some files =>
    modifyThe Effects fun e => { e with files := files }
    RunAction.note .fileWritten
    say ("Info: Output written to: " ++ p.text)

/-- Copies a text to the clipboard, and tells whether that worked. -/
def copy (works : Bool) (text : String) : RunAction Bool := do
  RunAction.note .copying
  if works then
    modifyThe Effects fun e => { e with copied := e.copied ++ [text] }
    RunAction.note .copied
    say "info: rendered output copied to clipboard."
  else
    RunAction.note .copyFailed
    say "warning: could not copy to clipboard."
    say ("ensure a clipboard mechanism (e.g., xclip, xsel on linux; pbcopy on macos) " ++
      "is installed.")
  return works

/-- Writes the text of a run to where it is wanted. Without a file and a working clipboard it goes to
the standard output, and also when copying fails. -/
def deliver (s : Surround) (o : Options) (text : String) : RunAction Unit := do
  if let some path := o.output then writeFile (Path.ofString path) text
  let copied ← if o.clipboard then copy s.clipboardWorks (Text.trim text) else pure false
  if o.clipboard && !copied then
    say "Info: Clipboard copy failed. Outputting to stdout instead."
  if (o.output.isNone && !o.clipboard) || (o.clipboard && !copied) then
    RunAction.note .writingToStdout
    writeStdout s.canShow text

/-- Renders a template. -/
def renderDocument (s : Surround) (o : Options) : RunAction Document := do
  let template := if o.template = "-" then s.input else o.template
  let options ← ofAction (renderOptions s o)
  let r ← ofAction (Renderer.make options {})
  fun effects => do
    match ← (r.render s.files s.clock { template := template }).run {} with
    | (.ok d, _) => return (.ok d, effects)
    | (.error fault, _) => return (.error (.rendering fault), effects)

/-- Renders a template and delivers the result. -/
def render (s : Surround) (o : Options) : RunAction Unit := do
  let d ← renderDocument s o
  let text ← ofAction (Action.ofExcept (formatted o.format o.sectionName d))
  deliver s o (text ++ "\n")
  if o.summary then modifyThe Effects fun e => { e with summary := some (summary d) }

/-- Notes how a run failed. -/
def noteFailure (fault : RunFault) : RunAction Unit :=
  RunAction.note (if fault.isKnown then .applicationError else .unexpectedError)

/-- A run with its first and last notes. -/
def attempt (s : Surround) (o : Options) : RunAction Unit := do
  RunAction.note .loggingConfigured
  RunAction.note .commandInvoked
  tryCatch (render s o) fun fault => do
    noteFailure fault
    throw fault

/-- The version. -/
def versionText : String := "promptkit, version 0.1.0"

/-- The threshold of the events that are shown, by verbosity. -/
def Options.threshold (o : Options) : Threshold :=
  match o.verbosity with
  | 0 => .atLeast .warning
  | 1 => .atLeast .info
  | _ => .atLeast .debug

/-- The paths at which a run looks for files, as far as the files that are known tell. The directory of
the template may be known only from the configuration. -/
def Surround.lookups (s : Surround) : List Path :=
  let project := Config.projectFiles.map fun name => s.files.workingDirectory.join (Path.ofString name)
  let requested := match Request.parse s.args with
    | .ok (.render o) =>
      let templates := match (renderOptions s o).outcome with
        | .ok { directory := some d, .. } => Source.candidates (d.join (Path.ofString o.template))
        | _ => []
      [o.directory, o.paramsFile, o.output].filterMap (·.map Path.ofString) ++ templates
    | _ => []
  s.userConfig :: project ++ requested

/-- The result of a run. `logs` are the events that are shown, the earliest first. -/
structure Result where
  exitCode : Nat
  effects : Effects
  fault : Option RunFault := none
  usage : Option UsageFault := none
  options : Option Options := none
  logs : List Event := []

/-- Runs the command line. -/
def run (s : Surround) : Result :=
  let effects : Effects := { files := s.files }
  match Request.ofArguments s.args s.files with
  | .error fault => { exitCode := 2, effects := effects, usage := some fault }
  | .ok .showVersion => { exitCode := 0, effects := { effects with stdout := versionText ++ "\n" } }
  | .ok .showHelp =>
    { exitCode := 0, effects := { effects with stdout := String.join (helpLines.map (· ++ "\n")) } }
  | .ok (.render o) =>
    let ((outcome, effects), journal) := ((attempt s o).run.run effects).run []
    let logs := journal.reverse.filter o.threshold.shows
    match outcome with
    | .ok () => { exitCode := 0, effects := effects, options := some o, logs := logs }
    | .error fault =>
      { exitCode := 1, effects := effects, fault := some fault, options := some o, logs := logs }

end PromptTemplates.CommandLine
