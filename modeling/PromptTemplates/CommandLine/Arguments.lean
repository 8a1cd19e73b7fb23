import PromptTemplates.FileTree

/-!
# Arguments of the command line

Options come in a long and a short form. The value of a long one follows an equals sign or is the next
argument; short ones without a value can be written together, and the value of a short one is the rest
of the argument or the next one. Two hyphens end the options. Everything else is the template, of which
there has to be exactly one.
-/

namespace PromptTemplates.CommandLine

/-- The options without a value. -/
inductive Flag where
  | unescape (value : Bool)
  | clipboard
  | summary
  | verbose
  | jsonLogs
  | version
  | help
  deriving DecidableEq, Repr

/-- The options with a value. -/
inductive Field where
  | directory
  | variable
  | paramsFile
  | baseUrl
  | timezone
  | format
  | sectionName
  | output
  | profile
  deriving DecidableEq, Repr

/-- The options. -/
inductive Switch where
  | flag (f : Flag)
  | field (f : Field)
  deriving DecidableEq, Repr

/-- The long names. -/
def longNames : List (String × Switch) :=
  [("--dir", .field .directory), ("--var", .field .variable), ("--params-file", .field .paramsFile),
   ("--base-url", .field .baseUrl), ("--timezone", .field .timezone),
   ("--unescape", .flag (.unescape true)), ("--no-unescape", .flag (.unescape false)),
   ("--format", .field .format), ("--section", .field .sectionName), ("--output", .field .output),
   ("--clipboard", .flag .clipboard), ("--console-summary", .flag .summary),
   ("--config-profile", .field .profile), ("--verbose", .flag .verbose),
   ("--force-json-logs", .flag .jsonLogs), ("--version", .flag .version), ("--help", .flag .help)]

/-- The short names. -/
def shortNames : List (Char × Switch) :=
  [('d', .field .directory), ('f', .field .format), ('s', .field .sectionName), ('o', .field .output),
   ('v', .flag .verbose), ('h', .flag .help)]

/-- An option that was given, with its value if it has one. -/
inductive Given where
  | flag (f : Flag)
  | field (f : Field) (value : String)
  deriving DecidableEq, Repr

/-- How the command line is misused. -/
inductive UsageFault where
  | unknownOption (name : String)
  | missingValue (f : Field)
  | unexpectedValue (f : Flag)
  | missingTemplate
  | tooManyArguments
  | unknownFormat (name : String)
  | unusablePath (f : Field) (path : String)
  deriving DecidableEq, Repr

/-- Splits an argument at its first equals sign. -/
def splitValue (arg : String) : String × Option String :=
  let name := arg.toList.takeWhile (· != '=')
  match arg.toList.dropWhile (· != '=') with
  | [] => (arg, none)
  | _ :: value => (String.ofList name, some (String.ofList value))

/-- Reads short options that are written together. The last one may need a value that is still to come. -/
def readCluster : List Char → Except UsageFault (List Given × Option Field)
  | [] => .ok ([], none)
  | c :: rest =>
    match shortNames.lookup c with
    | none => .error (.unknownOption (String.ofList ['-', c]))
    | some (.flag f) => do
      let (given, pending) ← readCluster rest
      return (.flag f :: given, pending)
    | some (.field f) =>
      if rest.isEmpty then .ok ([], some f) else .ok ([.field f (String.ofList rest)], none)

/-- Reads an argument that begins with a hyphen. -/
def readOption (arg : String) : Except UsageFault (List Given × Option Field) :=
  let (name, value) := splitValue arg
  match longNames.lookup name, value with
  | some (.field f), some value => .ok ([.field f value], none)
  | some (.field f), none => .ok ([], some f)
  | some (.flag f), some _ => .error (.unexpectedValue f)
  | some (.flag f), none => .ok ([.flag f], none)
  | none, _ =>
    match arg.toList with
    | '-' :: '-' :: _ => .error (.unknownOption name)
    | cs => readCluster (cs.drop 1)

/-- Whether an argument is read as an option. A single hyphen is not. -/
def isOption (arg : String) : Bool := arg.toList.head? == some '-' && arg != "-"

/-- Splits arguments into the options that are given and the rest. -/
def scan : List String → Except UsageFault (List Given × List String)
  | [] => .ok ([], [])
  | arg :: rest =>
    if arg = "--" then .ok ([], rest)
    else if isOption arg then
      match readOption arg with
      | .error fault => .error fault
      | .ok (given, none) => do
        let (more, others) ← scan rest
        return (given ++ more, others)
      | .ok (given, some f) =>
        match rest with
        | [] => .error (.missingValue f)
        | value :: rest => do
          let (more, others) ← scan rest
          return (given ++ .field f value :: more, others)
    else do
      let (more, others) ← scan rest
      return (more, arg :: others)

/-- What is written of a document. -/
inductive OutputFormat where
  | body
  | json
  | sections
  deriving DecidableEq, Repr

/-- The name of a format. -/
def OutputFormat.name : OutputFormat → String
  | .body => "body"
  | .json => "json"
  | .sections => "sections"

/-- The format of a name. -/
def OutputFormat.ofName? (name : String) : Option OutputFormat :=
  [OutputFormat.body, .json, .sections].find? fun format => format.name == name

/-- The options of a run. -/
structure Options where
  template : String
  directory : Option String := none
  assignments : List String := []
  paramsFile : Option String := none
  baseUrl : Option String := none
  timezone : Option String := none
  unescape : Option Bool := none
  formatName : String := OutputFormat.name .body
  sectionName : Option String := none
  output : Option String := none
  clipboard : Bool := false
  summary : Bool := false
  profile : Option String := none
  verbosity : Nat := 0
  jsonLogs : Bool := false
  deriving Repr

namespace Options

/-- Applies an option. A later one with the same name replaces the earlier one. -/
def apply (o : Options) : Given → Options
  | .flag (.unescape value) => { o with unescape := some value }
  | .flag .clipboard => { o with clipboard := true }
  | .flag .summary => { o with summary := true }
  | .flag .verbose => { o with verbosity := o.verbosity + 1 }
  | .flag .jsonLogs => { o with jsonLogs := true }
  | .flag .version => o
  | .flag .help => o
  | .field .directory value => { o with directory := some value }
  | .field .variable value => { o with assignments := o.assignments ++ [value] }
  | .field .paramsFile value => { o with paramsFile := some value }
  | .field .baseUrl value => { o with baseUrl := some value }
  | .field .timezone value => { o with timezone := some value }
  | .field .format value => { o with formatName := value }
  | .field .sectionName value => { o with sectionName := some value }
  | .field .output value => { o with output := some value }
  | .field .profile value => { o with profile := some value }

/-- Requires that the format is known. -/
def checkFormat (o : Options) : Except UsageFault Unit :=
  if (OutputFormat.ofName? o.formatName).isSome then .ok () else .error (.unknownFormat o.formatName)

/-- The format that is asked for. -/
def format (o : Options) : OutputFormat := (OutputFormat.ofName? o.formatName).getD .body

/-- Requires that a path that was given is usable. -/
def requirePath (f : Field) (isUsable : String → Bool) : Option String → Except UsageFault Unit
  | none => .ok ()
  | some path => if isUsable path then .ok () else .error (.unusablePath f path)

/-- Requires that the template directory is no file, that the file of parameters is there, and that the
output is no directory. An empty path leads nowhere. -/
def checkPaths (o : Options) (files : FileTree) : Except UsageFault Unit := do
  requirePath .directory (fun path => !files.namesFile path) o.directory
  requirePath .paramsFile files.namesFile o.paramsFile
  requirePath .output (fun path => path.isEmpty || !files.isDirectory (Path.ofString path)) o.output

end Options

/-- What a command line asks for. -/
inductive Request where
  | showVersion
  | showHelp
  | render (o : Options)
  deriving Repr

/-- The first option that asks for information only. -/
def inquiry? (given : List Given) : Option Request :=
  given.findSome? fun
    | .flag .version => some .showVersion
    | .flag .help => some .showHelp
    | _ => none

/-- Reads a command line. Asking for information goes before all checks of values. -/
def Request.parse (args : List String) : Except UsageFault Request := do
  let (given, others) ← scan args
  match inquiry? given, others with
  | some request, _ => return request
  | none, [] => throw .missingTemplate
  | none, [template] => return .render (given.foldl Options.apply { template := template })
  | none, _ => throw .tooManyArguments

/-- Checks the values of a request against the files that are there. -/
def Request.check (files : FileTree) : Request → Except UsageFault Unit
  | .render o => do
    o.checkFormat
    o.checkPaths files
  | _ => .ok ()

/-- Reads a command line and checks its values. -/
def Request.ofArguments (args : List String) (files : FileTree) : Except UsageFault Request := do
  let request ← parse args
  request.check files
  return request

/-- The long name of an option. -/
def Switch.longName (s : Switch) : String :=
  ((longNames.find? fun entry => entry.2 == s).map (·.1)).getD ""

/-- The message of a misuse. -/
def UsageFault.message : UsageFault → String
  | .unknownOption name => "no such option: " ++ name
  | .missingValue f => "option " ++ (Switch.field f).longName ++ " requires a value"
  | .unexpectedValue f => "option " ++ (Switch.flag f).longName ++ " takes no value"
  | .missingTemplate => "missing template"
  | .tooManyArguments => "more than one template"
  | .unknownFormat name => "no such format: " ++ name
  | .unusablePath f path => "unusable path for " ++ (Switch.field f).longName ++ ": " ++ path

/-- The lines that explain the use: the form of a command line and the options. -/
def helpLines : List String :=
  let line (name : String) : Switch → String
    | .flag _ => "  " ++ name
    | .field _ => "  " ++ name ++ " VALUE"
  ["Usage: promptkit [OPTIONS] TEMPLATE", "", "Options:"] ++
    longNames.map fun (name, s) => line name s

end PromptTemplates.CommandLine
