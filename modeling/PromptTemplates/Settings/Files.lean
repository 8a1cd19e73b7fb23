import PromptTemplates.FileTree
import PromptTemplates.Settings.Config
import PromptTemplates.Toml.Table

/-!
# Configuration files

The configuration of the user is the lowest layer. On top of it lies that of the project: of the three
files that can hold it, the first one that holds a setting. A project file that is shared with other
tools has the settings in a table of its own.
-/

namespace PromptTemplates.Config

/-- The file that is shared with other tools. -/
def sharedFile : String := "pyproject.toml"

/-- The files of a project, in the order in which they are tried. -/
def projectFiles : List String := [".promptkit.toml", "promptkit.toml", sharedFile]

/-- The tables that lead to the settings in a shared file. -/
def sharedTables : List String := ["tool", "promptkit"]

/-- The value that keys lead to; where a key is missing, an empty table. -/
def descend : (keys : List String) → Value → Except Fault Value
  | [], v => .ok v
  | key :: rest, v => do descend rest ((← member? key v).getD (.map []))

/-- Parses the text of a file. -/
def parse (p : Path) (text : String) : Except Fault Value :=
  match Toml.read text.toList with
  | .ok table => .ok (.map table)
  | .error .malformed => .error (.config (.unreadableConfig p.text))
  | .error (.clash kind) => .error (.plain kind)

/-- What a file holds. A file that is not there is empty. -/
def load (files : FileTree) (p : Path) : Action Value := do
  match files.readText p with
  | .error .notText =>
    note .configFileLoading
    Action.failWith (.other "UnicodeDecodeError")
  | .error _ => return .map []
  | .ok text =>
    note .configFileLoading
    let data ← Action.ofExcept (parse p text)
    Action.ofExcept (descend (if p.name = sharedFile then sharedTables else []) data)

/-- Puts the settings of the user on top of a configuration. -/
def addUser (files : FileTree) (p : Path) (config : Config) : Action Config := do
  if files.isFile p then
    note .userConfigLoading
    let data ← load files p
    Action.ofExcept (mergeValue config data)
  else return config

/-- Puts the settings of the first file that holds any on top of a configuration. -/
def addProject (files : FileTree) (config : Config) : List Path → Action Config
  | [] => return config
  | p :: rest => do
    if files.isFile p then
      let data ← load files p
      if data.isTruthy then
        note .projectConfigLoading
        Action.ofExcept (mergeValue config data)
      else addProject files config rest
    else addProject files config rest

/-- The configuration for a project directory. -/
def loadAll (files : FileTree) (user directory : Path) : Action Config := do
  let config ← addUser files user []
  let config ← addProject files config
    (projectFiles.map fun name => directory.join (Path.ofString name))
  if config.isEmpty then note .noConfigLoaded
  return config

end PromptTemplates.Config
