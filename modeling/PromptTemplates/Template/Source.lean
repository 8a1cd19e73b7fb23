import PromptTemplates.FileTree
import PromptTemplates.Journal

/-!
# The sources of templates

A template is identified by a text. With a template directory it is the name of a file there, which is
tried with the two usual extensions if it has none. Without a directory, or where there is no such
file, the text itself is the source.
-/

namespace PromptTemplates.Source

/-- The extensions of template files, in the order in which they are tried. -/
def extensions : List String := [".md", ".txt"]

/-- The text of a template file, if there is one. -/
def readFile? (files : FileTree) (p : Path) : Except SourceFault (Option String) :=
  match files.readText p with
  | .ok text => .ok (some text)
  | .error .absent => .ok none
  | .error .directory => .error (.unreadable p.text)
  | .error .notText => .error (.notText p.text)

/-- The text of the first of some files that is there. -/
def readFirst? (files : FileTree) : List Path → Except SourceFault (Option String)
  | [] => .ok none
  | p :: rest => do
    match ← readFile? files p with
    | some text => return some text
    | none => readFirst? files rest

/-- The files that a path can stand for. -/
def candidates (p : Path) : List Path :=
  if !p.suffix.isEmpty then [p]
  else if p.name.isEmpty then []
  else extensions.map fun extension => p.withName (p.name ++ extension)

/-- The text of the file that an identifier names in a directory, if there is one. An empty text names
no directory and no file. -/
def readNamed? (files : FileTree) (directory : Option String) (identifier : String) :
    Except SourceFault (Option String) :=
  match directory with
  | none => .ok none
  | some directory =>
    if directory.isEmpty || identifier.isEmpty then .ok none
    else readFirst? files (candidates ((Path.ofString directory).join (Path.ofString identifier)))

/-- The source of the template with an identifier. -/
def resolve (files : FileTree) (directory : Option String) (identifier : String) :
    Except SourceFault String := do
  return (← readNamed? files directory identifier).getD identifier

/-- The events that the search for a source leaves: whether a file was found, if one was looked for. -/
def events (files : FileTree) (directory : Option String) (identifier : String) : List Event :=
  if directory.all (·.isEmpty) || identifier.isEmpty then []
  else
    match readNamed? files directory identifier with
    | .error _ => []
    | .ok found => [if found.isSome then .templateLoaded else .templateNotFound]

end PromptTemplates.Source
