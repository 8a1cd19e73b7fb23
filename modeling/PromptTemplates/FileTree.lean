import PromptTemplates.Entries
import PromptTemplates.Path
import PromptTemplates.Text.Lines
import PromptTemplates.Text.Utf8

/-!
# File trees

The files and directories that a run can see, by the names that lead to them from the root. The working
directory and those above it exist. A path is followed name by name; two dots lead back up, and only a
directory leads on. Text files are read as UTF-8, and their line ends are unified.
-/

namespace PromptTemplates

/-- What stands at a place of a tree. -/
inductive FileNode where
  | directory
  | file (octets : List UInt8)
  deriving DecidableEq, Repr

/-- A tree of files, with the directory at which relative paths start. -/
structure FileTree where
  workingDirectory : Path := {}
  nodes : Entries (List String) FileNode := []
  deriving Repr

/-- Why a text cannot be read: nothing is there, a directory is, or the octets are no text. -/
inductive ReadFault where
  | absent
  | directory
  | notText
  deriving DecidableEq, Repr

namespace FileTree

/-- What stands at the place that names lead to. -/
def nodeAt (tree : FileTree) (place : List String) : Option FileNode :=
  if place.isPrefixOf tree.workingDirectory.names then some .directory else tree.nodes.get? place

/-- The place that a name leads to: two dots lead up, every other name leads down. -/
def step (place : List String) (name : String) : List String :=
  if name = ".." then place.dropLast else place ++ [name]

/-- The place that names lead to, if there are directories all the way. -/
def follow (tree : FileTree) : (place names : List String) → Option (List String)
  | place, [] => some place
  | place, name :: rest =>
    match tree.nodeAt place with
    | some .directory => tree.follow (step place name) rest
    | _ => none

/-- The place at which a path starts. -/
def start (tree : FileTree) (p : Path) : List String :=
  if p.isAbsolute then [] else tree.workingDirectory.names

/-- The place that a path leads to. -/
def place? (tree : FileTree) (p : Path) : Option (List String) :=
  tree.follow (tree.start p) p.names

/-- What stands where a path leads to. -/
def node? (tree : FileTree) (p : Path) : Option FileNode := (tree.place? p).bind tree.nodeAt

/-- Whether a path leads to a file. -/
def isFile (tree : FileTree) (p : Path) : Bool :=
  match tree.node? p with
  | some (.file _) => true
  | _ => false

/-- Whether a text is the path of a file. One that ends at a slash, or at a dot after it, is not. -/
def namesFile (tree : FileTree) (text : String) : Bool :=
  !text.endsWith "/" && !text.endsWith "/." && tree.isFile (Path.ofString text)

/-- Whether a path leads to a directory. -/
def isDirectory (tree : FileTree) (p : Path) : Bool := tree.node? p == some .directory

/-- The text of a file. -/
def readText (tree : FileTree) (p : Path) : Except ReadFault String :=
  match tree.node? p with
  | none => .error .absent
  | some .directory => .error .directory
  | some (.file octets) =>
    match Text.Utf8.decode? octets with
    | some text => .ok (String.ofList (Text.unifyLineEnds text))
    | none => .error .notText

/-- The longest name of a file in octets. -/
def nameLimit : Nat := 255

/-- Writes a file. Its directory has to be there, and no directory may have its name. -/
def write? (tree : FileTree) (p : Path) (octets : List UInt8) : Option FileTree :=
  match tree.place? p with
  | none => none
  | some place =>
    if tree.nodeAt place = some .directory ∨ nameLimit < p.name.utf8ByteSize then none
    else some { tree with nodes := tree.nodes.put place (.file octets) }

/-- The places on the way to a place, the root left out. -/
def above : (place : List String) → List (List String)
  | [] => []
  | [_] => []
  | name :: rest => [name] :: (above rest).map (name :: ·)

/-- Puts a node at the place of a path, with the directories that lead there. -/
def put (tree : FileTree) (p : Path) (node : FileNode) : FileTree :=
  let place := p.names.foldl step (tree.start p)
  let nodes := (above place).foldl (fun nodes d => Entries.put d .directory nodes) tree.nodes
  { tree with nodes := nodes.put place node }

/-- Removes what a path leads to. -/
def remove (tree : FileTree) (p : Path) : FileTree :=
  match tree.place? p with
  | some place => { tree with nodes := tree.nodes.filter fun (q, _) => !place.isPrefixOf q }
  | none => tree

end FileTree

end PromptTemplates
