/-!
# Paths

A path is a root and the names that lead on from it. Empty names and names that are a single dot are
left out; two dots stay.
-/

namespace PromptTemplates

/-- A path. The root is empty for a relative path; otherwise it is one slash or, for a path that begins
with exactly two, two slashes. -/
structure Path where
  root : String := ""
  names : List String := []
  deriving DecidableEq, Repr, Inhabited

namespace Path

/-- Cuts a text at its slashes. -/
def splitSlashes : List Char → List (List Char)
  | [] => [[]]
  | '/' :: rest => [] :: splitSlashes rest
  | c :: rest =>
    match splitSlashes rest with
    | [] => [[c]]
    | name :: names => (c :: name) :: names

/-- The root that a text begins with. -/
def rootOf : List Char → String
  | ['/', '/'] => "//"
  | '/' :: '/' :: c :: _ => if c = '/' then "/" else "//"
  | '/' :: _ => "/"
  | _ => ""

/-- Whether a name leads anywhere. -/
def isStep (name : List Char) : Bool := !name.isEmpty && name != ['.']

/-- The path that a text denotes. -/
def ofString (s : String) : Path where
  root := rootOf s.toList
  names := ((splitSlashes s.toList).filter isStep).map String.ofList

/-- The text of a path. The empty relative path is a dot. -/
def text (p : Path) : String :=
  let text := p.root ++ String.intercalate "/" p.names
  if text.isEmpty then "." else text

/-- Whether the path starts at a root. -/
def isAbsolute (p : Path) : Bool := !p.root.isEmpty

/-- The path that leads on from `p`; an absolute path stands for itself. -/
def join (p q : Path) : Path := if q.isAbsolute then q else { p with names := p.names ++ q.names }

/-- The last name, empty if there is none. -/
def name (p : Path) : String := p.names.getLast?.getD ""

/-- The path with its last name replaced. -/
def withName (p : Path) (name : String) : Path := { p with names := p.names.dropLast ++ [name] }

/-- The last dot of a name and what follows it, unless the dot is the first or the last character. -/
def suffix (p : Path) : String :=
  let name := p.name.toList
  let extension := (name.reverse.takeWhile (· != '.')).reverse
  if extension.isEmpty || name.length ≤ extension.length + 1 then ""
  else String.ofList ('.' :: extension)

/-- The path with the first name replaced by the home directory if it is a tilde. A tilde with the name
of another user has no replacement. -/
def expandHome? (home : String) (p : Path) : Option Path :=
  match p.names with
  | [] => some p
  | first :: rest =>
    if p.isAbsolute || first.toList.head? ≠ some '~' then some p
    else if first = "~" then
      let base := ofString home
      some { base with names := base.names ++ rest }
    else none

end Path

end PromptTemplates
