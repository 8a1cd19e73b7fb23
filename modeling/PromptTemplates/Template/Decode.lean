import PromptTemplates.Entries
import PromptTemplates.Template.Tree
import PromptTemplates.Text.Escaped

/-!
# The names in a template

When a template has been read, the escapes in its names are decoded: the segments of paths as between
single quotes, the names of helpers in calls and of included templates as between double quotes. A
template is sound if all of this can be done, the arguments of its tags are orderly, and no text among
them holds a null character.
-/

namespace PromptTemplates

open Text (unescapeName?)

/-- The arguments, if all their values are there. -/
def Arguments.settle? (arguments : List (Option String × Option Argument)) : Option Arguments :=
  arguments.mapM fun (key, a) => a.map fun a => (key, a)

/-- A path with its segments decoded. -/
def TemplatePath.decode? (path : TemplatePath) : Option TemplatePath :=
  path.mapM fun segment => unescapeName? '\'' segment

mutual

/-- An argument with its names decoded, if it is sound. -/
def Argument.decode? : Argument → Option Argument
  | .literal (.text s) => if s.contains '\x00' then none else some (.literal (.text s))
  | .literal l => some (.literal l)
  | .path segments => (TemplatePath.decode? segments).map .path
  | .call helper arguments => do
    let helper ← unescapeName? '"' helper
    let decoded ← Arguments.settle? (decodeEach arguments)
    if Arguments.isOrderly arguments then some (.call helper decoded) else none

/-- Arguments with their names decoded, each if it is sound. -/
def decodeEach : List (Option String × Argument) → List (Option String × Option Argument)
  | [] => []
  | (key, a) :: rest => (key, a.decode?) :: decodeEach rest

end

/-- The arguments of a reference or a block with their names decoded, if they are sound. -/
def Arguments.decode? (arguments : Arguments) : Option Arguments :=
  if arguments.isOrderly then Arguments.settle? (decodeEach arguments) else none

/-- The last argument of each keyword, in the order in which the keywords first occur. -/
def lastOfKeywords (arguments : List (Option String × Option Argument)) :
    List (Option String × Option Argument) :=
  Entries.ofPairs (arguments.filter fun a => a.1.isSome)

/-- The arguments of an inclusion with their names decoded. One may be without a keyword. Of several
arguments with the same keyword, the last counts, and the others need not be sound. -/
def Arguments.decodeIncluded? (arguments : Arguments) : Option Arguments :=
  let decoded := decodeEach arguments
  let plain := decoded.filter fun a => a.1.isNone
  if plain.length ≤ 1 then Arguments.settle? (plain ++ lastOfKeywords decoded) else none

/-- What names an included template, decoded. -/
def Argument.decodeTemplate? : Argument → Option Argument
  | .literal (.text s) => (unescapeName? '"' s).map fun s => .literal (.text s)
  | a => a.decode?

mutual

/-- A node with its names decoded, if it is sound. -/
def Node.decode? : Node → Option Node
  | .text s => some (.text s)
  | .comment => some .comment
  | .reference escaped path arguments => do
    return .reference escaped (← TemplatePath.decode? path) (← Arguments.decode? arguments)
  | .block inverted name arguments body none => do
    return .block inverted name (← Arguments.decode? arguments) (← decodeNodes? body) none
  | .block inverted name arguments body (some otherwise) => do
    return .block inverted name (← Arguments.decode? arguments) (← decodeNodes? body)
      (some (← decodeNodes? otherwise))
  | .include template arguments => do
    return .include (← template.decodeTemplate?) (← arguments.decodeIncluded?)

/-- The nodes of a template with their names decoded, if they all are sound. -/
def decodeNodes? : List Node → Option (List Node)
  | [] => some []
  | node :: rest => do return (← node.decode?) :: (← decodeNodes? rest)

end

end PromptTemplates
