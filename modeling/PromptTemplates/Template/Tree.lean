/-!
# Template trees

A parsed template is a list of nodes. Names of values are paths, lists of segments; an empty segment
stands for the value that is already reached.
-/

namespace PromptTemplates

/-- A constant written in a template. -/
inductive Literal where
  | text (s : String)
  | int (n : Int)
  | bool (b : Bool)
  | null
  deriving DecidableEq, Repr

/-- The segments of a path. -/
abbrev TemplatePath := List String

/-- The argument of a tag: a constant, a path, or the call of a helper. The arguments of a call may
have keywords. -/
inductive Argument where
  | literal (l : Literal)
  | path (segments : TemplatePath)
  | call (helper : String) (arguments : List (Option String × Argument))
  deriving Repr

/-- The arguments of a tag in the order in which they are written, each with its keyword if it has
one. -/
abbrev Arguments := List (Option String × Argument)

/-- A part of a template. `reference` is a value or a helper call between braces, `block` a named block
with its body and the branch after its `else`, and `include` a reference to another template, whose
name is a text or what a call gives. An inverted block swaps its two branches. -/
inductive Node where
  | text (s : String)
  | comment
  | reference (escaped : Bool) (path : TemplatePath) (arguments : Arguments)
  | block (inverted : Bool) (name : String) (arguments : Arguments)
      (body : List Node) (otherwise : Option (List Node))
  | include (template : Argument) (arguments : Arguments)
  deriving Repr

mutual

/-- How deeply blocks are nested in a node. -/
def Node.depth : Node → Nat
  | .block _ _ _ body none => depthOfNodes body + 1
  | .block _ _ _ body (some otherwise) => max (depthOfNodes body) (depthOfNodes otherwise) + 1
  | _ => 0

/-- How deeply blocks are nested in a template. -/
def depthOfNodes : List Node → Nat
  | [] => 0
  | node :: rest => max node.depth (depthOfNodes rest)

end

namespace Arguments

/-- The values of the arguments without a keyword. -/
def positional (arguments : Arguments) : List Argument :=
  arguments.filterMap fun
    | (none, a) => some a
    | (some _, _) => none

/-- The arguments with a keyword. -/
def named (arguments : Arguments) : List (String × Argument) :=
  arguments.filterMap fun
    | (some k, a) => some (k, a)
    | (none, _) => none

/-- The words that cannot be keywords. -/
def reservedWords : List String :=
  ["False", "None", "True", "and", "as", "assert", "async", "await", "break", "class", "continue",
   "def", "del", "elif", "else", "except", "finally", "for", "from", "global", "if", "import", "in",
   "is", "lambda", "nonlocal", "not", "or", "pass", "raise", "return", "try", "while", "with",
   "yield", "__debug__"]

/-- Whether all arguments with a keyword come last. -/
def keywordsLast : Arguments → Bool
  | [] => true
  | (none, _) :: rest => keywordsLast rest
  | (some _, _) :: rest => rest.all fun a => a.1.isSome

/-- Whether the keywords come last, are different, and are not reserved. -/
def isOrderly (arguments : Arguments) : Bool :=
  let keys := arguments.named.map (·.1)
  arguments.keywordsLast && decide keys.Nodup && keys.all fun k => !reservedWords.contains k

end Arguments

end PromptTemplates
