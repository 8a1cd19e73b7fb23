import PromptTemplates.Helper.Block
import PromptTemplates.Template.Grammar
import PromptTemplates.Template.Spacing

/-!
# Evaluating templates

A template is evaluated in a scope. A reference of one segment is the call of a function, if there is
one of that name, and otherwise a value; longer paths are values only. Arguments are evaluated when the
function is called. The result of a reference is written as text, which is escaped unless it is safe.
The branches of a block are rendered by its function.
-/

namespace PromptTemplates

/-- What a template is evaluated with: the functions by name, and how the branches of blocks are
rendered. -/
structure Environment where
  functions : Entries String TemplateFunction
  enter : Enter

namespace Environment

variable (env : Environment)

/-- The names that no keyword of a call inside arguments may have. -/
def callKeywords : List String := ["helpers", "name", "context"]

/-- Calls a function of which only the name is given. -/
def callNamed (scope : Value) (name : String) (args : List Value) (kwargs : Named) :
    Action Value := do
  if callKeywords.any fun k => kwargs.has k then Action.failWith .badType
  match env.functions.get? name with
  | some f => f scope args kwargs env.enter
  | none => throw (.noProperty name)

mutual

/-- The value of an argument. -/
def argument (scope : Value) : Argument → Action Value
  | .literal l => return Value.ofLiteral l
  | .path p => Action.ofExcept (TemplatePath.resolve scope p)
  | .call name arguments => do
    let (args, kwargs) ← valuesOf scope arguments
    env.callNamed scope name args kwargs

/-- The values of arguments: those without and those with a keyword. -/
def valuesOf (scope : Value) : List (Option String × Argument) → Action (List Value × Named)
  | [] => return ([], [])
  | (key, a) :: rest => do
    let value ← argument scope a
    let (args, kwargs) ← valuesOf scope rest
    match key with
    | none => return (value :: args, kwargs)
    | some key => return (args, (key, value) :: kwargs)

end

/-- Calls a function with arguments. -/
def apply (scope : Value) (f : TemplateFunction) (first : List Value) (arguments : Arguments) :
    Action Value := do
  let (args, kwargs) ← env.valuesOf scope arguments
  f scope (first ++ args) kwargs env.enter

/-- Settles a value that was looked up: an operation is called with the arguments. -/
def settleWith (scope value : Value) (arguments : Arguments) : Action Value := do
  match value with
  | .method owner name =>
    let (args, kwargs) ← env.valuesOf scope arguments
    Action.ofExcept (Block.callMethod owner name args kwargs)
  | value => return value

/-- The value of a reference. -/
def reference (scope : Value) (path : TemplatePath) (arguments : Arguments) : Action Value := do
  match path with
  | [name] =>
    match env.functions.get? name with
    | some f => env.apply scope f [] arguments
    | none =>
      match ← Action.ofExcept (TemplatePath.resolve scope path) with
      | .null =>
        if name.isEmpty then return .null
        match env.functions.get? "helperMissing" with
        | some f => env.apply scope f [.str name] arguments
        | none => throw (.noProperty name)
      | value => env.settleWith scope value arguments
  | path =>
    env.settleWith scope (← Action.ofExcept (TemplatePath.resolve scope path)) arguments

/-- The text of a reference. -/
def write (escaped : Bool) : Value → String
  | .null => ""
  | .bool b => if b then "true" else "false"
  | .safe parts => String.join parts
  | v => if escaped then Text.escape v.text else v.text

/-- The result of a block. A section is left to the function for names that are no function. -/
def block (scope : Value) (name : String) (arguments : Arguments) (options : Value) :
    Action Value := do
  match env.functions.get? name with
  | some f => env.apply scope f [options] arguments
  | none =>
    let value ← Action.ofExcept (TemplatePath.resolve scope [Grammar.plainSegment name])
    match env.functions.get? "blockHelperMissing" with
    | some f => f scope [options, value] [] env.enter
    | none => throw (.noProperty "blockHelperMissing")

/-- The branches of a block as a value for its function. -/
def branches (inverted : Bool) (body : List Node) (otherwise : Option (List Node)) (root : Value) :
    Value :=
  if inverted then .block otherwise (some body) root else .block (some body) otherwise root

/-- The outermost value that a scope knows. -/
def rootOf : Value → Value
  | .scope _ _ root _ _ _ _ => root
  | v => v

/-- The fault of including a template by a name, for none can be included. -/
def includeFault (name : Value) : Fault :=
  if !name.canBeKey then .plain .badType
  else
    match name with
    | .tuple [v] => .noInclude v.text
    | .tuple _ => .plain .badType
    | v => .noInclude v.text

/-- The parts of text of a node. -/
def node (scope : Value) : Node → Action (List String)
  | .text s => return [s]
  | .comment => return []
  | .reference escaped path arguments => do
    return [write escaped (← env.reference scope path arguments)]
  | .block inverted name arguments body otherwise => do
    let options := branches inverted body otherwise (rootOf scope)
    let result ← env.block scope name arguments options
    if result.isTruthy then Action.ofExcept (Block.parts result) else return []
  | .include template arguments => do
    let _ ← env.valuesOf scope (arguments.filter fun a => a.1.isSome)
    throw (includeFault (← env.argument scope template))

/-- The parts of text of a template. -/
def nodes (scope : Value) : List Node → Action (List String)
  | [] => return []
  | n :: rest => do return (← env.node scope n) ++ (← nodes scope rest)

end Environment

/-- A compiled template. -/
structure Template where
  source : String
  nodes : List Node
  deriving Repr

namespace Template

/-- Reads a source by the grammar of templates. -/
def parse? (source : String) : Option Template :=
  (Grammar.parse? (Spacing.adjust source.toList)).map fun nodes => ⟨source, nodes⟩

/-- Compiles a source: its blocks have to be well nested and its text has to follow the grammar. -/
def compile (source : String) : Except CompileFault Template :=
  match Nesting.check source with
  | .error fault => .error (.nesting fault)
  | .ok () =>
    match parse? source with
    | some t => .ok t
    | none => .error .grammar

/-- Renders nodes in a scope, to a limited depth of blocks. -/
def enter (functions : Entries String TemplateFunction) : (fuel : Nat) → Enter
  | 0, _, _ => Action.failWith (.other "RecursionError")
  | fuel + 1, nodes, scope =>
    Environment.nodes { functions := functions, enter := enter functions fuel } scope nodes

/-- Renders a template with a value for its names and with functions besides those that templates
always have. -/
def render (t : Template) (context : Value) (functions : Entries String TemplateFunction) :
    Action String := do
  let functions := Entries.putAll Block.functions functions
  let parts ← enter functions (depthOfNodes t.nodes + 1) t.nodes (Block.ensureScope context context)
  return String.join parts

end Template

end PromptTemplates
