import PromptTemplates.Helper.Function
import PromptTemplates.Template.Lookup

/-!
# Block functions

The functions that templates always have: conditions, loops, changes of context, look-ups, and what
happens to names that are not functions. A block function takes the scope, the branches of the block
and a value; it renders one of the branches or none. A loop gives each item a scope of its own, with
its position, and leaves out the items that cannot be rendered because of an ill-typed value.
-/

namespace PromptTemplates.Block

/-- The value as a scope: a value that is none becomes the context of a scope and its own parent. -/
def ensureScope (v root : Value) : Value :=
  match v with
  | .scope .. => v
  | v => .scope v v root .null .null .null .null

/-- The scope of an item in a loop over `count` items. -/
def itemScope (parent root item key : Value) (index count : Nat) : Value :=
  .scope item parent root (.int index) key (.bool (index == 0)) (.bool (index + 1 == count))

/-- Which branch of a block is rendered: the one at its beginning or the one after its `else`. -/
inductive Branch where
  | main
  | other
  deriving DecidableEq, Repr

/-- The name of a branch. -/
def Branch.name : Branch → String
  | .main => "fn"
  | .other => "inverse"

/-- Renders a branch of a block with a value. A branch that is absent gives null. A value that is no
block has no branches. -/
def renderBranch (enter : Enter) (options : Value) (branch : Branch) (context : Value) :
    Action Value :=
  match options with
  | .block main other root =>
    match branch, main, other with
    | .main, some nodes, _ => return .safe (← enter nodes (ensureScope context root))
    | .other, _, some nodes => return .safe (← enter nodes (ensureScope context root))
    | _, _, _ => return .null
  | .map entries =>
    Action.failWith (if (Value.entry? branch.name entries).isSome then .badType else .missingKey)
  | _ => Action.failWith .badType

/-- The outermost value of a block. -/
def rootOf : Value → Value
  | .block _ _ root => root
  | _ => .null

/-- Calls an operation of a mapping. Those that take a key are given the scope, which never is one: they
give the value that is passed along, if there is one. -/
def callMapMethod (name : String) (args : List Value) : Except Fault Value :=
  match name, args with
  | "get", [] => .ok .null
  | "get", [v] => .ok v
  | "setdefault", [] => .ok .null
  | "setdefault", [v] => .ok v
  | "pop", [] => .error (.plain .missingKey)
  | "pop", [v] => .ok v
  | _, _ => .error (.plain .badType)

/-- Whether a value can bound a search in a list. -/
def isBound : Value → Bool
  | .int _ => true
  | .bool _ => true
  | _ => false

/-- Calls an operation of a list. Those that take an item are given the scope, which never is one. -/
def callListMethod (name : String) (args : List Value) : Except Fault Value :=
  match name, args with
  | "count", [] => .ok (.int 0)
  | "append", [] => .ok .null
  | "remove", [] => .error (.plain .badValue)
  | "index", bounds =>
    .error (.plain (if bounds.length ≤ 2 && bounds.all isBound then .badValue else .badType))
  | _, _ => .error (.plain .badType)

/-- Calls an operation that was reached by its name, with the scope before the arguments. A text without
braces has nothing to be filled in when it is used as a format. -/
def callMethod (owner : Value) (name : String) (args : List Value) (kwargs : Named) :
    Except Fault Value :=
  match owner with
  | .str s =>
    if name = "format" && !s.toList.any (fun c => c == '{' || c == '}') then .ok owner
    else .error (.plain .badType)
  | owner =>
    if !kwargs.isEmpty then .error (.plain .badType)
    else
      match owner with
      | .map _ => callMapMethod name args
      | .block .. => callMapMethod name args
      | .list _ => callListMethod name args
      | .tuple _ => callListMethod name args
      | .safe _ => callListMethod name args
      | _ => .error (.plain .badType)

/-- An operation is called, every other value stands for itself. -/
def settle (context : Value) : Except Fault Value :=
  match context with
  | .method owner name => callMethod owner name [] []
  | v => .ok v

mutual

/-- The parts of text that a result consists of. Only strings, and collections of such results, are
text. -/
def parts : Value → Except Fault (List String)
  | .str s => .ok [s]
  | .safe parts => .ok parts
  | .list items => partsOfItems items
  | .tuple items => partsOfItems items
  | .map entries => partsOfKeys entries
  | .block .. => .ok Value.blockKeys
  | .bytes octets => if octets.isEmpty then .ok [] else .error (.plain .badType)
  | _ => .error (.plain .badType)

/-- The parts of text of some results. -/
def partsOfItems : List Value → Except Fault (List String)
  | [] => .ok []
  | item :: rest => do return (← parts item) ++ (← partsOfItems rest)

/-- The parts of text of the keys of a mapping. -/
def partsOfKeys : List (Value × Value) → Except Fault (List String)
  | [] => .ok []
  | (key, _) :: rest => do return (← parts key) ++ (← partsOfKeys rest)

end

/-- The items of a value that has a length, with their keys in a mapping. -/
def items? : Value → Option (List (Value × Value))
  | .list items => some (items.map fun v => (.null, v))
  | .tuple items => some (items.map fun v => (.null, v))
  | .safe parts => some (parts.map fun s => (.null, .str s))
  | .str s => some (s.toList.map fun c => (.null, .str (String.ofList [c])))
  | .bytes octets => some (octets.map fun b => (.null, .int b.toNat))
  | .map entries => some entries
  | .scope context _ _ _ _ _ _ => items? context
  | _ => none

/-- Whether a fault is due to an ill-typed value. -/
def isTypeFault : Fault → Bool
  | .plain .badType => true
  | .reported .badType _ => true
  | .unformattable _ => true
  | _ => false

/-- Renders the main branch for each item. An item that meets an ill-typed value is left out. -/
def renderItems (enter : Enter) (this options : Value) (count : Nat) :
    (index : Nat) → List (Value × Value) → Action (List String)
  | _, [] => return []
  | index, (key, item) :: rest => do
    let scope := itemScope this (rootOf options) item key index count
    let rendered ← tryCatch
      (do Action.ofExcept (parts (← renderBranch enter options .main scope)))
      fun fault => if isTypeFault fault then pure [] else throw fault
    return rendered ++ (← renderItems enter this options count (index + 1) rest)

/-- A loop over the items of a value. A value without items renders the other branch. -/
def each (enter : Enter) (this options context : Value) : Action Value :=
  match items? context with
  | some (first :: rest) => do
    let items := first :: rest
    return .safe (← renderItems enter this options items.length 0 items)
  | _ => renderBranch enter options .other this

/-- A block whose name is no function: a section for the value of that name. -/
def sectionOf (enter : Enter) (this options context : Value) : Action Value := do
  let context ← Action.ofExcept (settle context)
  let isEmptyText := match context with
    | .str s => s.isEmpty
    | _ => false
  if !isEmptyText && !context.isTruthy then renderBranch enter options .other this
  else
    match context with
    | .list _ => each enter this options context
    | .tuple _ => each enter this options context
    | .safe _ => each enter this options context
    | .bool true => renderBranch enter options .main this
    | context => renderBranch enter options .main context

/-- The member of a value under a key, null if there is none. -/
def lookup (context key : Value) : Value :=
  let position? : Option Int := match key with
    | .int n => some n
    | .bool b => some (if b then 1 else 0)
    | _ => none
  let nth (items : List Value) : Value := Value.ofOption (position?.bind (Value.nth? items))
  match context with
  | .list items => nth items
  | .tuple items => nth items
  | .safe parts => nth (parts.map .str)
  | .str s => nth (s.toList.map fun c => .str (String.ofList [c]))
  | .bytes octets => nth (octets.map fun b => .int b.toNat)
  | .map entries => if key.canBeKey then Value.ofOption (Entries.get? key entries) else .null
  | .scope .. =>
    match key with
    | .str name => context.member name
    | _ => .null
  | _ => .null

/-- A template function with a signature; the scope of the call is its first argument. -/
def function (signature : Signature) (run : Frame → Action Value) : TemplateFunction :=
  fun this args kwargs enter => Handler.call ⟨some signature, run⟩ (this :: args) kwargs enter

/-- A required parameter. -/
def parameter (name : String) : Parameter := { name := name }

/-- The parameters of a block function. -/
def blockSignature : Signature := [parameter "this", parameter "options", parameter "context"]

/-- A block function from what it does with the scope, the branches and the value. -/
def blockFunction (run : Enter → (this options context : Value) → Action Value) : TemplateFunction :=
  function blockSignature fun frame =>
    run frame.enter (frame.get "this") (frame.get "options") (frame.get "context")

/-- The functions that templates always have. -/
def functions : Entries String TemplateFunction :=
  [("helperMissing",
    function [parameter "scope", parameter "name", { name := "args", kind := .variadic }]
      fun frame =>
        match frame.get "args" with
        | .tuple (_ :: _) => throw (.noProperty (frame.get "name").text)
        | _ => return .null),
   ("blockHelperMissing", blockFunction sectionOf),
   ("each", blockFunction each),
   ("if", blockFunction fun enter this options context => do
      let context ← Action.ofExcept (settle context)
      renderBranch enter options (if context.isTruthy then .main else .other) this),
   ("unless", blockFunction fun enter this options context =>
      if context.isTruthy then return .null else renderBranch enter options .main this),
   ("with", blockFunction fun enter _ options context => do
      renderBranch enter options .main (← Action.ofExcept (settle context))),
   ("lookup", function [parameter "this", parameter "context", parameter "key"] fun frame =>
      return lookup (frame.get "context") (frame.get "key")),
   ("log", function [parameter "this", parameter "context"] fun _ => return .null)]

end PromptTemplates.Block
