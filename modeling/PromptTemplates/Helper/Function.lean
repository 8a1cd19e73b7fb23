import PromptTemplates.Helper.Binding

/-!
# Template functions

Templates call functions with the scope of the call, values by position and values by name. A
described helper becomes such a function: it binds the values, runs the handler and attributes a fault
to the helper that was running when it arose.
-/

namespace PromptTemplates

/-- A function that templates can call. Its first argument is the scope of the call. -/
abbrev TemplateFunction := Value → List Value → Named → Enter → Action Value

/-- The loop data and the context of a scope, as a helper sees them. A value that is no scope is the
context. -/
def Value.scopeData : Value → List (String × Value)
  | .scope context _ root index key first last =>
    [("index", index), ("key", key), ("first", first), ("last", last), ("root", root),
     ("context", context)]
  | v => [("context", v)]

/-- Runs the handler of a helper. A fault is attributed to the helper and leaves an event, unless an
inner helper did so. -/
def attributed (name : String) (action : Action Value) : Action Value :=
  tryCatch action fun
    | .helper inner cause => throw (.helper inner cause)
    | fault => do
      note (.helperInvocationFailed name fault)
      throw (.helper name fault)

namespace Descriptor

/-- The helper of this name as a template function. -/
def toFunction (d : Descriptor) (name : String) (surroundings : Option Surroundings) :
    TemplateFunction := fun this args kwargs enter => do
  if kwargs.has "this" then Action.failWith .badType
  let invocation : Invocation :=
    { positional := args, named := kwargs, data := this.scopeData }
  let call ← d.resolveNoted invocation surroundings
  attributed name (d.handler.call call.args call.kwargs enter)

end Descriptor

/-- A function whose results become output: markup and strings are not escaped again. -/
def TemplateFunction.emitting (f : TemplateFunction) : TemplateFunction :=
  fun this args kwargs enter => do return Markup.toOutput (← f this args kwargs enter)

end PromptTemplates
