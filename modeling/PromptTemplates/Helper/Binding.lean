import PromptTemplates.Helper.Descriptor
import PromptTemplates.Helper.Url

/-!
# Binding the arguments of a call

A call in a template gives values by position and by name. Those by name are taken first; those by
position fill, in order, the declared names that are still without a value. Then the names get their
values in the order of declaration, where an address is completed with the values at hand. What is
left over is passed on if the handler takes it.
-/

namespace PromptTemplates

/-- The values that a call in a template gives, and the loop data around it. -/
structure Invocation where
  positional : List Value := []
  named : Named := []
  data : List (String × Value) := []

/-- The arguments that the handler is called with, and the values of the declared names. -/
structure ResolvedCall where
  args : List Value
  kwargs : Named
  bindings : Named
  deriving Repr

/-- The names whose values are addresses. -/
def addressNames : List String := ["url", "href"]

namespace Descriptor

variable (d : Descriptor)

/-- The declared names that the call does not give a value by name. -/
def unfilled (named : Named) : List String := d.params.filter fun name => !named.has name

/-- The table of values at hand: those by name, then those by position under the unfilled names. -/
def working (invocation : Invocation) : Named :=
  Entries.putAll invocation.named ((d.unfilled invocation.named).zip invocation.positional)

/-- The values by position that no declared name takes. -/
def extraPositional (invocation : Invocation) : List Value :=
  invocation.positional.drop (d.unfilled invocation.named).length

/-- The value of one name and the table that is left: an address is completed. -/
def normalizeParam (base : Option String) (name : String) (value : Value) (working : Named) :
    Value × Named :=
  match value with
  | .str url =>
    if addressNames.contains name then
      let (url, left) := Url.normalize url working base
      (.str url, left)
    else (value, working)
  | _ => (value, working)

/-- Gives the names from `position` on their values, and gives the table that is left. -/
def bindNames (base : Option String) : (position : Nat) → (names : List String) →
    (working : Named) → Named × Named
  | _, [], working => ([], working)
  | position, name :: rest, working =>
    let (value, working) :=
      match working.get? name with
      | some value => normalizeParam base name value working
      | none => (d.defaultFor position, working)
    let (bound, left) := bindNames base (position + 1) rest working
    ((name, value) :: bound, left)

/-- Puts the surroundings where the handler takes them: among the positional arguments if enough of
these are there, otherwise by name. -/
def placeContext (context : Value) (args : List Value) (kwargs : Named) : List Value × Named :=
  match d.optionsIndex with
  | some i =>
    if i < args.length then (args.take i ++ context :: args.drop i, kwargs)
    else (args, kwargs.put contextParameter context)
  | none => (args, kwargs.put contextParameter context)

/-- The call of the handler for an invocation. -/
def resolve (invocation : Invocation) (surroundings : Option Surroundings) : ResolvedCall :=
  let base := surroundings.bind (·.baseUrl)
  let (bindings, left) := d.bindNames base 0 d.params (d.working invocation)
  let args := bindings.map (·.2) ++ (if d.acceptsVarargs then d.extraPositional invocation else [])
  let kwargs := if d.acceptsKwargs then left.filter fun entry => !bindings.has entry.1 else []
  if d.acceptsOptions then
    let (args, kwargs) :=
      d.placeContext (.helperContext surroundings invocation.data) args kwargs
    { args := args, kwargs := kwargs, bindings := bindings }
  else { args := args, kwargs := kwargs, bindings := bindings }

/-- Whether some value by position reaches neither a name nor the handler. -/
def dropsPositional (invocation : Invocation) : Bool :=
  !(d.extraPositional invocation).isEmpty && !d.acceptsVarargs

/-- Resolves an invocation; values that are dropped leave an event. -/
def resolveNoted (invocation : Invocation) (surroundings : Option Surroundings) :
    Logged ResolvedCall := do
  if d.dropsPositional invocation then note .positionalDropped
  return d.resolve invocation surroundings

end Descriptor

end PromptTemplates
