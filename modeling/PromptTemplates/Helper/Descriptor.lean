import PromptTemplates.Helper.Signature
import PromptTemplates.Value.Quoted

/-!
# Descriptors of helpers

A descriptor joins a handler with the names that its positional arguments are bound to. A handler
that is registered alone is described by its own signature: its positional parameters in order,
without the one named `options`, which takes the surroundings of the call.
-/

namespace PromptTemplates

/-- The name of the parameter that takes the surroundings of a call. -/
def contextParameter : String := "options"

namespace Signature

/-- The parameters that take single positional arguments, without the one for the surroundings. -/
def positionals (s : Signature) : List Parameter :=
  s.filter fun p => p.kind.isPositional && p.name != contextParameter

/-- Whether the parameter takes the surroundings. -/
def isContext (p : Parameter) : Bool :=
  p.name == contextParameter && p.kind != .variadic && p.kind != .variadicKeyword

/-- How many positional parameters precede the one for the surroundings, if that one is positional
itself. -/
def contextIndex? : Signature → Option Nat
  | [] => none
  | p :: rest =>
    if isContext p && p.kind.isPositional then some 0
    else if p.kind.isPositional then (contextIndex? rest).map (· + 1)
    else contextIndex? rest

end Signature

/-- A handler and the names of its positional arguments. -/
structure Descriptor where
  params : List String
  handler : Handler
  params_nodup : params.Nodup

namespace Descriptor

/-- The signature of the handler; empty if it cannot be told. -/
def signature (d : Descriptor) : Signature := d.handler.signature.getD []

/-- The fallback values of the positional parameters of the handler. -/
def defaults (d : Descriptor) : List (Option Value) := d.signature.positionals.map (·.fallback)

/-- The value for the name at a position when the call gives none. -/
def defaultFor (d : Descriptor) (position : Nat) : Value :=
  ((d.defaults[position]?).join).getD .null

/-- The position at which the handler takes the surroundings. -/
def optionsIndex (d : Descriptor) : Option Nat := d.signature.contextIndex?

/-- Whether the handler takes the surroundings. -/
def acceptsOptions (d : Descriptor) : Bool := d.signature.any Signature.isContext

/-- Whether the handler takes further positional arguments. -/
def acceptsVarargs (d : Descriptor) : Bool :=
  d.handler.signature.isNone || d.signature.any (·.kind == .variadic)

/-- Whether the handler takes further named arguments. -/
def acceptsKwargs (d : Descriptor) : Bool := d.signature.any (·.kind == .variadicKeyword)

/-- The names of the positional parameters of a handler. -/
def namesOf (h : Handler) : List String := (h.signature.getD []).positionals.map (·.name)

/-- The descriptor with these names, which have to be different. -/
def make (params : List String) (handler : Handler) : Except ConfigFault Descriptor :=
  if h : params.Nodup then .ok ⟨params, handler, h⟩
  else .error (.duplicateParameters (tupleText (params.map Text.quoted)))

/-- The descriptor of a handler that is registered alone. -/
def ofHandler (handler : Handler) : Except ConfigFault Descriptor := make (namesOf handler) handler

end Descriptor

end PromptTemplates
