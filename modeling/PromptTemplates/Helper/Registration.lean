import PromptTemplates.Helper.Descriptor
import PromptTemplates.Markup
import PromptTemplates.Value.Key

/-!
# Registrations

A helper is registered as a descriptor, as a handler alone, or as a mapping of names and handler. Any
other value is refused.
-/

namespace PromptTemplates

/-- What stands in the place of a handler: a handler, or a value that cannot be called. -/
inductive HandlerEntry where
  | handler (h : Handler)
  | value (v : Value)

/-- What a helper is registered as. In a mapping the names and the handler may be missing. -/
inductive Registration where
  | described (d : Descriptor)
  | handler (h : Handler)
  | table (params : Option Value) (handler : Option HandlerEntry)
  | value (v : Value)

namespace Registration

/-- The names that a value lists: the characters of a text, the members of a list, the keys of a
mapping. -/
def names : Value → Except Fault (List String)
  | .str s => .ok (s.toList.map fun c => String.ofList [c])
  | .safe parts => .ok parts
  | .list items => members items
  | .tuple items => members items
  | .map entries => members (entries.map (·.1))
  | _ => .error (.plain .badType)
where
  members (items : List Value) : Except Fault (List String) :=
    if items.all Value.canBeKey then .ok (items.map Value.text) else .error (.plain .badType)

/-- The descriptor of names and a handler. -/
def describeEntry (params : Value) (handler : HandlerEntry) : Except Fault Descriptor := do
  let params ← names params
  match handler with
  | .handler h => (Descriptor.make params h).mapError Fault.config
  | .value v =>
    if params.Nodup then throw (.config (.handlerNotCallable v.quoted))
    else throw (.config (.duplicateParameters (tupleText (params.map Text.quoted))))

/-- The descriptor of a mapping, whose two entries have to be there. -/
def describeTable (params : Option Value) (handler : Option HandlerEntry) :
    Except Fault Descriptor :=
  match params, handler with
  | none, _ => .error (.config (.registrationWithout "params"))
  | some _, none => .error (.config (.registrationWithout "handler"))
  | some params, some handler => describeEntry params handler

/-- The descriptor of a registration. -/
def describe : Registration → Except Fault Descriptor
  | .described d => .ok d
  | .handler h => (Descriptor.ofHandler h).mapError Fault.config
  | .table params body => describeTable params body
  | .value (.map entries) =>
    describeTable (Value.entry? "params" entries) ((Value.entry? "handler" entries).map .value)
  | .value v => .error (.config (.unusableHelper v.typeName))

/-- Describes a registration; a handler whose signature cannot be told leaves an event. -/
def describeNoted (r : Registration) : Action Descriptor := do
  match r with
  | .handler h => if h.signature.isNone then note .noSignature
  | _ => pure ()
  Action.ofExcept r.describe

end Registration

end PromptTemplates
