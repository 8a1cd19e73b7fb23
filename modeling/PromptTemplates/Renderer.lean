import PromptTemplates.Document.Basic
import PromptTemplates.Helper.Standard
import PromptTemplates.Settings.Options
import PromptTemplates.Template.Store
import PromptTemplates.Text.Entity

/-!
# Rendering

A renderer holds the options that all its render calls share; each call can put a layer of its own on
top. A call looks its template up, evaluates it with the helpers, takes the escaping of quotes back and
makes a document of the result. Each failure is attributed to its phase.
-/

namespace PromptTemplates

/-- A renderer: its options, in which all helpers are described, how it reads headers, and how its
templates are made. -/
structure Renderer where
  options : RenderOptions
  readHeader : HeaderReader := HeadedText.ofText
  maker : TemplateMaker := .standard

/-- A render call: the template, and the options of this call. -/
structure RenderRequest where
  template : String
  layer : OptionLayer := {}

/-- The phase of a fault that arose before evaluation. -/
def RenderFault.ofFault : Fault → RenderFault
  | .config cause => .config cause
  | fault => .stray fault

namespace Renderer

/-- The standard helpers, with those of the options in their places or after them. -/
def allHelpers (helpers : Entries String Registration) : Entries String Registration :=
  Entries.putAll (Standard.helpers.map fun (name, h) => (name, Registration.handler h)) helpers

/-- Describes helpers one after the other. -/
def describeAll : Entries String Registration → Action (Entries String Descriptor)
  | [] => return []
  | (name, r) :: rest => do
    let d ← r.describeNoted
    return (name, d) :: (← describeAll rest)

/-- The renderer with the given options. -/
def make (base : RenderOptions) (layer : OptionLayer)
    (readHeader : HeaderReader := HeadedText.ofText) (maker : TemplateMaker := .standard) :
    Action Renderer := do
  let options ← Action.ofExcept (base.merged layer)
  let helpers ← describeAll (allHelpers options.helpers)
  let described := helpers.map fun (name, d) => (name, Registration.described d)
  return { options := { options with helpers := described }, readHeader, maker }

variable (r : Renderer)

/-- The options of a call: a formatter that is not given follows from the zone. -/
def resolveOptions (layer : OptionLayer) : Except Fault RenderOptions := do
  let options ← r.options.merged layer
  match options.formatter with
  | some _ => return options
  | none => return { options with formatter := some (← Formatter.ofChoice options.zoneChoice) }

/-- Runs an action whose faults belong to no phase of their own. -/
def lift {α : Type} (action : Action α) : StoreAction α := fun store => do
  match ← action.run with
  | .ok a => return (.ok a, store)
  | .error fault => return (.error (.ofFault fault), store)

/-- Runs an action and notes an event when a phase of rendering fails in it. -/
def noting {α : Type} (e : Event) (action : StoreAction α) : StoreAction α :=
  tryCatch action fun fault => do
    if fault.stage?.isSome then noteStored e
    throw fault

/-- The template functions of the helpers. -/
def functions (helpers : Entries String Descriptor) (surroundings : Surroundings) :
    Entries String TemplateFunction :=
  helpers.map fun (name, d) => (name, (d.toFunction name (some surroundings)).emitting)

/-- The phase of a fault that arose during evaluation. -/
def evaluationFault (identifier : String) : Fault → RenderFault
  | .helper name cause => .helper name cause
  | fault => .evaluation identifier fault

/-- The event for a fault that arose during evaluation. -/
def evaluationEvent : Fault → Event
  | .helper .. => .helperFailed
  | _ => .evaluationFailed

/-- Evaluates a template. -/
def evaluate (identifier : String) (t : Template) (params : List (Value × Value))
    (functions : Entries String TemplateFunction) : StoreAction String := fun store => do
  match ← (t.render (.map params) functions).run with
  | .ok text => return (.ok text, store)
  | .error fault =>
    note (evaluationEvent fault)
    return (.error (evaluationFault identifier fault), store)

/-- Makes a document of a rendered text. Only faults of the header are noted. -/
def extract (text : String) : StoreAction Document := fun store => do
  match ← (Document.ofText r.readHeader text).run with
  | .ok d => return (.ok d, store)
  | .error fault =>
    match fault with
    | .extraction _ => note .extractionFailed
    | _ => pure ()
    return (.error fault, store)

/-- Renders a template; `clock` is the current time. -/
def render (files : FileTree) (clock : Calendar.Moment) (request : RenderRequest) :
    StoreAction Document := do
  let options ← lift (Action.ofExcept (r.resolveOptions request.layer))
  let key : TemplateKey := ⟨request.template, options.directory.map Path.text⟩
  let t ← noting .loadFailed (TemplateStore.get files key r.maker)
  let helpers ← lift (describeAll options.helpers)
  noteStored .rendering
  let functions := functions helpers (options.surroundings clock)
  let text ← evaluate request.template t options.params functions
  let d ← r.extract (if options.unescape.isTruthy then Text.unescape text else text)
  noteStored .rendered
  return d

end Renderer

end PromptTemplates
