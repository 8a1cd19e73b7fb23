import PromptTemplates.Proofs.Rendering.RendererHelpers
import PromptTemplates.Proofs.Rendering.Steps
import PromptTemplates.Proofs.Template.StoreRuns

/-!
# The phases of rendering

A call is rendered in phases: its options are put together, its template is looked up, its helpers are
described, the template is evaluated, and the header of the text is read. A call that fails does so with
the fault of the phase that fails, except where the header block holds a scalar that has no value.
-/

namespace PromptTemplates

/-- The template under a key: the one that is kept, or else the one that its source compiles to. -/
def TemplateStore.lookup (files : FileTree) (key : TemplateKey) (store : TemplateStore) :
    Except RenderFault Template :=
  match store.templates.get? key with
  | some t => .ok t
  | none => TemplateMaker.standard.build files key

namespace Renderer

/-! ## The text of a call and its phases -/

variable (r : Renderer) (files : FileTree) (clock : Calendar.Moment) (request : RenderRequest)

/-- The text that a call renders, whose header is still to be read. -/
def rendered : StoreAction String := do
  let options ← lift (Action.ofExcept (r.resolveOptions request.layer))
  let key : TemplateKey := ⟨request.template, options.directory.map Path.text⟩
  let t ← noting .loadFailed (TemplateStore.get files key r.maker)
  let helpers ← lift (describeAll options.helpers)
  noteStored .rendering
  let functions := functions helpers (options.surroundings clock)
  let text ← evaluate request.template t options.params functions
  return if options.unescape.isTruthy then Text.unescape text else text

/-- What a call has put together before it evaluates its template. -/
structure Prepared (store : TemplateStore) (options : RenderOptions) (t : Template)
    (helpers : Entries String Descriptor) : Prop where
  options_eq : r.resolveOptions request.layer = .ok options
  template_eq : store.lookup files ⟨request.template, options.directory.map Path.text⟩ = .ok t
  helpers_eq : describedAs options.helpers = .ok helpers

theorem render_eq : r.render files clock request = do
    let text ← r.rendered files clock request
    let d ← r.extract text
    noteStored .rendered
    return d := by
  simp [render, rendered, bind_assoc]

/-! ## Looking templates up -/

variable {r files clock request} {store : TemplateStore} {journal : Journal} {fault : RenderFault}

theorem outcomeOf_extract (text : String) (store : TemplateStore) (journal : Journal) :
    outcomeOf (r.extract text) store journal = (r.readHeader text).map Document.ofHeaded := by
  unfold outcomeOf extract Document.ofText
  cases hread : r.readHeader text with
  | ok headed => rfl
  | error fault => cases fault <;> rfl

theorem outcomeOf_render : outcomeOf (r.render files clock request) store journal =
    match outcomeOf (r.rendered files clock request) store journal with
    | .error fault => .error fault
    | .ok text => (r.readHeader text).map Document.ofHeaded := by
  rw [render_eq]
  unfold outcomeOf
  rw [StoreAction.run_bind]
  rcases ((r.rendered files clock request).run store).run journal with
    ⟨⟨fault | text, store'⟩, journal'⟩
  · rfl
  · have hextract := outcomeOf_extract (r := r) text store' journal'
    unfold outcomeOf at hextract
    dsimp only
    rw [← hextract, StoreAction.run_bind]
    rcases ((r.extract text).run store').run journal' with ⟨⟨fault | d, store''⟩, journal''⟩ <;> rfl

end Renderer

end PromptTemplates
