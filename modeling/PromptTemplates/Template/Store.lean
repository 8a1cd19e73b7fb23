import PromptTemplates.Template.Evaluate
import PromptTemplates.Template.Source

/-!
# The store of compiled templates

A template is compiled when it is first asked for and kept from then on, also when its file changes. It
is kept under its identifier and its directory, as they are given. What fails to compile is not kept.
A store finds and compiles its templates with a maker that it is given.
-/

namespace PromptTemplates

/-- What a template is kept under. -/
structure TemplateKey where
  identifier : String
  directory : Option String := none
  deriving DecidableEq, Repr

/-- How templates are made: how a source is found among the files, which events that leaves, and how a
text is compiled whose blocks are well nested. -/
structure TemplateMaker where
  source : FileTree → TemplateKey → Except RenderFault String
  events : FileTree → TemplateKey → List Event := fun _ _ => []
  compile : String → Option Template

namespace TemplateMaker

/-- Sources are files or the identifiers themselves, and follow the grammar of templates. -/
def standard : TemplateMaker where
  source files key := (Source.resolve files key.directory key.identifier).mapError .resolution
  events files key := Source.events files key.directory key.identifier
  compile := Template.parse?

end TemplateMaker

/-- The compiled templates, and how often a source was resolved and a text was compiled. -/
structure TemplateStore where
  templates : Entries TemplateKey Template := []
  resolutions : Nat := 0
  compilations : Nat := 0

/-- A computation that uses a store and may fail. The store and the journal survive the failure. -/
abbrev StoreAction := ExceptT RenderFault (StateT TemplateStore Logged)

/-- A failure of the first action leaves the second one out. -/
theorem StoreAction.run_bind {α β : Type} (action : StoreAction α) (next : α → StoreAction β)
    (store : TemplateStore) (journal : Journal) :
    ((action >>= next).run store).run journal =
      match (action.run store).run journal with
      | ((.ok a, store), journal) => ((next a).run store).run journal
      | ((.error fault, store), journal) => ((.error fault, store), journal) := by
  unfold ExceptT.run StateT.run
  simp only [bind, ExceptT.bind, ExceptT.mk, StateT.bind]
  rcases action store journal with ⟨⟨_ | _, _⟩, _⟩ <;> rfl

/-- Notes an event. -/
def noteStored (e : Event) : StoreAction Unit := fun store => do
  note e
  return (.ok (), store)

namespace TemplateStore

/-- How many templates are kept. -/
def size (store : TemplateStore) : Nat := store.templates.length

/-- Resolves the source of a template, and drops the blanks at its ends. -/
def resolve (maker : TemplateMaker) (files : FileTree) (key : TemplateKey) : StoreAction String :=
  fun store => do
    (maker.events files key).forM note
    return ((maker.source files key).map Text.trim,
      { store with resolutions := store.resolutions + 1 })

/-- Compiles a source. A source whose blocks are not well nested is refused without compiling. -/
def compile (maker : TemplateMaker) (key : TemplateKey) (source : String) : StoreAction Template :=
  fun store => do
    match Nesting.check source with
    | .error cause =>
      note .compilationFailed
      return (.error (.compilation key.identifier (.nesting cause)), store)
    | .ok () =>
      let store := { store with compilations := store.compilations + 1 }
      match maker.compile source with
      | some t =>
        note .templateCompiled
        return (.ok t, store)
      | none =>
        note .compilationFailed
        return (.error (.compilation key.identifier .grammar), store)

/-- Keeps a template. -/
def keep (key : TemplateKey) (t : Template) : StoreAction Template := fun store =>
  return (.ok t, { store with templates := store.templates.put key t })

/-- The template under a key. -/
def get (files : FileTree) (key : TemplateKey) (maker : TemplateMaker := .standard) :
    StoreAction Template := do
  match (← getThe TemplateStore).templates.get? key with
  | some t =>
    noteStored .cacheHit
    return t
  | none =>
    noteStored .cacheMiss
    let source ← resolve maker files key
    let t ← compile maker key source
    keep key t

end TemplateStore

end PromptTemplates
