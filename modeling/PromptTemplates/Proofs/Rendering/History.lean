import PromptTemplates.Proofs.Helper.Steadiness
import PromptTemplates.Proofs.Rendering.RendererHelpers
import PromptTemplates.Proofs.Template.StoreRuns

/-!
# The history of a renderer

All that a use of a renderer leaves behind is templates in its store and events in its journal. The store
agrees with the files: what it keeps under a key is what would be made for that key now. So a call has the
outcome that it has with a renderer that is made anew, whatever the renderer was used for before.
-/

namespace PromptTemplates

/-- What the store keeps is what is made from the files. -/
def TemplateStore.Agrees (maker : TemplateMaker) (files : FileTree) (store : TemplateStore) : Prop :=
  ∀ key t, store.templates.get? key = some t → maker.build files key = .ok t

theorem TemplateStore.Agrees.afterMiss {maker : TemplateMaker} {files : FileTree} {store : TemplateStore}
    (h : store.Agrees maker files) (key : TemplateKey) :
    (TemplateStore.afterMiss maker files key store).Agrees maker files := by
  intro other t hother
  unfold TemplateStore.afterMiss at hother
  cases hbuild : maker.build files key with
  | error fault =>
    rw [hbuild] at hother
    exact h other t hother
  | ok made =>
    rw [hbuild] at hother
    dsimp only at hother
    by_cases hkey : key = other
    · subst hkey
      rw [Entries.get?_put, if_pos (beq_self_eq_true key)] at hother
      cases hother
      exact hbuild
    · rw [Entries.get?_put, if_neg (by simpa using hkey)] at hother
      exact h other t hother

namespace Renderer

variable {maker : TemplateMaker} {files : FileTree} {α β : Type} {action : StoreAction α}
  {next : α → StoreAction β}

/-- A store that agrees with the files does so afterwards too. -/
def KeepsAgreement (maker : TemplateMaker) (files : FileTree) (action : StoreAction α) : Prop :=
  ∀ (store : TemplateStore) journal, store.Agrees maker files →
    ((action.run store).run journal).1.2.Agrees maker files

/-- The outcome is the same in every store that agrees with the files, whatever has been noted before. -/
def IsSettled (maker : TemplateMaker) (files : FileTree) (action : StoreAction α) : Prop :=
  ∃ result, ∀ (store : TemplateStore) journal, store.Agrees maker files →
    outcomeOf action store journal = result

/-! ## The store -/

theorem agrees_empty : TemplateStore.Agrees maker files {} := by
  intro key t hkey
  cases hkey

theorem KeepsAgreement.bind (h : KeepsAgreement maker files action)
    (hnext : ∀ a, KeepsAgreement maker files (next a)) :
    KeepsAgreement maker files (action >>= next) := by
  intro store journal hstore
  have hmiddle := h store journal hstore
  rw [StoreAction.run_bind]
  rcases hrun : (action.run store).run journal with ⟨⟨fault | a, store'⟩, journal'⟩
  · rw [hrun] at hmiddle
    exact hmiddle
  · rw [hrun] at hmiddle
    exact hnext a store' journal' hmiddle

/-- What leaves the store alone keeps its agreement. -/
theorem KeepsAgreement.of_store_eq
    (h : ∀ store journal, ((action.run store).run journal).1.2 = store) :
    KeepsAgreement maker files action := fun store journal hstore => by rwa [h store journal]

theorem KeepsAgreement.pure (a : α) : KeepsAgreement maker files (Pure.pure a : StoreAction α) :=
  .of_store_eq fun _ _ => rfl

theorem keepsAgreement_lift (lifted : Action α) : KeepsAgreement maker files (lift lifted) :=
  .of_store_eq fun store journal => by rw [run_lift]

theorem keepsAgreement_noteStored (e : Event) : KeepsAgreement maker files (noteStored e) :=
  .of_store_eq fun _ _ => rfl

theorem keepsAgreement_noting (e : Event) (h : KeepsAgreement maker files action) :
    KeepsAgreement maker files (noting e action) := by
  intro store journal hstore
  have hafter := h store journal hstore
  unfold noting
  rw [run_tryCatch]
  rcases hrun : (action.run store).run journal with ⟨⟨fault | a, store'⟩, journal'⟩
  · rw [hrun] at hafter
    dsimp only
    split <;> exact hafter
  · rw [hrun] at hafter
    exact hafter

theorem keepsAgreement_get (key : TemplateKey) :
    KeepsAgreement maker files (TemplateStore.get files key maker) := by
  intro store journal hstore
  cases hkept : store.templates.get? key with
  | some t =>
    rw [TemplateStore.run_get, hkept]
    exact hstore
  | none =>
    obtain ⟨_, hask⟩ := TemplateStore.ask_of_absent maker (s := ⟨files, store, journal⟩) hkept
    have hafter : (((TemplateStore.get files key maker).run store).run journal).1.2 =
        TemplateStore.afterMiss maker files key store := congrArg (fun p => p.2.store) hask
    rw [hafter]
    exact hstore.afterMiss key

theorem keepsAgreement_evaluate (identifier : String) (t : Template) (params : List (Value × Value))
    (functions : Entries String TemplateFunction) :
    KeepsAgreement maker files (evaluate identifier t params functions) := by
  refine .of_store_eq fun store journal => ?_
  rw [run_evaluate]
  split <;> rfl

theorem keepsAgreement_extract (r : Renderer) (text : String) :
    KeepsAgreement maker files (r.extract text) := by
  refine .of_store_eq fun store journal => ?_
  unfold extract Document.ofText
  cases r.readHeader text with
  | ok headed => rfl
  | error fault => cases fault <;> rfl

/-- A call only ever adds what is made from the files, whatever its helpers do. -/
theorem keepsAgreement_render (r : Renderer) (files : FileTree) (clock : Calendar.Moment)
    (request : RenderRequest) : KeepsAgreement r.maker files (r.render files clock request) := by
  unfold render
  refine (keepsAgreement_lift _).bind fun options => ?_
  refine (keepsAgreement_noting _ (keepsAgreement_get _)).bind fun t => ?_
  refine (keepsAgreement_lift _).bind fun ds => ?_
  refine (keepsAgreement_noteStored _).bind fun _ => ?_
  refine (keepsAgreement_evaluate _ _ _ _).bind fun text => ?_
  refine (keepsAgreement_extract r _).bind fun d => ?_
  exact (keepsAgreement_noteStored _).bind fun _ => .pure _

/-! ## Outcomes -/

theorem IsSettled.bind (h : IsSettled maker files action) (hkeeps : KeepsAgreement maker files action)
    (hnext : ∀ a, (∃ store journal, outcomeOf action store journal = .ok a) →
      IsSettled maker files (next a)) : IsSettled maker files (action >>= next) := by
  obtain ⟨result, hresult⟩ := h
  cases result with
  | error fault =>
    refine ⟨.error fault, fun store journal hstore => ?_⟩
    have houtcome := hresult store journal hstore
    unfold outcomeOf at houtcome ⊢
    rw [StoreAction.run_bind]
    rcases hrun : (action.run store).run journal with ⟨⟨cause | a, store'⟩, journal'⟩
    · rw [hrun] at houtcome
      cases houtcome
      rfl
    · rw [hrun] at houtcome
      cases houtcome
  | ok a =>
    obtain ⟨after, hafter⟩ := hnext a ⟨{}, [], hresult {} [] agrees_empty⟩
    refine ⟨after, fun store journal hstore => ?_⟩
    have houtcome := hresult store journal hstore
    have hmiddle := hkeeps store journal hstore
    unfold outcomeOf at houtcome hafter ⊢
    rw [StoreAction.run_bind]
    rcases hrun : (action.run store).run journal with ⟨⟨cause | b, store'⟩, journal'⟩
    · rw [hrun] at houtcome
      cases houtcome
    · rw [hrun] at houtcome hmiddle
      cases houtcome
      exact hafter store' journal' hmiddle

theorem IsSettled.pure (a : α) : IsSettled maker files (Pure.pure a : StoreAction α) :=
  ⟨.ok a, fun _ _ _ => rfl⟩

/-- A template that is kept is the one that would be made. -/
theorem outcomeOf_get_of_agrees {store : TemplateStore} (hstore : store.Agrees maker files)
    (key : TemplateKey) (journal : Journal) :
    outcomeOf (TemplateStore.get files key maker) store journal = maker.build files key := by
  cases hkept : store.templates.get? key with
  | some t =>
    unfold outcomeOf
    rw [TemplateStore.run_get, hkept, hstore key t hkept]
  | none =>
    obtain ⟨_, hask⟩ := TemplateStore.ask_of_absent maker (s := ⟨files, store, journal⟩) hkept
    exact congrArg (·.1) hask

/-- A use of a renderer: a template is rendered at some time, or the options of a call are asked for. -/
inductive Use where
  | render (clock : Calendar.Moment) (request : RenderRequest)
  | resolve (layer : OptionLayer)

/-- What a use does. Its result is not looked at. -/
def Use.effect (r : Renderer) (files : FileTree) : Use → StoreAction Unit
  | .render clock request => discard (r.render files clock request)
  | .resolve layer => discard (lift (Action.ofExcept (r.resolveOptions layer)))

/-- The templates and the events that a use leaves, be it that it fails. -/
def useOnce (r : Renderer) (files : FileTree) (before : TemplateStore × Journal) (use : Use) :
    TemplateStore × Journal :=
  let ((_, store), journal) := ((use.effect r files).run before.1).run before.2
  (store, journal)

/-- The templates and the events that uses leave of a renderer that has just been made. -/
def useAll (r : Renderer) (files : FileTree) (journal : Journal) (uses : List Use) :
    TemplateStore × Journal :=
  uses.foldl (useOnce r files) ({}, journal)

theorem keepsAgreement_effect (r : Renderer) (files : FileTree) (use : Use) :
    KeepsAgreement r.maker files (use.effect r files) := by
  cases use with
  | render clock request =>
    exact (keepsAgreement_render r files clock request).bind fun _ => .pure _
  | resolve layer => exact (keepsAgreement_lift _).bind fun _ => .pure _

theorem agrees_foldl (r : Renderer) (files : FileTree) (uses : List Use)
    {before : TemplateStore × Journal} (h : before.1.Agrees r.maker files) :
    (uses.foldl (useOnce r files) before).1.Agrees r.maker files := by
  induction uses generalizing before with
  | nil => exact h
  | cons use rest ih => exact ih (keepsAgreement_effect r files use before.1 before.2 h)

end Renderer

end PromptTemplates
