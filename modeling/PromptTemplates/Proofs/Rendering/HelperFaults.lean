import PromptTemplates.Proofs.Helper.StandardPlans
import PromptTemplates.Proofs.Rendering.RendererHelpers
import PromptTemplates.Proofs.Rendering.Steps
import PromptTemplates.Proofs.Template.EvaluationFlow
import PromptTemplates.Proofs.Template.StoreRuns

/-!
# Failures of helpers in a call

Only the evaluation of the template notes failures of helpers; the other steps of a call note events of
other sorts. So a call in which the failure of a helper is noted fails with it.
-/

namespace PromptTemplates

/-- The helper of this registration catches nothing. -/
def Registration.IsTransparent (entry : Registration) : Prop :=
  ∀ d, entry.describe = .ok d → d.handler.IsTransparent

theorem Attributes.composes (raised : String → Fault → Prop) :
    Composes fun _ action => Attributes raised action :=
  ⟨.pure, .throw, .bind, .tryCatch⟩

theorem Template.attributes_render {raised : String → Fault → Prop} (t : Template) (context : Value)
    {functions : Entries String TemplateFunction}
    (hfunctions : ∀ entry ∈ functions, entry.2.Attributes raised) :
    Attributes raised (t.render context functions) :=
  t.keeps_render (Attributes.composes raised) context hfunctions

namespace Renderer

/-- Each failure of a helper that an action notes is one that can have been raised, and is how the action
ends. -/
def AttributesStored {α : Type} (raised : String → Fault → Prop) (action : StoreAction α) : Prop :=
  ∀ store before, ∃ new, ((action.run store).run before).2 = new ++ before ∧
    ∀ name cause, .helperInvocationFailed name cause ∈ new →
      raised name cause ∧ outcomeOf action store before = .error (.helper name cause)

/-- The action notes no failure of a helper. -/
def IsQuiet {α : Type} (action : StoreAction α) : Prop := AttributesStored (fun _ _ => False) action

variable {α β : Type} {raised : String → Fault → Prop} {action : StoreAction α}
  {next : α → StoreAction β}

theorem IsQuiet.attributesStored (h : IsQuiet action) : AttributesStored raised action := by
  intro store before
  obtain ⟨new, hjournal, hnew⟩ := h store before
  exact ⟨new, hjournal, fun name cause hmem => (hnew name cause hmem).1.elim⟩

theorem AttributesStored.bind (h : AttributesStored raised action)
    (hnext : ∀ a, (∃ store before, outcomeOf action store before = .ok a) →
      AttributesStored raised (next a)) : AttributesStored raised (action >>= next) := by
  intro store before
  obtain ⟨new, hjournal, hnew⟩ := h store before
  unfold outcomeOf at hnew hnext ⊢
  rw [StoreAction.run_bind]
  rcases hrun : (action.run store).run before with ⟨⟨fault | a, store'⟩, middle⟩
  · rw [hrun] at hjournal hnew
    refine ⟨new, hjournal, fun name cause hmem => ?_⟩
    obtain ⟨hraised, hfault⟩ := hnew name cause hmem
    cases hfault
    exact ⟨hraised, rfl⟩
  · rw [hrun] at hjournal hnew
    dsimp only at hjournal hnew ⊢
    obtain ⟨newer, hjournal', hnewer⟩ := hnext a ⟨store, before, by rw [hrun]⟩ store' middle
    refine ⟨newer ++ new, by rw [hjournal', hjournal, List.append_assoc], fun name cause hmem => ?_⟩
    rcases List.mem_append.mp hmem with hmem | hmem
    · exact hnewer name cause hmem
    · cases (hnew name cause hmem).2

/-! ## Steps that note no failure of a helper -/

theorem IsQuiet.of_noted (h : ∀ store before, ∃ events,
    ((action.run store).run before).2 = events ++ before ∧
      ∀ e ∈ events, ∀ name cause, e ≠ .helperInvocationFailed name cause) : IsQuiet action := by
  intro store before
  obtain ⟨events, hjournal, hown⟩ := h store before
  exact ⟨events, hjournal, fun name cause hmem => absurd rfl (hown _ hmem name cause)⟩

theorem IsQuiet.bind (h : IsQuiet action) (hnext : ∀ a, IsQuiet (next a)) :
    IsQuiet (action >>= next) :=
  AttributesStored.bind h fun a _ => hnext a

theorem IsQuiet.pure (a : α) : IsQuiet (Pure.pure a : StoreAction α) :=
  .of_noted fun _ _ => ⟨[], rfl, by simp⟩

theorem isQuiet_noteStored {e : Event}
    (hown : ∀ name cause, e ≠ .helperInvocationFailed name cause) :
    IsQuiet (noteStored e) :=
  .of_noted fun _ _ => ⟨[e], rfl, by simpa using hown⟩

theorem isQuiet_noting {e : Event} (hown : ∀ name cause, e ≠ .helperInvocationFailed name cause)
    (h : IsQuiet action) : IsQuiet (noting e action) := by
  intro store before
  obtain ⟨new, hjournal, hnew⟩ := h store before
  unfold noting
  rw [run_tryCatch]
  rcases hrun : (action.run store).run before with ⟨⟨fault | a, store'⟩, middle⟩
  · rw [hrun] at hjournal
    dsimp only at hjournal ⊢
    split
    · refine ⟨e :: new, by rw [hjournal]; rfl, fun name cause hmem => ?_⟩
      rcases List.mem_cons.mp hmem with heq | hmem
      · exact absurd heq.symm (hown name cause)
      · exact (hnew name cause hmem).1.elim
    · exact ⟨new, hjournal, fun name cause hmem => (hnew name cause hmem).1.elim⟩
  · rw [hrun] at hjournal
    exact ⟨new, hjournal, fun name cause hmem => (hnew name cause hmem).1.elim⟩

/-- An action whose faults belong to no phase of their own has to be quiet itself. -/
theorem isQuiet_lift {lifted : Action α} (h : Attributes (fun _ _ => False) lifted) :
    IsQuiet (lift lifted) := by
  intro store before
  obtain ⟨new, hjournal, hnew⟩ := h before
  rw [run_lift]
  exact ⟨new, hjournal, fun name cause hmem => (hnew name cause hmem).1.elim⟩

theorem isQuiet_resolve (files : FileTree) (key : TemplateKey) :
    IsQuiet (TemplateStore.resolve .standard files key) := by
  refine .of_noted fun store before => ⟨_, by rw [TemplateStore.run_resolve], ?_⟩
  intro e he name cause
  rw [List.mem_reverse] at he
  change e ∈ Source.events files key.directory key.identifier at he
  unfold Source.events at he
  split at he
  · cases he
  · split at he
    · cases he
    · rintro rfl
      split at he <;> simp at he

theorem isQuiet_compile (maker : TemplateMaker) (key : TemplateKey) (source : String) :
    IsQuiet (TemplateStore.compile maker key source) := by
  refine .of_noted fun store before => ?_
  rw [TemplateStore.run_compile]
  split
  · exact ⟨[.compilationFailed], rfl, by simp⟩
  · dsimp only
    split
    · exact ⟨[.templateCompiled], rfl, by simp⟩
    · exact ⟨[.compilationFailed], rfl, by simp⟩

theorem isQuiet_keep (key : TemplateKey) (t : Template) : IsQuiet (TemplateStore.keep key t) :=
  .of_noted fun _ _ => ⟨[], rfl, by simp⟩

theorem isQuiet_get (files : FileTree) (key : TemplateKey) :
    IsQuiet (TemplateStore.get files key .standard) := by
  have hmiss : IsQuiet (do
      noteStored .cacheMiss
      let source ← TemplateStore.resolve .standard files key
      let t ← TemplateStore.compile .standard key source
      TemplateStore.keep key t) := by
    refine (isQuiet_noteStored (by simp)).bind fun _ => ?_
    refine (isQuiet_resolve files key).bind fun source => ?_
    exact (isQuiet_compile _ key source).bind fun t => isQuiet_keep key t
  intro store before
  cases hkept : store.templates.get? key with
  | some t =>
    refine ⟨[.cacheHit], by rw [TemplateStore.run_get, hkept]; rfl, ?_⟩
    simp
  | none =>
    obtain ⟨new, hjournal, hnew⟩ := hmiss store before
    refine ⟨new, ?_, fun name cause hmem => (hnew name cause hmem).1.elim⟩
    rw [TemplateStore.run_get, hkept, ← hjournal]
    rfl

theorem attributes_describeNoted (entry : Registration) :
    Attributes (fun _ _ => False) entry.describeNoted := by
  have hdescribe : Attributes (fun _ _ => False) (Action.ofExcept entry.describe) := .ofExcept _
  unfold Registration.describeNoted
  cases entry with
  | handler h => exact .ite ((Attributes.note (by simp)).bind fun _ => hdescribe) hdescribe
  | described | table | value => exact hdescribe

theorem attributes_describeAll (helpers : Entries String Registration) :
    Attributes (fun _ _ => False) (describeAll helpers) := by
  induction helpers with
  | nil => exact .pure _
  | cons entry rest ih =>
    exact (attributes_describeNoted entry.2).bind fun d => ih.bind fun ds => .pure _

theorem isQuiet_extract (r : Renderer) (text : String) : IsQuiet (r.extract text) := by
  refine .of_noted fun store before => ?_
  unfold extract Document.ofText
  cases hread : r.readHeader text with
  | ok headed => exact ⟨[.outputExtracted], rfl, by simp⟩
  | error fault =>
    cases fault with
    | extraction cause => exact ⟨[.extractionFailed], rfl, by simp⟩
    | _ => exact ⟨[], rfl, by simp⟩

/-! ## Evaluation -/

/-- A fault of a helper is the fault of the evaluation. -/
theorem attributesStored_evaluate {identifier : String} {t : Template} {params : List (Value × Value)}
    {functions : Entries String TemplateFunction}
    (h : Attributes raised (t.render (.map params) functions)) :
    AttributesStored raised (evaluate identifier t params functions) := by
  intro store before
  obtain ⟨new, hjournal, hnew⟩ := h before
  unfold outcomeOf
  rw [run_evaluate]
  rcases hrun : (t.render (.map params) functions).run.run before with ⟨fault | text, after⟩
  · rw [hrun] at hjournal hnew
    dsimp only at hjournal hnew ⊢
    refine ⟨evaluationEvent fault :: new, by rw [hjournal]; rfl, fun name cause hmem => ?_⟩
    rcases List.mem_cons.mp hmem with heq | hmem
    · cases fault <;> cases heq
    · obtain ⟨hraised, hfault⟩ := hnew name cause hmem
      cases hfault
      exact ⟨hraised, rfl⟩
  · rw [hrun] at hjournal hnew
    refine ⟨new, hjournal, fun name cause hmem => ?_⟩
    cases (hnew name cause hmem).2

/-! ## Whole calls -/

variable {r : Renderer} {files : FileTree} {clock : Calendar.Moment} {request : RenderRequest}

/-- A helper of the call is registered under the name, and its handler can fail with the fault. -/
def HelperRaises (r : Renderer) (request : RenderRequest) (name : String) (cause : Fault) : Prop :=
  ∃ options entry d, r.resolveOptions request.layer = .ok options ∧ (name, entry) ∈ options.helpers ∧
    entry.describe = .ok d ∧ d.CanRaise cause

theorem attributesStored_render (hmaker : r.maker = .standard)
    (hhelpers : ∀ entry ∈ r.options.helpers, entry.2.IsTransparent)
    (hlayer : ∀ entry ∈ request.layer.helpers, entry.2.IsTransparent) :
    AttributesStored (r.HelperRaises request) (r.render files clock request) := by
  unfold render
  refine (isQuiet_lift (.ofExcept _)).attributesStored.bind fun options hoptions => ?_
  obtain ⟨before, hoptions⟩ := outcomeOf_lift hoptions
  rw [Action.run_ofExcept] at hoptions
  rw [hmaker]
  refine (isQuiet_noting (by simp) (isQuiet_get files _)).attributesStored.bind fun t _ => ?_
  refine (isQuiet_lift (attributes_describeAll _)).attributesStored.bind fun ds hds => ?_
  obtain ⟨before, hds⟩ := outcomeOf_lift hds
  rw [run_describeAll] at hds
  refine (isQuiet_noteStored (by simp)).attributesStored.bind fun _ _ => ?_
  have hfunctions : ∀ entry ∈ functions ds (options.surroundings clock),
      entry.2.Attributes (r.HelperRaises request) := by
    intro entry hentry
    obtain ⟨⟨name, d⟩, hmem, rfl⟩ := List.mem_map.mp hentry
    obtain ⟨registration, hregistration, hdescribe⟩ := exists_of_describedAs hds hmem
    have htransparent : registration.IsTransparent := by
      rw [helpers_of_resolveOptions hoptions] at hregistration
      rcases Entries.mem_putAll hregistration with hmem | hmem
      · exact hhelpers _ hmem
      · exact hlayer _ hmem
    refine (Descriptor.attributes_toFunction (htransparent d hdescribe) ?_ _).emitting
    intro cause hraises
    exact ⟨options, registration, d, hoptions, hregistration, hdescribe, hraises⟩
  refine (attributesStored_evaluate (t.attributes_render _ hfunctions)).bind fun text _ => ?_
  refine IsQuiet.attributesStored ?_
  refine (isQuiet_extract r _).bind fun d => ?_
  exact (isQuiet_noteStored (by simp)).bind fun _ => .pure _

/-- The standard helpers catch nothing, so neither do those of a renderer if the given ones do not. -/
theorem isTransparent_of_make {base : RenderOptions} {defaults : OptionLayer} {before : Journal}
    (hbase : ∀ entry ∈ base.helpers, entry.2.IsTransparent)
    (hdefaults : ∀ entry ∈ defaults.helpers, entry.2.IsTransparent)
    (h : ((make base defaults).run.run before).1 = .ok r) :
    r.maker = .standard ∧ ∀ entry ∈ r.options.helpers, entry.2.IsTransparent := by
  refine ⟨?_, forall_helper_of_make Standard.isTransparent_helpers hbase hdefaults h⟩
  obtain ⟨options, ds, -, -, rfl⟩ := exists_of_make h
  rfl

/-- A handler that fails has its fault attributed to its helper, and a failure of an inner helper passes
as it is; and a call of the renderer in which such a failure is noted fails with it. -/
theorem render_helper_fault {base : RenderOptions} {defaults : OptionLayer} {before : Journal}
    (hbase : ∀ entry ∈ base.helpers, entry.2.IsTransparent)
    (hdefaults : ∀ entry ∈ defaults.helpers, entry.2.IsTransparent)
    (hmake : ((make base defaults).run.run before).1 = .ok r)
    (hlayer : ∀ entry ∈ request.layer.helpers, entry.2.IsTransparent) :
    (∀ store journal, ∃ new, (((r.render files clock request).run store).run journal).2 = new ++ journal ∧
      ∀ name cause, .helperInvocationFailed name cause ∈ new →
        outcomeOf (r.render files clock request) store journal = .error (.helper name cause) ∧
          (∀ inner inmost, cause ≠ .helper inner inmost) ∧ r.HelperRaises request name cause) ∧
    ∀ (d : Descriptor) name surroundings this args (kwargs : Named) enter journal cause after,
      kwargs.has "this" = false →
      let invocation : Invocation := { positional := args, named := kwargs, data := this.scopeData }
      let call := d.resolve invocation surroundings
      (d.handler.call call.args call.kwargs enter).run.run (d.journalOf invocation journal) =
        (.error cause, after) →
      (d.toFunction name surroundings this args kwargs enter).run.run journal =
        match cause with
        | .helper inner inmost => (.error (.helper inner inmost), after)
        | cause => (.error (.helper name cause), .helperInvocationFailed name cause :: after) := by
  obtain ⟨hmaker, hhelpers⟩ := isTransparent_of_make hbase hdefaults hmake
  constructor
  · intro store journal
    obtain ⟨new, hjournal, hnew⟩ := attributesStored_render hmaker hhelpers hlayer store journal
    refine ⟨new, hjournal, fun name cause hmem => ?_⟩
    obtain ⟨hraises, houtcome⟩ := hnew name cause hmem
    obtain ⟨-, -, d, -, -, -, hown, -⟩ := id hraises
    exact ⟨houtcome, hown, hraises⟩
  · intro d name surroundings this args kwargs enter journal cause after hthis invocation call hcall
    rw [d.run_toFunction name surroundings this args kwargs enter journal hthis]
    split
    · exact run_attributed_of_inner hcall
    · next hinner => exact run_attributed hinner hcall

/-- A handler that renders its block. -/
def wrapping : Handler where
  signature := some [{ name := "block" }]
  run frame := Block.renderBranch frame.enter (frame.get "block") .main .null

def failing : Handler where
  signature := some []
  run _ := throw (.reported .badValue "boom")

theorem isTransparent_wrapping : wrapping.IsTransparent := by
  intro bound
  change FollowsPlan fun enter => Block.renderBranch enter ((bound.get? "block").getD .null) .main .null
  unfold Block.renderBranch
  split
  · split
    · exact (FollowsPlan.enter _ _).bind fun parts => .pure _
    · exact (FollowsPlan.enter _ _).bind fun parts => .pure _
    · exact .pure _
  · exact .throw _
  · exact .throw _

/-- The block of one helper is in the block of another, and calls a third one, which fails. -/
def nestedRequest : RenderRequest where
  template := "\x7b\x7b#wrap\x7d\x7d\x7b\x7b#wrap\x7d\x7da \x7b\x7bboom\x7d\x7d" ++
    "\x7b\x7b/wrap\x7d\x7d\x7b\x7b/wrap\x7d\x7d"
  layer := { helpers := [("wrap", .handler wrapping), ("boom", .handler failing)] }

theorem render_nested_helper_fault : ∃ r, ((make {} {}).run.run []).1 = .ok r ∧
    outcomeOf (r.render {} ⟨0, .floating, by decide⟩ nestedRequest) {} [] =
      .error (.helper "boom" (.reported .badValue "boom")) := by
  have hcall : ∃ r, ((make {} {}).run.run []).1 = .ok r ∧
      .helperInvocationFailed "boom" (.reported .badValue "boom") ∈
        (((r.render {} ⟨0, .floating, by decide⟩ nestedRequest).run {}).run []).2 := by
    refine ⟨_, rfl, ?_⟩
    decide +kernel
  obtain ⟨r, hmake, hnoted⟩ := hcall
  have hlayer : ∀ entry ∈ nestedRequest.layer.helpers, entry.2.IsTransparent := by
    intro entry hentry d hd
    rcases List.mem_cons.mp hentry with rfl | hentry
    · rw [Registration.handler_of_describe hd]
      exact isTransparent_wrapping
    · obtain rfl := List.mem_singleton.mp hentry
      rw [Registration.handler_of_describe hd]
      exact fun bound => .throw _
  have hnone : ∀ entry ∈ ([] : Entries String Registration), entry.2.IsTransparent := by simp
  obtain ⟨new, hjournal, hnew⟩ := (render_helper_fault hnone hnone hmake hlayer).1 {} []
  rw [hjournal, List.append_nil] at hnoted
  exact ⟨r, hmake, (hnew _ _ hnoted).1⟩

end Renderer

end PromptTemplates
