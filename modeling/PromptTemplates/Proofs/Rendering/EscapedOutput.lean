import PromptTemplates.Proofs.Document.DocumentText
import PromptTemplates.Proofs.Rendering.History
import PromptTemplates.Proofs.Rendering.Phases
import PromptTemplates.Proofs.Template.TameEvaluation
import PromptTemplates.Proofs.Template.TemplateText

/-!
# Values in rendered documents

The values of a call cannot add markup to its document: where the source of the template has no angle
brackets, writes all values escaped and calls no helper that could write markup, neither the body nor the
sections have any, whatever the values are.
-/

namespace PromptTemplates

open Text (IsAngleFree)

namespace Template

/-- Every value is written escaped. -/
def EscapesAll (t : Template) : Prop := ∀ n ∈ nestedIn t.nodes, n.isEscaped = true

instance (t : Template) : Decidable t.EscapesAll := List.decidableBAll _ _

/-- No helper is called, and of the functions that templates always have only the conditions, the loop, the
change of context, and what happens to names that are no functions. -/
def CallsBlocksOnly (t : Template) (helpers : Entries String Registration) : Prop :=
  ∀ n ∈ nestedIn t.nodes, ∀ name ∈ n.called, name ∉ helpers.keys ∧ name ∉ ["lookup", "log"]

instance (t : Template) (helpers : Entries String Registration) :
    Decidable (t.CallsBlocksOnly helpers) := List.decidableBAll _ _

theorem source_eq_of_parse? {source : String} {t : Template} (h : parse? source = some t) :
    t.source = source := by
  obtain ⟨nodes, -, rfl⟩ := Option.map_eq_some_iff.mp h
  rfl

/-- A template with a source without angle brackets is tame. -/
theorem isTame_nodes {source : String} {t : Template} {called : String → Prop}
    (h : parse? source = some t) (hsource : IsAngleFree t.source) (hescapes : t.EscapesAll)
    (hcalled : ∀ n ∈ nestedIn t.nodes, ∀ name ∈ n.called, called name) : IsTame called t.nodes where
  texts s hs := by
    rw [source_eq_of_parse? h] at hsource
    exact Text.isAngleFree_of_subset hsource (text_subset h hs)
  escaped := hescapes
  called := hcalled

end Template

namespace Renderer

theorem keys_functions {helpers : Entries String Registration} {ds : Entries String Descriptor}
    (h : describedAs helpers = .ok ds) {name : String} (hname : name ∉ helpers.keys)
    (surroundings : Surroundings) : name ∉ (functions ds surroundings).keys := by
  intro hmem
  obtain ⟨entry, hentry, rfl⟩ := List.mem_map.mp hmem
  obtain ⟨⟨name, d⟩, hd, rfl⟩ := List.mem_map.mp hentry
  obtain ⟨registration, hregistration, -⟩ := exists_of_describedAs h hd
  exact hname (List.mem_map_of_mem hregistration)

variable {r : Renderer} {files : FileTree} {clock : Calendar.Moment} {request : RenderRequest}
  {store : TemplateStore} {journal : Journal} {options : RenderOptions} {t : Template}

/-- The text of a call that succeeds comes from its template, evaluated with its parameters. -/
theorem exists_of_rendered {text : String} (hstore : store.Agrees r.maker files)
    (hoptions : r.resolveOptions request.layer = .ok options)
    (ht : r.maker.build files ⟨request.template, options.directory.map Path.text⟩ = .ok t)
    (h : outcomeOf (r.rendered files clock request) store journal = .ok text) :
    ∃ ds before written, describedAs options.helpers = .ok ds ∧
      ((t.render (.map options.params) (functions ds (options.surroundings clock))).run.run before).1 =
        .ok written ∧ text = if options.unescape.isTruthy then Text.unescape written else written := by
  unfold rendered at h
  obtain ⟨options', journal₁, hresolved, h⟩ := succeeds_lift h
  rw [Action.run_ofExcept, hoptions] at hresolved
  cases hresolved
  obtain ⟨t', store', journal₂, hget, h⟩ := succeeds_bind h
  have hfound : outcomeOf (noting .loadFailed (TemplateStore.get files
      ⟨request.template, options.directory.map Path.text⟩ r.maker)) store journal₁ = .ok t' := by
    unfold outcomeOf
    rw [hget]
  rw [outcomeOf_noting, outcomeOf_get_of_agrees hstore, ht] at hfound
  cases hfound
  obtain ⟨ds, journal₃, hds, h⟩ := succeeds_lift h
  rw [run_describeAll] at hds
  obtain ⟨_, store₄, journal₄, -, h⟩ := succeeds_bind h
  obtain ⟨written, store₅, journal₅, hevaluate, h⟩ := succeeds_bind h
  rw [run_evaluate] at hevaluate
  refine ⟨ds, journal₄, written, hds, ?_, ?_⟩
  · rcases hrun : (t.render (.map options.params)
        (functions ds (options.surroundings clock))).run.run journal₄ with ⟨cause | found, after⟩
    · rw [hrun] at hevaluate
      cases hevaluate
    · rw [hrun] at hevaluate
      cases hevaluate
      rfl
  · cases h
    rfl

/-- A call with a tame template gives a text without angle brackets, with entities reverted or not. -/
theorem isAngleFree_of_rendered {text : String} (hmaker : r.maker = .standard)
    (hstore : store.Agrees r.maker files) (hoptions : r.resolveOptions request.layer = .ok options)
    (ht : TemplateMaker.standard.build files ⟨request.template, options.directory.map Path.text⟩ = .ok t)
    (hsource : IsAngleFree t.source) (hescapes : t.EscapesAll)
    (hcalls : t.CallsBlocksOnly options.helpers) (hparams : (Value.map options.params).IsData)
    (h : outcomeOf (r.rendered files clock request) store journal = .ok text) : IsAngleFree text := by
  obtain ⟨source, -, hcompile⟩ := TemplateMaker.source_of_build _ _ _ ht
  rw [← hmaker] at ht
  obtain ⟨ds, before, written, hds, hwritten, rfl⟩ := exists_of_rendered hstore hoptions ht h
  have hfree : IsAngleFree written := by
    have htame := Template.isTame_nodes hcompile hsource hescapes hcalls
    refine Template.yields_render htame hparams.carries (fun name hname => ?_) before written hwritten
    exact ⟨fun heq => hname.2 (by simp [heq]), keys_functions hds hname.1 _⟩
  split
  · exact Text.isAngleFree_unescape hfree
  · exact hfree

/-- The values of a call add no markup to its document, be it the first call of a renderer or one after any
others, with entities reverted or not. -/
theorem render_isAngleFree {base : RenderOptions} {defaults : OptionLayer} {before : Journal}
    {d : Document} (uses : List Use) (hmake : ((make base defaults).run.run before).1 = .ok r)
    (hoptions : r.resolveOptions request.layer = .ok options)
    (ht : TemplateMaker.standard.build files ⟨request.template, options.directory.map Path.text⟩ = .ok t)
    (hsource : IsAngleFree t.source) (hescapes : t.EscapesAll)
    (hcalls : t.CallsBlocksOnly options.helpers) (hparams : (Value.map options.params).IsData)
    (hrender : let after := r.useAll files journal uses
      outcomeOf (r.render files clock request) after.1 after.2 = .ok d) :
    IsAngleFree d.body ∧ ∀ part ∈ d.sections, IsAngleFree part.content := by
  have hstandard : r.maker = .standard ∧ r.readHeader = HeadedText.ofText := by
    obtain ⟨_, _, -, -, rfl⟩ := exists_of_make hmake
    exact ⟨rfl, rfl⟩
  have hagrees : (r.useAll files journal uses).1.Agrees r.maker files :=
    agrees_foldl r files uses agrees_empty
  dsimp only at hrender
  rw [outcomeOf_render, hstandard.2] at hrender
  cases hrendered : outcomeOf (r.rendered files clock request) (r.useAll files journal uses).1
      (r.useAll files journal uses).2 with
  | error fault =>
    rw [hrendered] at hrender
    cases hrender
  | ok text =>
    rw [hrendered] at hrender
    have htext := isAngleFree_of_rendered hstandard.1 hagrees hoptions ht hsource hescapes hcalls hparams
      hrendered
    cases hread : HeadedText.ofText text with
    | error fault =>
      simp only [hread] at hrender
      cases hrender
    | ok headed =>
      simp only [hread] at hrender
      cases hrender
      obtain ⟨hbody, hparts⟩ := Document.subset_of_ofText hread
      exact ⟨Text.isAngleFree_of_subset htext hbody, fun part hpart =>
        Text.isAngleFree_of_subset htext (hparts part hpart)⟩

/-- Among the values there is markup, in a text and in a key. -/
def markupNames : List Value := [.str "<b>\"Ada\"</b>", .map [(.str "<i>", .null)]]

def markupRequest : RenderRequest where
  template := "=== Names ===\n\n\x7b\x7b#each names\x7d\x7d- \x7b\x7bthis\x7d\x7d\x7b\x7b/each\x7d\x7d"
  layer := { params := .map [(.str "names", .list markupNames)] }

theorem render_markupRequest : ∃ r d, ((make {} {}).run.run []).1 = .ok r ∧
    outcomeOf (r.render {} ⟨0, .floating, by decide⟩ markupRequest) {} [] = .ok d ∧
      d.body = "=== Names ===\n\n- &lt;b&gt;\"Ada\"&lt;/b&gt;- \x7b'&lt;i&gt;': None\x7d" ∧
        IsAngleFree d.body ∧ ∀ part ∈ d.sections, IsAngleFree part.content := by
  obtain ⟨r, options, hmake, hoptions, hparams, hchecks, hbody⟩ : ∃ r options,
      ((make {} {}).run.run []).1 = .ok r ∧ r.resolveOptions markupRequest.layer = .ok options ∧
        options.params = [(.str "names", .list markupNames)] ∧
        (TemplateMaker.standard.build {}
          ⟨markupRequest.template, options.directory.map Path.text⟩).toOption.any (fun t =>
            IsAngleFree t.source ∧ t.EscapesAll ∧ t.CallsBlocksOnly options.helpers) ∧
        (outcomeOf (r.render {} ⟨0, .floating, by decide⟩ markupRequest) {} []).toOption.map
          Document.body =
            some "=== Names ===\n\n- &lt;b&gt;\"Ada\"&lt;/b&gt;- \x7b'&lt;i&gt;': None\x7d" := by
    refine ⟨_, _, rfl, rfl, rfl, ?_, ?_⟩
    · decide +kernel
    · decide +kernel
  have hdata : (Value.map options.params).IsData := by
    rw [hparams]
    have hnames : ∀ v ∈ markupNames, v.IsData := by
      simp only [markupNames, List.forall_mem_cons, List.not_mem_nil, false_implies, implies_true,
        and_true]
      exact ⟨.str _, .map (by simpa using Value.Carries.str _) (by simpa using Value.Carries.null)⟩
    exact .map (by simpa using Value.Carries.str _) (by simpa using Value.Carries.list hnames)
  cases ht : TemplateMaker.standard.build {}
      ⟨markupRequest.template, options.directory.map Path.text⟩ with
  | error fault =>
    rw [ht] at hchecks
    cases hchecks
  | ok t =>
    rw [ht] at hchecks
    obtain ⟨hsource, hescapes, hcalls⟩ := of_decide_eq_true hchecks
    cases hrender : outcomeOf (r.render {} ⟨0, .floating, by decide⟩ markupRequest) {} [] with
    | error fault =>
      rw [hrender] at hbody
      cases hbody
    | ok d =>
      rw [hrender] at hbody
      obtain hbody := Option.some.inj hbody
      refine ⟨r, d, hmake, hrender, hbody, ?_⟩
      exact render_isAngleFree [] hmake hoptions ht hsource hescapes hcalls hdata hrender

end Renderer

end PromptTemplates
