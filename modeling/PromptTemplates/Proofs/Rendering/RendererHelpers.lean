import PromptTemplates.Proofs.Journal.Outcomes
import PromptTemplates.Proofs.Rendering.Steps
import PromptTemplates.Proofs.Settings.WellTyped

/-!
# The helpers of a renderer

A renderer holds the standard helpers and those of its layers, all of them described, and a call adds the
helpers of its own layer. So what the handlers of all these layers have in common, the helpers of every
call have in common.
-/

namespace PromptTemplates

theorem Registration.handler_of_describe {h : Handler} {d : Descriptor}
    (hd : (Registration.handler h).describe = .ok d) : d.handler = h := by
  unfold describe Descriptor.ofHandler Descriptor.make at hd
  dsimp only at hd
  split at hd
  · cases hd
    rfl
  · cases hd

namespace Renderer

variable {r : Renderer} {P : Handler → Prop}

theorem exists_of_describedAs {helpers : Entries String Registration} {ds : Entries String Descriptor}
    (h : describedAs helpers = .ok ds) {name : String} {d : Descriptor} (hmem : (name, d) ∈ ds) :
    ∃ entry, (name, entry) ∈ helpers ∧ entry.describe = .ok d := by
  induction helpers generalizing ds with
  | nil =>
    cases h
    cases hmem
  | cons first rest ih =>
    unfold describedAs at h
    obtain ⟨e, hdescribe, h⟩ := exists_of_bind_eq_ok h
    obtain ⟨es, hrest, h⟩ := exists_of_bind_eq_ok h
    cases h
    rcases List.mem_cons.mp hmem with heq | hmem
    · cases heq
      exact ⟨first.2, by simp, hdescribe⟩
    · obtain ⟨found, hfound, hd⟩ := ih hrest hmem
      exact ⟨found, List.mem_cons_of_mem _ hfound, hd⟩

theorem helpers_of_resolveOptions {layer : OptionLayer} {options : RenderOptions}
    (h : r.resolveOptions layer = .ok options) :
    options.helpers = Entries.putAll r.options.helpers layer.helpers := by
  unfold resolveOptions at h
  obtain ⟨merged, hmerged, h⟩ := exists_of_bind_eq_ok h
  rw [← RenderOptions.helpers_of_merged hmerged]
  split at h
  · cases h
    rfl
  · obtain ⟨f, -, h⟩ := exists_of_bind_eq_ok h
    cases h
    rfl

section made

variable {base : RenderOptions} {defaults : OptionLayer} {readHeader : HeaderReader}
  {maker : TemplateMaker}

/-- How a renderer is made does not depend on what has been noted before. -/
theorem gives_make : (make base defaults readHeader maker).Gives (do
    let options ← base.merged defaults
    let ds ← describedAs (allHelpers options.helpers)
    let described := ds.map fun (name, d) => (name, Registration.described d)
    return { options := { options with helpers := described }, readHeader, maker }) :=
  (Action.Gives.ofExcept _).bind fun _ =>
    Action.Gives.bind (run_describeAll _) fun _ => .pure _

/-- A renderer holds the options that its layers make, with all helpers described. -/
theorem exists_of_make {before : Journal}
    (h : ((make base defaults readHeader maker).run.run before).1 = .ok r) : ∃ options ds,
      base.merged defaults = .ok options ∧ describedAs (allHelpers options.helpers) = .ok ds ∧
        r = { options := { options with helpers := ds.map fun (name, d) => (name, .described d) }
              readHeader, maker } := by
  rw [gives_make before] at h
  obtain ⟨options, hoptions, h⟩ := exists_of_bind_eq_ok h
  obtain ⟨ds, hds, h⟩ := exists_of_bind_eq_ok h
  cases h
  exact ⟨options, ds, hoptions, hds, rfl⟩

/-- What the handlers of the standard helpers and of the layers have in common, those of the renderer have
in common. -/
theorem forall_helper_of_make {before : Journal} (hstandard : ∀ entry ∈ Standard.helpers, P entry.2)
    (hbase : ∀ entry ∈ base.helpers, ∀ d, entry.2.describe = .ok d → P d.handler)
    (hdefaults : ∀ entry ∈ defaults.helpers, ∀ d, entry.2.describe = .ok d → P d.handler)
    (h : ((make base defaults readHeader maker).run.run before).1 = .ok r) :
    ∀ entry ∈ r.options.helpers, ∀ d, entry.2.describe = .ok d → P d.handler := by
  obtain ⟨options, ds, hoptions, hds, rfl⟩ := exists_of_make h
  intro entry hentry e he
  obtain ⟨⟨name, d⟩, hmem, rfl⟩ := List.mem_map.mp hentry
  cases he
  obtain ⟨registration, hregistration, hdescribe⟩ := exists_of_describedAs hds hmem
  rcases Entries.mem_putAll hregistration with hmem | hmem
  · obtain ⟨⟨_, h⟩, hmember, heq⟩ := List.mem_map.mp hmem
    cases heq
    rw [Registration.handler_of_describe hdescribe]
    exact hstandard _ hmember
  · rw [RenderOptions.helpers_of_merged hoptions] at hmem
    rcases Entries.mem_putAll hmem with hmem | hmem
    · exact hbase _ hmem e hdescribe
    · exact hdefaults _ hmem e hdescribe

end made

end Renderer

end PromptTemplates
