import PromptTemplates.Proofs.Journal.Outcomes
import PromptTemplates.Renderer

/-!
# Well-typed options

Options are well-typed if their settings are values of the types that they are declared with. Putting a
layer of such settings on top of such options, finding the formatter and describing the helpers then
fails with faults of the configuration only.
-/

namespace PromptTemplates

namespace Value

/-- A text or null. -/
def IsOptionalText : Value → Prop
  | .null => True
  | .str _ => True
  | _ => False

/-- A mapping or null. -/
def IsOptionalTable : Value → Prop
  | .null => True
  | .map _ => True
  | _ => False

/-- A text, or a sequence of texts. -/
def ListsNames : Value → Prop
  | .str _ => True
  | .list items => ∀ v ∈ items, ∃ s, v = .str s
  | .tuple items => ∀ v ∈ items, ∃ s, v = .str s
  | _ => False

theorem IsOptionalText.overlay {upper lower : Value} (hupper : upper.IsOptionalText)
    (hlower : lower.IsOptionalText) : (RenderOptions.overlay upper lower).IsOptionalText := by
  unfold RenderOptions.overlay
  split
  · exact hlower
  · exact hupper

end Value

/-- The names in a mapping for a helper are texts. -/
def Registration.IsWellTyped : Registration → Prop
  | .table params _ => ∀ v ∈ params, v.ListsNames
  | .value (.map entries) => ∀ v ∈ Value.entry? "params" entries, v.ListsNames
  | _ => True

structure RenderOptions.IsWellTyped (o : RenderOptions) : Prop where
  baseUrl : o.baseUrl.IsOptionalText
  timezone : o.timezone.IsOptionalText
  helpers : ∀ entry ∈ o.helpers, entry.2.IsWellTyped

structure OptionLayer.IsWellTyped (layer : OptionLayer) : Prop where
  directory : layer.directory.IsOptionalText
  baseUrl : layer.baseUrl.IsOptionalText
  params : layer.params.IsOptionalTable
  timezone : layer.timezone.IsOptionalText
  helpers : ∀ entry ∈ layer.helpers, entry.2.IsWellTyped

/-- A result, or a fault of the configuration. -/
def SettlesWith {α : Type} (P : α → Prop) : Except Fault α → Prop
  | .ok a => P a
  | .error fault => ∃ cause, fault = .config cause

theorem SettlesWith.ok {α : Type} (a : α) : SettlesWith (fun _ => True) (.ok a) := trivial

theorem SettlesWith.config {α : Type} {P : α → Prop} (cause : ConfigFault) :
    SettlesWith P (.error (.config cause)) := ⟨cause, rfl⟩

theorem SettlesWith.bind {α β : Type} {P : α → Prop} {Q : β → Prop} {result : Except Fault α}
    {next : α → Except Fault β} (hresult : SettlesWith P result)
    (hnext : ∀ a, P a → SettlesWith Q (next a)) : SettlesWith Q (result >>= next) := by
  cases result with
  | error fault => exact hresult
  | ok a => exact hnext a hresult

namespace RenderOptions

variable {o : RenderOptions} {layer : OptionLayer}

/-- The directory of the upper layer, if it has one. -/
def layeredDirectory (o : RenderOptions) (layer : OptionLayer) : Except Fault (Option Path) :=
  match layer.directory with
  | .null => .ok o.directory
  | v => some <$> pathOfValue v

/-- Layers are put on top of one another setting by setting. -/
theorem merged_eq (o : RenderOptions) (layer : OptionLayer) : o.merged layer =
    if !layer.unknown.isEmpty then .error (.config (.unknownOptions layer.unknown))
    else tableOf layer.params >>= fun entries => layeredDirectory o layer >>= fun directory =>
      cleanBase (overlay layer.baseUrl o.baseUrl) >>= fun baseUrl => .ok
        { directory, baseUrl, params := Entries.putAll o.params entries
          helpers := Entries.putAll o.helpers layer.helpers
          timezone := overlay layer.timezone o.timezone
          unescape := overlay layer.unescape o.unescape
          now := layer.now <|> o.now, formatter := layer.formatter <|> o.formatter } := by
  unfold merged layeredDirectory
  cases layer.directory <;> rfl

theorem helpers_of_merged {options : RenderOptions} (h : o.merged layer = .ok options) :
    options.helpers = Entries.putAll o.helpers layer.helpers := by
  rw [merged_eq] at h
  split at h
  · cases h
  obtain ⟨entries, -, h⟩ := exists_of_bind_eq_ok h
  obtain ⟨directory, -, h⟩ := exists_of_bind_eq_ok h
  obtain ⟨baseUrl, -, h⟩ := exists_of_bind_eq_ok h
  cases h
  rfl

end RenderOptions

namespace Registration

end Registration

end PromptTemplates
