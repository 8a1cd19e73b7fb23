import PromptTemplates.Proofs.Calendar.ClockReadings
import PromptTemplates.Proofs.Helper.Steadiness

/-!
# Styles of date and time

A style that shows a date and a time is put together of a style of the date and one of the time. Two of
these styles format the date as a value of its own, so the moment is brought into the zone of the
formatter twice. The second time it stays as it is, even where the clocks of the zone never show it.
-/

namespace PromptTemplates

open Calendar

namespace Action

/-- The texts of two actions, with a text between them. -/
def joined (first : Action String) (between : String) (second : Action String) : Action String := do
  return (← first) ++ between ++ (← second)

/-- The action fails, whatever has been noted before. -/
def Fails {α : Type} (action : Action α) : Prop := ∃ fault, action.Gives (.error fault)

variable {α : Type} {action : Action α}

theorem Gives.unique {result other : Except Fault α} (h : action.Gives result)
    (hother : action.Gives other) : result = other :=
  (h []).symm.trans (hother [])

end Action

namespace Formatter

variable {f : Formatter} {m : Moment} {value meridiem zone : Value} {clock : Option Value}

theorem format_of_ok {style : Style} (h : f.coerce value clock = .ok m) :
    f.format value style meridiem zone clock = f.write m style meridiem zone := by
  unfold format
  rw [h]
  exact pure_bind m _

theorem format_of_error {style : Style} {fault : Fault} (h : f.coerce value clock = .error fault) :
    f.format value style meridiem zone clock = throw fault := by
  unfold format
  rw [h]
  rfl

/-- A style shows what a style of dates shows, a text and what a style of times shows, and fails exactly
when the value is refused or one of the two styles fails. -/
structure Composes (f : Formatter) (value meridiem zone : Value) (clock : Option Value)
    (style dateStyle : Style) (between : String) (timeStyle : Style) : Prop where
  joins : f.format value style meridiem zone clock =
    (f.format value dateStyle meridiem zone clock).joined between
      (f.format value timeStyle meridiem zone clock)
  fails_iff : (f.format value style meridiem zone clock).Fails ↔
    (∃ fault, f.coerce value clock = .error fault) ∨
      (f.format value dateStyle meridiem zone clock).Fails ∨
        (f.format value timeStyle meridiem zone clock).Fails

/-- The clocks of Kathmandu went from 1985-12-31 at midnight to a quarter past, so they never showed the
start of 1986. -/
example : (format ⟨some .kathmandu⟩ (.date ⟨725006, by decide⟩) .dateTimeShort .null .null none).outcome =
    .ok "1/1/1986, 12:00am" := by
  decide

end Formatter

end PromptTemplates
