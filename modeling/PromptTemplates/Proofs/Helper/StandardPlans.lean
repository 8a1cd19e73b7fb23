import PromptTemplates.Helper.Standard
import PromptTemplates.Proofs.Helper.Attribution

/-!
# The standard helpers catch nothing

None of the standard helpers renders nodes; what they do is a sequence of steps that give a value, fail or
note an event, so each of them follows a plan.
-/

namespace PromptTemplates

open Calendar

namespace Calendar.Moment

theorem followsPlan_zoneText (m : Moment) (style : Value) : FollowsPlan fun _ => m.zoneText style := by
  unfold zoneText
  refine (FollowsPlan.ofExcept _).bind fun zoneStyle => ?_
  split
  · exact .pure _
  · exact (FollowsPlan.note (by simp)).bind fun _ => .pure _

end Calendar.Moment

namespace Formatter

theorem followsPlan_write (f : Formatter) (m : Moment) (style : Style) (meridiem zone : Value) :
    FollowsPlan fun _ => f.write m style meridiem zone := by
  have htime : ∀ precision, FollowsPlan fun _ => Action.ofExcept (m.time precision meridiem) :=
    fun precision => .ofExcept _
  have hzone := m.followsPlan_zoneText zone
  have hdate : ∀ written, FollowsPlan fun _ => f.dateOf m written :=
    fun written => (FollowsPlan.ofExcept _).bind fun m => .pure _
  unfold write
  cases style with
  | date => exact .pure _
  | dateLong => exact .pure _
  | dateMedium => exact .pure _
  | dateShort => exact .pure _
  | timeLong => exact htime .seconds
  | timeMedium => exact htime .minutes
  | timeShort => exact htime .compact
  | timeZone => exact (htime .minutes).bind fun time => hzone.bind fun name => .pure _
  | dateTimeLong => exact (htime .minutes).bind fun time => .pure _
  | dateTimeMedium => exact (hdate _).bind fun date => (htime .minutes).bind fun time => .pure _
  | dateTimeShort => exact (hdate _).bind fun date => (htime .minutes).bind fun time => .pure _
  | dateTimeZone => exact (htime .minutes).bind fun time => hzone.bind fun name => .pure _

end Formatter

namespace Standard

theorem followsPlan_write (style : Style) (frame : Frame) (meridiem zone : Value) :
    FollowsPlan fun _ => write style frame meridiem zone := by
  unfold write Formatter.format
  refine (FollowsPlan.ofExcept _).bind fun f => ?_
  refine FollowsPlan.bind ?_ fun text => .pure _
  exact (FollowsPlan.ofExcept _).bind fun m => f.followsPlan_write m style meridiem zone

/-- A handler that makes nothing of the way to render nodes is transparent if each of its runs follows a
plan. -/
theorem isTransparent_of_constant {h : Handler}
    (hconstant : ∀ bound enter other, h.run ⟨bound, enter⟩ = h.run ⟨bound, other⟩)
    (hplan : ∀ frame, FollowsPlan fun _ => h.run frame) : h.IsTransparent := by
  intro bound
  obtain ⟨plan, hrun⟩ := hplan ⟨bound, fun _ _ => pure []⟩
  refine ⟨plan, fun enter => ?_⟩
  rw [← hrun enter]
  exact hconstant bound enter _

theorem isTransparent_dateHelper (style : Style) : (dateHelper style).IsTransparent :=
  isTransparent_of_constant (fun _ _ _ => rfl) fun frame => followsPlan_write style frame _ _

theorem isTransparent_timeHelper (style : Style) : (timeHelper style).IsTransparent :=
  isTransparent_of_constant (fun _ _ _ => rfl) fun frame => followsPlan_write style frame _ _

theorem isTransparent_zoneHelper (style : Style) : (zoneHelper style).IsTransparent :=
  isTransparent_of_constant (fun _ _ _ => rfl) fun frame => followsPlan_write style frame _ _

theorem isTransparent_relativeHelper : relativeHelper.IsTransparent :=
  isTransparent_of_constant (fun _ _ _ => rfl) fun _ => .ofExcept _

theorem isTransparent_numberHelper : numberHelper.IsTransparent := by
  refine isTransparent_of_constant (fun _ _ _ => rfl) fun frame => ?_
  unfold numberHelper
  dsimp only
  split
  · split
    · exact .pure _
    · exact .pure _
    · exact .ofExcept _
  · exact .pure _

theorem isTransparent_linkHelper : linkHelper.IsTransparent :=
  isTransparent_of_constant (fun _ _ _ => rfl) fun _ => .pure _

theorem isTransparent_buttonHelper : buttonHelper.IsTransparent :=
  isTransparent_of_constant (fun _ _ _ => rfl) fun _ => .pure _

theorem isTransparent_listHelper : listHelper.IsTransparent :=
  isTransparent_of_constant (fun _ _ _ => rfl) fun _ => .ofExcept _

theorem isTransparent_helpers : ∀ entry ∈ helpers, entry.2.IsTransparent := by
  simp only [helpers, List.forall_mem_cons, List.not_mem_nil, false_implies, implies_true, and_true,
    isTransparent_dateHelper, isTransparent_timeHelper, isTransparent_zoneHelper,
    isTransparent_relativeHelper, isTransparent_numberHelper, isTransparent_linkHelper,
    isTransparent_buttonHelper, isTransparent_listHelper]

end Standard

end PromptTemplates
