import PromptTemplates.Proofs.Value.Tables
import PromptTemplates.Settings.Config

/-!
# Layers of settings

What a configuration that is made of two layers has under a key: the value of the upper layer, or else
that of the lower one. The tables of parameters and of profiles are made of the two in the same way, so
this holds of each parameter and each profile too.
-/

namespace PromptTemplates.Config

open Value (IsTable)

variable {key name : String} {lower upper : Config} {v : Value}

/-- The settings under the key, if there are any, are a table. -/
def HoldsTable (key : String) (config : Config) : Prop :=
  ∀ v, Value.entry? key config = some v → ∃ entries, v = .map entries ∧ IsTable entries

/-- What a name stands for in the table under a key. -/
def nested? (key name : String) (config : Config) : Option Value :=
  match Value.entry? key config with
  | some (.map entries) => Value.entry? name entries
  | _ => none

/-- The value that a key gets when `above` is put on top of what is there. -/
def stacked (key : String) (below : Option Value) (above : Value) : Value :=
  match if key ∈ layeredKeys then below else none, above with
  | some (.map below), .map above => .map (Entries.putAll below above)
  | _, above => above

theorem overlay_str :
    overlay lower (.str key) v = Entries.put (.str key) (stacked key (Value.entry? key lower) v) lower := by
  have hlayered : (layeredKeys.any fun name => Value.str key == .str name) = true ↔
      key ∈ layeredKeys := by
    simp only [List.any_eq_true, Value.beq_str_iff, Value.str.injEq, exists_eq_right']
  unfold overlay stacked Value.entry?
  simp only [hlayered]
  split <;> simp_all

theorem isTable_merge (hlower : IsTable lower) (hupper : IsTable upper) :
    IsTable (merge lower upper) := by
  induction hupper generalizing lower with
  | nil => exact hlower
  | @cons name v rest hname hrest ih =>
    change IsTable (merge (overlay lower (.str name) v) rest)
    rw [overlay_str]
    exact ih hlower.put

theorem entry?_merge (hupper : IsTable upper) : Value.entry? key (merge lower upper) =
    match Value.entry? key upper with
    | some above => some (stacked key (Value.entry? key lower) above)
    | none => Value.entry? key lower := by
  induction hupper generalizing lower with
  | nil => rfl
  | @cons name v rest hname hrest ih =>
    change Value.entry? key (merge (overlay lower (.str name) v) rest) = _
    rw [overlay_str, ih, Value.entry?_put, Value.entry?_cons_str]
    by_cases hkey : name = key
    · subst hkey
      rw [hname, if_pos rfl, if_pos rfl]
    · rw [if_neg hkey, if_neg hkey]

/-- A layer with other keys comes behind what is there. -/
theorem merge_of_disjoint (hupper : IsTable upper)
    (h : ∀ name v, Value.entry? name upper = some v → Value.entry? name lower = none) :
    merge lower upper = lower ++ upper := by
  induction hupper generalizing lower with
  | nil => exact (List.append_nil lower).symm
  | @cons name v rest hname hrest ih =>
    have habsent : Value.entry? name lower = none := h name v (by rw [Value.entry?_cons_str, if_pos rfl])
    have hstacked : stacked name none v = v := by simp [stacked]
    change merge (overlay lower (.str name) v) rest = _
    rw [overlay_str, habsent, hstacked, ih, Value.put_of_absent habsent, List.append_assoc]
    · rfl
    intro other w hother
    have hne : name ≠ other := by
      rintro rfl
      rw [hname] at hother
      cases hother
    rw [Value.entry?_put, if_neg hne]
    exact h other w (by rw [Value.entry?_cons_str, if_neg hne, hother])

theorem merge_nil (hupper : IsTable upper) : merge [] upper = upper :=
  merge_of_disjoint hupper fun _ _ _ => rfl

/-- The upper layer goes before the lower one. -/
theorem entry?_merge_of_notMem (hupper : IsTable upper) (hkey : key ∉ layeredKeys) :
    Value.entry? key (merge lower upper) = (Value.entry? key upper <|> Value.entry? key lower) := by
  rw [entry?_merge hupper]
  cases Value.entry? key upper with
  | none => rfl
  | some above => simp [stacked, hkey]

theorem holdsTable_merge (hlower : HoldsTable key lower) (hupper : IsTable upper)
    (habove : HoldsTable key upper) : HoldsTable key (merge lower upper) := by
  intro v hv
  rw [entry?_merge hupper] at hv
  cases hentry : Value.entry? key upper with
  | none =>
    rw [hentry] at hv
    exact hlower v hv
  | some above =>
    rw [hentry] at hv
    cases hv
    obtain ⟨entries, rfl, hentries⟩ := habove above hentry
    unfold stacked
    split
    · next below above hbelow heq =>
      cases heq
      refine ⟨_, rfl, IsTable.putAll ?_ hentries⟩
      split at hbelow
      · obtain ⟨_, heq, hbelow⟩ := hlower _ hbelow
        cases heq
        exact hbelow
      · cases hbelow
    · exact ⟨entries, rfl, hentries⟩

/-- In the tables that are layered name by name, the upper layer goes before the lower one. -/
theorem nested?_merge (hkey : key ∈ layeredKeys) (hlower : HoldsTable key lower)
    (hupper : IsTable upper) (habove : HoldsTable key upper) :
    nested? key name (merge lower upper) = (nested? key name upper <|> nested? key name lower) := by
  unfold nested?
  rw [entry?_merge hupper]
  cases hentry : Value.entry? key upper with
  | none => rfl
  | some above =>
    obtain ⟨entries, rfl, hentries⟩ := habove above hentry
    dsimp only
    cases hbelow : Value.entry? key lower with
    | none => simp [stacked]
    | some below =>
      obtain ⟨entries', rfl, -⟩ := hlower below hbelow
      simp only [stacked, if_pos hkey]
      exact Value.entry?_putAll hentries

theorem entry?_erase_of_ne {other : String} {config : Config} (h : other ≠ key) :
    Value.entry? key (Entries.erase (.str other) config) = Value.entry? key config := by
  rw [Value.entry?_erase, if_neg h]

theorem holdsTable_erase {other : String} {config : Config} (h : HoldsTable key config) :
    HoldsTable key (Entries.erase (.str other) config) := by
  intro v hv
  rw [Value.entry?_erase] at hv
  split at hv
  · cases hv
  · exact h v hv

theorem nested?_erase_of_ne {other : String} {config : Config} (h : other ≠ key) :
    nested? key name (Entries.erase (.str other) config) = nested? key name config := by
  unfold nested?
  rw [entry?_erase_of_ne h]

end PromptTemplates.Config
