import PromptTemplates.Proofs.Settings.ConfigFiles
import PromptTemplates.Proofs.Text.Trimming

/-!
# Options from a configuration

Options are made by applying the settings of a configuration one after the other. In the end each setting
has the value that the configuration has under its key.
-/

namespace PromptTemplates

open Value (IsTable)

/-- The key of a setting; the directory is left out, as it has two. -/
def Setting.key? : Setting → Option String
  | .directory => none
  | .baseUrl => some "base_url"
  | .timezone => some "timezone"
  | .unescape => some "unescape"
  | .params => some "params"

theorem Setting.mem_keys {setting : Setting} {name : String}
    (h : Setting.ofKey? (.str name) = some setting) : (name, setting) ∈ Setting.keys := by
  obtain ⟨front, back, hkeys, -⟩ := List.lookup_eq_some_iff.mp h
  rw [hkeys]
  simp

theorem Setting.ofKey?_eq_some_iff {setting : Setting} {key name : String} (h : setting.key? = some key) :
    Setting.ofKey? (.str name) = some setting ↔ name = key := by
  constructor
  · intro hname
    have hmem := Setting.mem_keys hname
    simp only [Setting.keys, List.mem_cons, Prod.mk.injEq, List.not_mem_nil, or_false] at hmem
    rcases hmem with ⟨rfl, rfl⟩ | ⟨rfl, rfl⟩ | ⟨rfl, rfl⟩ | ⟨rfl, rfl⟩ | ⟨rfl, rfl⟩ | ⟨rfl, rfl⟩ <;>
      cases h <;> rfl
  · rintro rfl
    cases setting <;> cases h <;> rfl

namespace RenderOptions

variable {home : String} {o o' : RenderOptions} {config : Config}

/-- What the options have for a setting. -/
def setting (o : RenderOptions) : Setting → Value
  | .directory => .null
  | .baseUrl => o.baseUrl
  | .timezone => o.timezone
  | .unescape => o.unescape
  | .params => .map o.params

/-- What applying settings in order results in. -/
def settled (home : String) : RenderOptions → Config → Except Fault RenderOptions
  | o, [] => .ok o
  | o, (key, v) :: rest =>
    match Setting.ofKey? key with
    | none => settled home o rest
    | some setting => o.set home setting v >>= fun o => settled home o rest

theorem gives_setAll (home : String) (o : RenderOptions) (config : Config) :
    (setAll home o config).Gives (settled home o config) := by
  induction config generalizing o with
  | nil => exact .pure _
  | cons entry rest ih =>
    obtain ⟨key, v⟩ := entry
    unfold setAll settled
    cases Setting.ofKey? key with
    | none => exact .note _ (ih o)
    | some setting => exact .bind (.ofExcept _) fun o => ih o

/-- Applying a setting changes that setting only. -/
theorem setting_set {changed other : Setting} {v : Value} (hother : other ≠ .directory)
    (h : o.set home changed v = .ok o') :
    o'.setting other = if changed = other then v else o.setting other := by
  cases changed with
  | directory =>
    obtain ⟨directory, -, h⟩ := exists_of_bind_eq_ok h
    cases h
    cases other <;> first | rfl | contradiction
  | baseUrl =>
    cases h
    cases other <;> rfl
  | timezone =>
    cases h
    cases other <;> rfl
  | unescape =>
    cases v with
    | bool b =>
      cases h
      cases other <;> rfl
    | _ => cases h
  | params =>
    cases v with
    | map entries =>
      cases h
      cases other <;> rfl
    | _ => cases h

theorem setting_settled (kind : Setting) {key : String} (hkey : kind.key? = some key)
    (hconfig : IsTable config) (h : settled home o config = .ok o') :
    o'.setting kind = (Value.entry? key config).getD (o.setting kind) := by
  induction hconfig generalizing o with
  | nil =>
    cases h
    rfl
  | @cons name v rest hname hrest ih =>
    rw [Value.entry?_cons_str]
    unfold settled at h
    cases hchanged : Setting.ofKey? (.str name) with
    | none =>
      have hne : name ≠ key := fun heq => by
        rw [(Setting.ofKey?_eq_some_iff hkey).mpr heq] at hchanged
        cases hchanged
      rw [hchanged] at h
      rw [if_neg hne]
      exact ih h
    | some changed =>
      rw [hchanged] at h
      obtain ⟨next, hset, h⟩ := exists_of_bind_eq_ok h
      rw [ih h, setting_set (by rintro rfl; cases hkey) hset]
      by_cases heq : name = key
      · have hkind : changed = kind :=
          Option.some.inj (hchanged.symm.trans ((Setting.ofKey?_eq_some_iff hkey).mpr heq))
        subst heq
        rw [if_pos hkind, if_pos rfl, hname]
        rfl
      · have hkind : changed ≠ kind := fun hkind =>
          heq ((Setting.ofKey?_eq_some_iff hkey).mp (hkind ▸ hchanged))
        rw [if_neg hkind, if_neg heq]

theorem exists_settled_of_set (h : ∀ k v, (k, v) ∈ config → ∀ kind, Setting.ofKey? k = some kind →
    ∀ o, ∃ o', set home o kind v = .ok o') : ∃ o', settled home o config = .ok o' := by
  induction config generalizing o with
  | nil => exact ⟨o, rfl⟩
  | cons entry rest ih =>
    obtain ⟨k, v⟩ := entry
    have hrest (o : RenderOptions) : ∃ o', settled home o rest = .ok o' :=
      ih fun k v hmem => h k v (List.mem_cons_of_mem _ hmem)
    unfold settled
    cases hkind : Setting.ofKey? k with
    | none => exact hrest o
    | some kind =>
      obtain ⟨next, hnext⟩ := h k v List.mem_cons_self kind hkind o
      simp only [hnext]
      exact hrest next

/-- Settings of the right types can be applied, if the directories among them can be used. -/
theorem exists_settled (hlayer : Config.IsLayer config) (hconfig : IsTable config)
    (hdirectory : ∀ key ∈ ["dir", "directory"], ∀ v, Value.entry? key config = some v →
      ∃ directory, directoryOf home v = .ok directory) :
    ∃ o', settled home o config = .ok o' := by
  refine exists_settled_of_set fun k v hmem kind hkind o => ?_
  obtain ⟨name, rfl, hfound⟩ := hconfig.found_of_mem hmem
  cases kind with
  | directory =>
    have hname : name ∈ ["dir", "directory"] := by
      simpa [Setting.keys] using Setting.mem_keys hkind
    obtain ⟨directory, hv⟩ := hdirectory name hname v hfound
    exact ⟨{ o with directory }, by rw [set, hv]; rfl⟩
  | baseUrl => exact ⟨_, rfl⟩
  | timezone => exact ⟨_, rfl⟩
  | unescape =>
    rw [Setting.ofKey?_eq_some_iff rfl] at hkind
    subst hkind
    obtain ⟨b, rfl⟩ := hlayer.unescape v hfound
    exact ⟨_, rfl⟩
  | params =>
    rw [Setting.ofKey?_eq_some_iff rfl] at hkind
    subst hkind
    obtain ⟨entries, rfl⟩ := hlayer.params v hfound
    exact ⟨_, rfl⟩

/-! ## Base addresses -/

/-- A base address without the slashes at its end. -/
def trimmedBase : Value → Value
  | .str s => .str (Text.dropEndAll '/' s)
  | v => v

theorem cleanBase_eq {v : Value} (h : v.IsOptionalText) : cleanBase v = .ok (trimmedBase v) := by
  cases v with
  | null => rfl
  | str s => rfl
  | _ => exact h.elim

theorem isOptionalText_trimmedBase {v : Value} (h : v.IsOptionalText) :
    (trimmedBase v).IsOptionalText := by
  cases v with
  | null => trivial
  | str s => trivial
  | _ => exact h.elim

theorem trimmedBase_trimmedBase (v : Value) : trimmedBase (trimmedBase v) = trimmedBase v := by
  cases v with
  | str s =>
    have hlast := Text.getLast?_dropEndWhile (· == '/') s.toList
    have hdrop : Text.dropEndWhile (· == '/') (Text.dropEndWhile (· == '/') s.toList ++ []) = _ :=
      Text.dropEndWhile_append_stop (by simp) hlast
    rw [List.append_nil] at hdrop
    simp [trimmedBase, Text.dropEndAll, hdrop]
  | _ => rfl

end RenderOptions

end PromptTemplates
