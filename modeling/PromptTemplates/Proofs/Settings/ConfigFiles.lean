import PromptTemplates.Proofs.Journal.Outcomes
import PromptTemplates.Proofs.Settings.MergedTables
import PromptTemplates.Proofs.Settings.WellTyped
import PromptTemplates.Proofs.Toml.Tables
import PromptTemplates.Settings.Files

/-!
# The configuration files of a run

The configuration of the user and that of the project are found in files. What is loaded from them is the
settings of the project on top of those of the user, and what is selected is these settings with a profile
on top of them.
-/

namespace PromptTemplates

open Value (IsTable IsTabular)

namespace Config

variable {files : FileTree} {p : Path} {user project config settings : Config}

/-! ## Configurations of files -/

/-- The settings that options are made from have the right types. -/
structure IsLayer (config : Config) : Prop where
  baseUrl : ∀ v, Value.entry? "base_url" config = some v → ∃ s, v = .str s
  timezone : ∀ v, Value.entry? "timezone" config = some v → ∃ s, v = .str s
  unescape : ∀ v, Value.entry? "unescape" config = some v → ∃ b, v = .bool b
  params : ∀ v, Value.entry? "params" config = some v → ∃ entries, v = .map entries

/-- The settings have the right types, in the profiles too. -/
structure IsWellTyped (config : Config) : Prop extends IsLayer config where
  profiles : ∀ v, Value.entry? "profiles" config = some v → ∃ entries, v = .map entries ∧
    ∀ k profile, (k, profile) ∈ entries → ∃ settings, profile = .map settings ∧ IsLayer settings

/-- The settings of the first file that holds any; if no file does, there are none. A file that is not
there holds none. -/
inductive FirstFilled (files : FileTree) : List Path → Config → Prop
  | none : FirstFilled files [] []
  | here {p rest settings} : (load files p).Gives (.ok (.map settings)) → settings ≠ [] →
      FirstFilled files (p :: rest) settings
  | later {p rest settings v} : (load files p).Gives (.ok v) → v.isTruthy = false →
      FirstFilled files rest settings → FirstFilled files (p :: rest) settings

/-- The settings of the selected profile: that of the project if it has one of the name, or else that of
the user. Without a name there are none. -/
inductive Selects (user project : Config) : Option String → Config → Prop
  | none : Selects user project none []
  | empty : Selects user project (some "") []
  | named {name settings} : name ≠ "" →
      (nested? "profiles" name project <|> nested? "profiles" name user) = some (.map settings) →
      Selects user project (some name) settings

theorem load_of_isFile_eq_false (h : files.isFile p = false) : (load files p).Gives (.ok (.map [])) := by
  unfold load FileTree.readText
  unfold FileTree.isFile at h
  rcases hnode : files.node? p with _ | _ | octets
  · exact .pure _
  · exact .pure _
  · rw [hnode] at h
    cases h

/-- What a file of settings alone holds is the table that its text describes. -/
theorem gives_load {text : String} (hfile : files.readText p = .ok text) (hname : p.name ≠ sharedFile)
    (hread : Toml.read text.toList = .ok settings) : (load files p).Gives (.ok (.map settings)) := by
  have hparse : (Action.ofExcept (parse p text)).Gives (.ok (.map settings)) := by
    unfold parse
    rw [hread]
    exact .ofExcept _
  unfold load
  simp only [hfile, if_neg hname]
  exact .note _ (.bind_ok hparse (.ofExcept _))

theorem isTabular_descend {keys : List String} {v w : Value} (hv : IsTabular v)
    (h : descend keys v = .ok w) : IsTabular w := by
  induction keys generalizing v with
  | nil =>
    cases h
    exact hv
  | cons key rest ih =>
    obtain ⟨found, hfound, h⟩ := exists_of_bind_eq_ok h
    cases v with
    | map entries =>
      cases hfound
      refine ih ?_ h
      cases hentry : Value.entry? key entries with
      | none => exact .empty
      | some inner => exact hv.of_found hentry
    | _ => cases hfound

theorem isTabular_of_load {v : Value} (h : (load files p).Gives (.ok v)) : IsTabular v := by
  unfold load at h
  split at h
  · cases h []
  · cases h []
    exact .empty
  · next text _ =>
    have hgives := Action.Gives.note .configFileLoading (.bind (.ofExcept (parse p text)) fun data =>
      .ofExcept (descend (if p.name = sharedFile then sharedTables else []) data))
    obtain ⟨data, hparse, hdescend⟩ := exists_of_bind_eq_ok ((hgives []).symm.trans (h []))
    refine isTabular_descend ?_ hdescend
    unfold parse at hparse
    split at hparse
    · next table hread =>
      cases hparse
      exact Toml.isTabular_read hread
    · cases hparse
    · cases hparse

theorem isTable_of_load (h : (load files p).Gives (.ok (.map settings))) : IsTable settings :=
  (isTabular_of_load h).isTable

theorem FirstFilled.isTabular {paths : List Path} (h : FirstFilled files paths project) :
    IsTabular (.map project) := by
  induction h with
  | none => exact .empty
  | here hload => exact isTabular_of_load hload
  | later _ _ _ ih => exact ih

theorem gives_addUser (h : (load files p).Gives (.ok (.map user))) :
    (addUser files p config).Gives (.ok (merge config user)) := by
  unfold addUser
  split
  · exact .note _ (.bind_ok h (.ofExcept _))
  · next hfile =>
    cases ((load_of_isFile_eq_false (Bool.eq_false_iff.mpr hfile)) []).symm.trans (h [])
    exact .pure _

theorem gives_addProject {paths : List Path} (h : FirstFilled files paths project) :
    (addProject files config paths).Gives (.ok (merge config project)) := by
  induction h with
  | none => exact .pure _
  | @here p rest settings hload hfilled =>
    unfold addProject
    split
    · refine .bind_ok hload ?_
      have htruthy : (Value.map settings).isTruthy = true := by simpa [Value.isTruthy] using hfilled
      rw [if_pos htruthy]
      exact .note _ (.ofExcept _)
    · next hfile =>
      cases ((load_of_isFile_eq_false (Bool.eq_false_iff.mpr hfile)) []).symm.trans (hload [])
      exact absurd rfl hfilled
  | @later p rest settings v hload hfalse _ ih =>
    unfold addProject
    split
    · refine .bind_ok hload ?_
      rw [if_neg (by simp [hfalse])]
      exact ih
    · exact ih

/-! ## Profiles -/

theorem IsLayer.holdsTable_params (h : IsLayer config) (htabular : IsTabular (.map config)) :
    HoldsTable "params" config := fun v hv => by
  obtain ⟨entries, rfl⟩ := h.params v hv
  exact ⟨entries, rfl, (htabular.of_found hv).isTable⟩

theorem IsWellTyped.holdsTable_profiles (h : IsWellTyped config)
    (htabular : IsTabular (.map config)) : HoldsTable "profiles" config := fun v hv => by
  obtain ⟨entries, rfl, -⟩ := h.profiles v hv
  exact ⟨entries, rfl, (htabular.of_found hv).isTable⟩

/-- A profile in a well-typed configuration is a well-typed layer. -/
theorem IsWellTyped.exists_profile {name : String} {v : Value} (h : IsWellTyped config)
    (htabular : IsTabular (.map config)) (hv : nested? "profiles" name config = some v) :
    ∃ settings, v = .map settings ∧ IsLayer settings ∧ IsTabular (.map settings) := by
  unfold nested? at hv
  split at hv
  · next entries hentries =>
    obtain ⟨_, heq, hprofiles⟩ := h.profiles _ hentries
    cases heq
    obtain ⟨settings, rfl, hlayer⟩ := hprofiles _ _ (Value.mem_of_found hv)
    exact ⟨settings, rfl, hlayer, (htabular.of_found hentries).of_found hv⟩
  · cases hv

theorem Selects.unique {name : Option String} {other : Config} (h : Selects user project name settings)
    (hother : Selects user project name other) : settings = other := by
  cases h with
  | none =>
    cases hother
    rfl
  | empty =>
    cases hother with
    | empty => rfl
    | named hname _ => exact absurd rfl hname
  | named hname hfound =>
    cases hother with
    | empty => exact absurd rfl hname
    | named _ hfound' =>
      rw [hfound] at hfound'
      cases hfound'
      rfl

/-- The selected profile is a layer of well-typed settings. -/
theorem Selects.isLayer {name : Option String} (h : Selects user project name settings)
    (huser : IsWellTyped user) (huserTable : IsTabular (.map user)) (hproject : IsWellTyped project)
    (hprojectTable : IsTabular (.map project)) : IsLayer settings ∧ IsTabular (.map settings) := by
  have hempty : IsLayer [] := ⟨nofun, nofun, nofun, nofun⟩
  cases h with
  | none => exact ⟨hempty, .empty⟩
  | empty => exact ⟨hempty, .empty⟩
  | named _ hfound =>
    simp only [Option.orElse_eq_orElse, Option.orElse_eq_or, Option.or_eq_some_iff] at hfound
    rcases hfound with hfound | ⟨-, hfound⟩
    · obtain ⟨_, heq, h⟩ := hproject.exists_profile hprojectTable hfound
      cases heq
      exact h
    · obtain ⟨_, heq, h⟩ := huser.exists_profile huserTable hfound
      cases heq
      exact h

theorem profile_eq {name : String} (h : HoldsTable "profiles" config) : profile config name =
    match nested? "profiles" name config with
    | none => .error (.config (.noProfile name))
    | some .null => .error (.config (.noProfile name))
    | some v => .ok v := by
  unfold profile profilesKey nested?
  cases hentry : Value.entry? "profiles" config with
  | none => rfl
  | some v =>
    obtain ⟨entries, rfl, -⟩ := h v hentry
    dsimp only [Option.getD, member?]
    cases Value.entry? name entries with
    | none => rfl
    | some found => cases found <;> rfl

/-- The settings with those of the selected profile on top of them. -/
def withProfile (config profile : Config) : Config :=
  merge (Entries.erase (.str profilesKey) config) (Entries.erase (.str descriptionKey) profile)

/-- What selecting a profile results in. -/
def selected (config : Config) (name : Option String) : Except Fault Config :=
  match name.filter (!·.isEmpty) with
  | none => .ok (Entries.erase (.str profilesKey) config)
  | some name => profile config name >>= fun
    | .map settings => .ok (withProfile config settings)
    | _ => .error (.plain .missingAttribute)

theorem gives_select (config : Config) (name : Option String) :
    (select config name).Gives (selected config name) := by
  unfold select selected
  cases name.filter (!·.isEmpty) with
  | none => exact .pure _
  | some name =>
    refine .bind (.ofExcept _) fun found => .note _ ?_
    cases found with
    | map settings => exact .pure _
    | _ => exact .throw _

/-- Of well-typed configurations, a selection results in the settings with the profile on top. -/
theorem selected_eq_ok_iff {name : Option String} {result : Config}
    (hprofiles : HoldsTable "profiles" user) (hproject : IsTable project)
    (hprojectProfiles : HoldsTable "profiles" project) :
    selected (merge user project) name = .ok result ↔
      ∃ settings, Selects user project name settings ∧
        result = withProfile (merge user project) settings := by
  have hnested (name : String) : nested? "profiles" name (merge user project) =
      (nested? "profiles" name project <|> nested? "profiles" name user) :=
    nested?_merge (by decide) hprofiles hproject hprojectProfiles
  have hholds := holdsTable_merge hprofiles hproject hprojectProfiles
  constructor
  · intro h
    unfold selected at h
    cases hname : name.filter (!·.isEmpty) with
    | none =>
      rw [hname] at h
      cases h
      rcases name with _ | name
      · exact ⟨[], .none, rfl⟩
      · have hempty : name = "" := by simpa using hname
        subst hempty
        exact ⟨[], .empty, rfl⟩
    | some kept =>
      obtain ⟨rfl, hne⟩ := Option.filter_eq_some_iff.mp hname
      rw [hname] at h
      obtain ⟨found, hfound, h⟩ := exists_of_bind_eq_ok h
      rw [profile_eq hholds, hnested] at hfound
      split at h
      · next settings =>
        cases h
        refine ⟨settings, .named (by simpa using hne) ?_, rfl⟩
        split at hfound <;> cases hfound
        assumption
      · cases h
  · rintro ⟨settings, hselects, rfl⟩
    cases hselects with
    | none => rfl
    | empty => rfl
    | @named name _ hname hfound =>
      have hkept : (some name).filter (!·.isEmpty) = some name := by simp [hname]
      unfold selected
      rw [hkept]
      dsimp only
      rw [profile_eq hholds, hnested, hfound]
      rfl

end Config

end PromptTemplates
