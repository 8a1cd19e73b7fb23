import PromptTemplates.Proofs.Settings.DirectorySpellings

/-!
# Settings of wrong types

When options are made from configuration files, the types of two settings are checked. A value of a wrong
type in any other place meets an operation that does not have it, and the fault of this operation strays
out of the configuration. The places are the tables of a shared file, the profiles, the directory and the
base address.
-/

namespace PromptTemplates

open Value (IsTable IsTabular)

section

variable {ε α β : Type} {result : Except ε α} {next : α → Except ε β} {fault : ε}

/-- A fault comes from the first step or from the one that follows it. -/
theorem bind_eq_error_iff : (result >>= next) = .error fault ↔
    result = .error fault ∨ ∃ a, result = .ok a ∧ next a = .error fault := by
  cases result with
  | error other =>
    constructor
    · intro h
      cases h
      exact .inl rfl
    · rintro (h | ⟨a, h, -⟩)
      · cases h
        rfl
      · cases h
  | ok a =>
    constructor
    · intro h
      exact .inr ⟨a, rfl, h⟩
    · rintro (h | ⟨b, h, hnext⟩)
      · cases h
      · cases h
        exact hnext

end

namespace Value

/-- The value is no mapping. -/
def IsNoTable (v : Value) : Prop := ∀ entries, v ≠ .map entries

/-- The value is no text. -/
def IsNoText (v : Value) : Prop := ∀ s, v ≠ .str s

end Value

namespace Config

variable {files : FileTree} {p : Path} {config table : Config} {name : String} {kind : FaultKind}

/-! ## Files that can be parsed -/

/-- What a file holds, which is nothing if it is not there. -/
inductive Holds (files : FileTree) (p : Path) : Config → Prop
  | absent (missing : files.isFile p = false) : Holds files p []
  | parsed {text : String} {table : Config} (readable : files.readText p = .ok text)
    (described : Toml.read text.toList = .ok table) : Holds files p table

theorem Holds.isTabular (h : Holds files p table) : IsTabular (.map table) := by
  cases h with
  | absent => exact .empty
  | parsed _ hread => exact Toml.isTabular_read hread

/-- The settings of a file of this name. -/
def settingsOf (p : Path) (table : Config) : Except Fault Value :=
  descend (if p.name = sharedFile then sharedTables else []) (.map table)

theorem settingsOf_nil (p : Path) : settingsOf p [] = .ok (.map []) := by
  unfold settingsOf
  split
  · rfl
  · rfl

theorem gives_load_of_holds (h : Holds files p table) : (load files p).Gives (settingsOf p table) := by
  cases h with
  | absent hmissing =>
    rw [settingsOf_nil]
    exact load_of_isFile_eq_false hmissing
  | @parsed text table hreadable hread =>
    have hparse : (Action.ofExcept (parse p text)).Gives (.ok (.map table)) := by
      unfold parse
      rw [hread]
      exact .ofExcept _
    unfold load
    simp only [hreadable]
    exact .note _ (.bind_ok hparse (.ofExcept _))

/-- The settings of the first file that has any. A value that does not count as true is passed over. -/
def firstSettings : List (Path × Config) → Except Fault Value
  | [] => .ok (.map [])
  | (p, table) :: rest => settingsOf p table >>= fun v => if v.isTruthy then .ok v else firstSettings rest

theorem firstSettings_cons (p : Path) (table : Config) (rest : List (Path × Config)) :
    (firstSettings ((p, table) :: rest) >>= mergeValue config) = settingsOf p table >>= fun v =>
      if v.isTruthy then mergeValue config v else firstSettings rest >>= mergeValue config := by
  rw [firstSettings]
  cases settingsOf p table with
  | error fault => rfl
  | ok v =>
    change (if v.isTruthy then Except.ok v else firstSettings rest) >>= mergeValue config =
      if v.isTruthy then mergeValue config v else firstSettings rest >>= mergeValue config
    split
    · rfl
    · rfl

theorem gives_addProject_of_holds {held : List (Path × Config)}
    (h : ∀ entry ∈ held, Holds files entry.1 entry.2) :
    (addProject files config (held.map (·.1))).Gives (firstSettings held >>= mergeValue config) := by
  induction held with
  | nil => exact .pure _
  | cons entry rest ih =>
    obtain ⟨p, table⟩ := entry
    obtain ⟨hp, hrest⟩ := List.forall_mem_cons.mp h
    have hload := gives_load_of_holds hp
    rw [firstSettings_cons, List.map_cons, addProject]
    split
    · apply hload.bind
      intro v
      split
      · exact .note _ (.ofExcept _)
      · exact ih hrest
    · next hfile =>
      have habsent := load_of_isFile_eq_false (Bool.eq_false_iff.mpr hfile)
      rw [(hload []).symm.trans (habsent [])]
      exact ih hrest

/-! ## Tables that are none -/

theorem mergeValue_eq_error_iff {v : Value} {fault : Fault} :
    mergeValue config v = .error fault ↔ fault = .plain .missingAttribute ∧ v.IsNoTable := by
  constructor
  · intro h
    cases v with
    | map entries => cases h
    | _ =>
      cases h
      exact ⟨rfl, nofun⟩
  · rintro ⟨rfl, h⟩
    cases v with
    | map entries => exact absurd rfl (h entries)
    | _ => rfl

theorem member?_eq_error_iff {v : Value} {key : String} {fault : Fault} :
    member? key v = .error fault ↔ fault = .plain .missingAttribute ∧ v.IsNoTable := by
  constructor
  · intro h
    cases v with
    | map entries => cases h
    | _ =>
      cases h
      exact ⟨rfl, nofun⟩
  · rintro ⟨rfl, h⟩
    cases v with
    | map entries => exact absurd rfl (h entries)
    | _ => rfl

/-- A table that is not there is an empty one. -/
theorem member?_getD_eq_error_iff {key : String} {fault : Fault} :
    member? key ((Value.entry? name config).getD (.map [])) = .error fault ↔
      fault = .plain .missingAttribute ∧ ∃ v, Value.entry? name config = some v ∧ v.IsNoTable := by
  rw [member?_eq_error_iff]
  constructor
  · rintro ⟨hfault, hmisfit⟩
    cases hfound : Value.entry? name config with
    | none =>
      rw [hfound] at hmisfit
      exact absurd rfl (hmisfit [])
    | some v =>
      rw [hfound] at hmisfit
      exact ⟨hfault, v, rfl, hmisfit⟩
  · rintro ⟨hfault, v, hfound, hmisfit⟩
    rw [hfound]
    exact ⟨hfault, hmisfit⟩

theorem descend_sharedTables (table : Config) : descend sharedTables (.map table) =
    member? "promptkit" ((Value.entry? "tool" table).getD (.map [])) >>= fun v =>
      .ok (v.getD (.map [])) := rfl

theorem descend_eq_error_iff {fault : Fault} : descend sharedTables (.map table) = .error fault ↔
    fault = .plain .missingAttribute ∧ ∃ v, Value.entry? "tool" table = some v ∧ v.IsNoTable := by
  rw [descend_sharedTables, ← @member?_getD_eq_error_iff _ _ "promptkit"]
  constructor
  · intro h
    rcases bind_eq_error_iff.mp h with h | ⟨v, -, h⟩
    · exact h
    · cases h
  · intro h
    exact bind_eq_error_iff.mpr (.inl h)

theorem descend_eq_ok_iff {v : Value} (h : v.IsNoTable) :
    descend sharedTables (.map table) = .ok v ↔ nested? "tool" "promptkit" table = some v := by
  have hempty : Value.map [] ≠ v := Ne.symm (h [])
  rw [descend_sharedTables]
  unfold nested?
  cases Value.entry? "tool" table with
  | none =>
    constructor
    · intro heq
      exact absurd (Except.ok.inj heq) hempty
    · intro hnone
      cases hnone
  | some tool =>
    cases tool with
    | map tools =>
      change Except.ok ((Value.entry? "promptkit" tools).getD (.map [])) = Except.ok v ↔
        Value.entry? "promptkit" tools = some v
      cases Value.entry? "promptkit" tools with
      | none => simp [hempty]
      | some found => simp
    | _ => simp [member?, bind, Except.bind]

/-! ## The contents of the files -/

/-- The tables that the configuration files hold: that of the user and the three of a project. -/
structure Contents where
  user : Config
  hidden : Config
  visible : Config
  shared : Config

/-- The file of a project of this name. -/
def projectFile (folder : Path) (name : String) : Path := folder.join (Path.ofString name)

theorem name_projectFile (folder : Path) (h : name ∈ projectFiles) : (projectFile folder name).name = name := by
  have hnames : (Path.ofString name).isAbsolute = false ∧ (Path.ofString name).names = [name] := by
    simp only [projectFiles, List.mem_cons, List.not_mem_nil, or_false] at h
    rcases h with rfl | rfl | rfl
    · decide
    · decide
    · decide
  unfold projectFile Path.join Path.name
  rw [if_neg (by rw [hnames.1]; exact Bool.false_ne_true), hnames.2]
  dsimp only
  rw [List.getLast?_concat, Option.getD_some]

namespace Contents

variable {c : Contents} {userFile folder : Path} {home : String} {project : Config}

/-- The files hold these tables. -/
structure AreIn (c : Contents) (files : FileTree) (userFile folder : Path) : Prop where
  user : Holds files userFile c.user
  notShared : userFile.name ≠ sharedFile
  hidden : Holds files (projectFile folder ".promptkit.toml") c.hidden
  visible : Holds files (projectFile folder "promptkit.toml") c.visible
  shared : Holds files (projectFile folder sharedFile) c.shared

/-- The settings of the project. -/
def projectValue (c : Contents) : Except Fault Value :=
  if c.hidden ≠ [] then .ok (.map c.hidden)
  else if c.visible ≠ [] then .ok (.map c.visible)
  else descend sharedTables (.map c.shared) >>= fun v => if v.isTruthy then .ok v else .ok (.map [])

/-- The settings of the project on top of those of the user. -/
def layers (c : Contents) : Except Fault Config := c.projectValue >>= mergeValue c.user

theorem firstSettings_eq (hidden visible shared : Path) (hhidden : hidden.name ≠ sharedFile)
    (hvisible : visible.name ≠ sharedFile) (hshared : shared.name = sharedFile) :
    firstSettings [(hidden, c.hidden), (visible, c.visible), (shared, c.shared)] = c.projectValue := by
  have hplain {p : Path} (hp : p.name ≠ sharedFile) (table : Config) :
      settingsOf p table = .ok (.map table) := by
    unfold settingsOf
    rw [if_neg hp]
    rfl
  have hlast : settingsOf shared c.shared = descend sharedTables (.map c.shared) := by
    unfold settingsOf
    rw [if_pos hshared]
  have htruthy (table : Config) : (Value.map table).isTruthy = true ↔ table ≠ [] := by
    simp [Value.isTruthy]
  rw [firstSettings, firstSettings, firstSettings, firstSettings, hplain hhidden, hplain hvisible, hlast]
  unfold projectValue
  simp only [bind, Except.bind, htruthy]

theorem gives_loadAll_of_areIn (h : c.AreIn files userFile folder) :
    (loadAll files userFile folder).Gives c.layers := by
  have huser : (addUser files userFile []).Gives (.ok c.user) := by
    have hload : (load files userFile).Gives (.ok (.map c.user)) := by
      have hload := gives_load_of_holds h.user
      unfold settingsOf at hload
      rwa [if_neg h.notShared] at hload
    have hadded : (addUser files userFile []).Gives (.ok (merge [] c.user)) := gives_addUser hload
    rwa [merge_nil h.user.isTabular.isTable] at hadded
  have hheld : ∀ entry ∈ [(projectFile folder ".promptkit.toml", c.hidden),
      (projectFile folder "promptkit.toml", c.visible), (projectFile folder sharedFile, c.shared)],
      Holds files entry.1 entry.2 := by
    simp only [List.forall_mem_cons, List.not_mem_nil, false_implies, implies_true, and_true]
    exact ⟨h.hidden, h.visible, h.shared⟩
  have hproject : Action.Gives _ (firstSettings _ >>= mergeValue c.user) :=
    gives_addProject_of_holds hheld
  rw [firstSettings_eq] at hproject
  · have hnoted (config : Config) : Action.Gives (do
        if config.isEmpty then note .noConfigLoaded
        return config) (.ok config) := by
      split
      · exact .note _ (.pure _)
      · exact .pure _
    have hsame : (c.projectValue >>= mergeValue c.user >>= Except.ok) = c.layers := by
      unfold layers
      cases c.projectValue >>= mergeValue c.user with
      | error fault => rfl
      | ok config => rfl
    rw [← hsame]
    unfold loadAll
    apply huser.bind_ok
    exact hproject.bind hnoted
  · rw [name_projectFile folder (by decide)]
    decide
  · rw [name_projectFile folder (by decide)]
    decide
  · rw [name_projectFile folder (by decide)]

/-- The shared file has to be asked and has something else than a table where its settings should be. A
value that does not count as true is passed over like an empty table. -/
inductive MisfitShared (c : Contents) : Prop
  | tool {v : Value} (hidden_empty : c.hidden = []) (visible_empty : c.visible = [])
    (found : Value.entry? "tool" c.shared = some v) (misfit : v.IsNoTable) : MisfitShared c
  | settings {v : Value} (hidden_empty : c.hidden = []) (visible_empty : c.visible = [])
    (found : nested? "tool" "promptkit" c.shared = some v) (truthy : v.isTruthy = true)
    (misfit : v.IsNoTable) : MisfitShared c

theorem layers_eq_error_iff {fault : Fault} :
    c.layers = .error fault ↔ fault = .plain .missingAttribute ∧ c.MisfitShared := by
  by_cases hhidden : c.hidden = []
  · by_cases hvisible : c.visible = []
    · have hlayers : c.layers = (descend sharedTables (.map c.shared) >>= fun v =>
          if v.isTruthy then .ok v else .ok (.map [])) >>= mergeValue c.user := by
        unfold layers projectValue
        rw [if_neg (not_not_intro hhidden), if_neg (not_not_intro hvisible)]
      rw [hlayers]
      constructor
      · intro h
        rcases bind_eq_error_iff.mp h with h | ⟨settings, hsettings, h⟩
        · rcases bind_eq_error_iff.mp h with h | ⟨v, -, h⟩
          · obtain ⟨hfault, v, hv, hmisfit⟩ := descend_eq_error_iff.mp h
            exact ⟨hfault, .tool hhidden hvisible hv hmisfit⟩
          · split at h
            · cases h
            · cases h
        · obtain ⟨hfault, hmisfit⟩ := mergeValue_eq_error_iff.mp h
          obtain ⟨v, hv, hkept⟩ := exists_of_bind_eq_ok hsettings
          split at hkept
          · next htruthy =>
            cases hkept
            exact ⟨hfault, .settings hhidden hvisible ((descend_eq_ok_iff hmisfit).mp hv) htruthy hmisfit⟩
          · cases hkept
            exact absurd rfl (hmisfit [])
      · rintro ⟨rfl, hshared⟩
        cases hshared with
        | tool _ _ hv hmisfit =>
          rw [descend_eq_error_iff.mpr ⟨rfl, _, hv, hmisfit⟩]
          rfl
        | @settings v _ _ hv htruthy hmisfit =>
          rw [(descend_eq_ok_iff hmisfit).mpr hv]
          change (if v.isTruthy then Except.ok v else Except.ok (.map [])) >>= mergeValue c.user = _
          rw [if_pos htruthy]
          exact mergeValue_eq_error_iff.mpr ⟨rfl, hmisfit⟩
    · have hlayers : c.layers = .ok (merge c.user c.visible) := by
        unfold layers projectValue
        rw [if_neg (not_not_intro hhidden), if_pos hvisible]
        rfl
      rw [hlayers]
      constructor
      · intro h
        cases h
      · rintro ⟨-, ⟨_, hempty, _, _⟩ | ⟨_, hempty, _, _, _⟩⟩
        · exact absurd hempty hvisible
        · exact absurd hempty hvisible
  · have hlayers : c.layers = .ok (merge c.user c.hidden) := by
      unfold layers projectValue
      rw [if_pos hhidden]
      rfl
    rw [hlayers]
    constructor
    · intro h
      cases h
    · rintro ⟨-, ⟨hempty, _, _, _⟩ | ⟨hempty, _, _, _, _⟩⟩
      · exact absurd hempty hhidden
      · exact absurd hempty hhidden

end Contents

/-! ## Profiles -/

/-- The profiles are no table, or the chosen profile is none. -/
inductive MisfitProfile (config : Config) : Option String → Prop
  | table {chosen : String} {v : Value} (nonempty : chosen ≠ "")
    (found : Value.entry? "profiles" config = some v) (misfit : v.IsNoTable) :
    MisfitProfile config (some chosen)
  | layer {chosen : String} {v : Value} (nonempty : chosen ≠ "")
    (found : nested? "profiles" chosen config = some v) (given : v ≠ .null) (misfit : v.IsNoTable) :
    MisfitProfile config (some chosen)

/-- A profile that is looked up in a table has to be there and not null. -/
def foundProfile (chosen : String) : Option Value → Except Fault Value
  | none => .error (.config (.noProfile chosen))
  | some .null => .error (.config (.noProfile chosen))
  | some v => .ok v

theorem foundProfile_eq_ok_iff {chosen : String} {found : Option Value} {v : Value} :
    foundProfile chosen found = .ok v ↔ found = some v ∧ v ≠ .null := by
  unfold foundProfile
  constructor
  · intro h
    split at h
    · cases h
    · cases h
    · next w hne =>
      cases h
      exact ⟨rfl, hne⟩
  · rintro ⟨rfl, hne⟩
    split
    · next heq => cases heq
    · next heq =>
      cases heq
      exact absurd rfl hne
    · next heq =>
      cases heq
      rfl

theorem foundProfile_ne_plain {chosen : String} {found : Option Value} :
    foundProfile chosen found ≠ .error (.plain kind) := by
  unfold foundProfile
  split <;> simp

theorem profile_eq_bind (config : Config) (chosen : String) : profile config chosen =
    member? chosen ((Value.entry? "profiles" config).getD (.map [])) >>= foundProfile chosen := by
  unfold profile profilesKey
  dsimp only
  congr 1

theorem profile_eq_plain_iff {chosen : String} : profile config chosen = .error (.plain kind) ↔
    kind = .missingAttribute ∧ ∃ v, Value.entry? "profiles" config = some v ∧ v.IsNoTable := by
  rw [profile_eq_bind]
  constructor
  · intro h
    rcases bind_eq_error_iff.mp h with h | ⟨found, -, h⟩
    · obtain ⟨hfault, hmisfit⟩ := member?_getD_eq_error_iff.mp h
      exact ⟨Fault.plain.inj hfault, hmisfit⟩
    · exact absurd h foundProfile_ne_plain
  · rintro ⟨rfl, hmisfit⟩
    exact bind_eq_error_iff.mpr (.inl (member?_getD_eq_error_iff.mpr ⟨rfl, hmisfit⟩))

theorem profile_eq_ok_iff {chosen : String} {v : Value} : profile config chosen = .ok v ↔
    nested? "profiles" chosen config = some v ∧ v ≠ .null := by
  rw [profile_eq_bind, ← @foundProfile_eq_ok_iff chosen]
  unfold nested?
  cases Value.entry? "profiles" config with
  | none => rfl
  | some profiles =>
    cases profiles with
    | map entries => rfl
    | _ => simp [member?, foundProfile, bind, Except.bind]

theorem selected_eq_plain_iff {name : Option String} : selected config name = .error (.plain kind) ↔
    kind = .missingAttribute ∧ MisfitProfile config name := by
  unfold selected
  rcases name with _ | chosen
  · simp only [Option.filter_none]
    constructor
    · intro h
      cases h
    · rintro ⟨-, h⟩
      cases h
  by_cases hchosen : chosen = ""
  · subst hchosen
    constructor
    · intro h
      cases h
    · rintro ⟨-, ⟨hne, _, _⟩ | ⟨hne, _, _, _⟩⟩
      · exact absurd rfl hne
      · exact absurd rfl hne
  · have hkept : (some chosen).filter (!·.isEmpty) = some chosen := by simp [hchosen]
    rw [hkept]
    dsimp only
    constructor
    · intro h
      rcases bind_eq_error_iff.mp h with h | ⟨v, hv, h⟩
      · obtain ⟨hkind, v, hprofiles, hmisfit⟩ := profile_eq_plain_iff.mp h
        exact ⟨hkind, .table hchosen hprofiles hmisfit⟩
      · obtain ⟨hfound, hgiven⟩ := profile_eq_ok_iff.mp hv
        split at h
        · cases h
        · next hmisfit =>
          cases h
          exact ⟨rfl, .layer hchosen hfound hgiven hmisfit⟩
    · rintro ⟨rfl, hprofile⟩
      cases hprofile with
      | table _ hprofiles hmisfit =>
        rw [profile_eq_plain_iff.mpr ⟨rfl, _, hprofiles, hmisfit⟩]
        rfl
      | @layer _ v _ hfound hgiven hmisfit =>
        rw [profile_eq_ok_iff.mpr ⟨hfound, hgiven⟩]
        cases v with
        | map entries => exact absurd rfl (hmisfit entries)
        | _ => rfl

/-! ## Tables of what is loaded -/

/-- What each entry of a table keeps, the table keeps as a whole. -/
theorem isTabular_foldl {step : Config → Value × Value → Config} {lower upper : Config}
    (hstep : ∀ table name v, IsTabular (.map table) → IsTabular v → IsTabular (.map (step table (.str name, v))))
    (hlower : IsTabular (.map lower)) (hupper : IsTabular (.map upper)) :
    IsTabular (.map (upper.foldl step lower)) := by
  have htable := hupper.isTable
  have hvalues : ∀ k v, (k, v) ∈ upper → IsTabular v := fun k v hmem => hupper.of_mem hmem
  clear hupper
  induction htable generalizing lower with
  | nil => exact hlower
  | @cons name v rest hname hrest ih =>
    apply ih
    · apply hstep
      · exact hlower
      · exact hvalues _ v List.mem_cons_self
    · intro k w hmem
      exact hvalues k w (List.mem_cons_of_mem _ hmem)

theorem isTabular_putAll {lower upper : Config} (hlower : IsTabular (.map lower))
    (hupper : IsTabular (.map upper)) : IsTabular (.map (Entries.putAll lower upper)) := by
  apply isTabular_foldl _ hlower hupper
  intro table name v htable hv
  exact htable.put hv

theorem isTabular_stacked {key : String} {below : Option Value} {above : Value}
    (hbelow : ∀ v ∈ below, IsTabular v) (habove : IsTabular above) : IsTabular (stacked key below above) := by
  unfold stacked
  split
  · next lower upper hlower =>
    split at hlower
    · exact isTabular_putAll (hbelow _ hlower) habove
    · cases hlower
  · exact habove

theorem isTabular_merge {lower upper : Config} (hlower : IsTabular (.map lower))
    (hupper : IsTabular (.map upper)) : IsTabular (.map (merge lower upper)) := by
  apply isTabular_foldl _ hlower hupper
  intro table name v htable hv
  dsimp only
  rw [overlay_str]
  apply htable.put
  apply isTabular_stacked
  · intro below hbelow
    exact htable.of_found hbelow
  · exact hv

theorem isTabular_nested {key : String} {v : Value} (hconfig : IsTabular (.map config))
    (h : nested? key name config = some v) : IsTabular v := by
  unfold nested? at h
  split at h
  · next entries hentries => exact (hconfig.of_found hentries).of_found h
  · cases h

theorem isTable_selected {name : Option String} {settings : Config} (hconfig : IsTabular (.map config))
    (h : selected config name = .ok settings) : IsTable settings := by
  unfold selected at h
  split at h
  · cases h
    exact hconfig.isTable.erase
  · obtain ⟨v, hv, h⟩ := exists_of_bind_eq_ok h
    split at h
    · next profile =>
      cases h
      have hprofile := isTabular_nested hconfig (profile_eq_ok_iff.mp hv).1
      exact isTable_merge hconfig.isTable.erase hprofile.isTable.erase
    · cases h

end Config

namespace RenderOptions

open Config

variable {home : String} {o : RenderOptions} {config : Config} {v : Value} {kind : FaultKind} {fault : Fault}

/-! ## Settings -/

theorem settled_cons_of_none {key : Value} {rest : Config} (h : Setting.ofKey? key = none) :
    settled home o ((key, v) :: rest) = settled home o rest := by
  rw [settled, h]

theorem settled_cons_of_some {key : Value} {rest : Config} {setting : Setting}
    (h : Setting.ofKey? key = some setting) : settled home o ((key, v) :: rest) =
      o.set home setting v >>= fun o => settled home o rest := by
  rw [settled, h]

theorem settled_append {front rest : Config} :
    settled home o (front ++ rest) = settled home o front >>= fun o => settled home o rest := by
  induction front generalizing o with
  | nil => rfl
  | cons entry front ih =>
    obtain ⟨key, v⟩ := entry
    rw [List.cons_append]
    cases hkey : Setting.ofKey? key with
    | none => rw [settled_cons_of_none hkey, settled_cons_of_none hkey, ih]
    | some setting =>
      rw [settled_cons_of_some hkey, settled_cons_of_some hkey]
      cases o.set home setting v with
      | error fault => rfl
      | ok next => exact ih

/-- A setting that is refused is the first one that is; all before it are accepted. -/
theorem settled_eq_error_iff : settled home o config = .error fault ↔
    ∃ front key v rest setting accepted, config = front ++ (key, v) :: rest ∧
      settled home o front = .ok accepted ∧ Setting.ofKey? key = some setting ∧
        accepted.set home setting v = .error fault := by
  constructor
  · intro h
    induction config generalizing o with
    | nil => cases h
    | cons entry rest ih =>
      obtain ⟨key, v⟩ := entry
      cases hkey : Setting.ofKey? key with
      | none =>
        rw [settled_cons_of_none hkey] at h
        obtain ⟨front, key', v', rest', setting, accepted, rfl, haccepted, hsetting, hset⟩ := ih h
        refine ⟨(key, v) :: front, key', v', rest', setting, accepted, rfl, ?_, hsetting, hset⟩
        rw [settled_cons_of_none hkey, haccepted]
      | some setting =>
        rw [settled_cons_of_some hkey] at h
        rcases bind_eq_error_iff.mp h with h | ⟨next, hnext, h⟩
        · exact ⟨[], key, v, rest, setting, o, rfl, rfl, hkey, h⟩
        · obtain ⟨front, key', v', rest', setting', accepted, rfl, haccepted, hsetting, hset⟩ := ih h
          refine ⟨(key, v) :: front, key', v', rest', setting', accepted, rfl, ?_, hsetting, hset⟩
          rw [settled_cons_of_some hkey, hnext]
          exact haccepted
  · rintro ⟨front, key, v, rest, setting, accepted, rfl, haccepted, hsetting, hset⟩
    rw [settled_append, haccepted]
    change settled home accepted ((key, v) :: rest) = _
    rw [settled_cons_of_some hsetting, hset]
    rfl

theorem directoryOf_eq_plain_iff : directoryOf home v = .error (.plain kind) ↔
    (kind = .badType ∧ v ≠ .null ∧ v.IsNoText) ∨
      (kind = .other "RuntimeError" ∧ ∃ s, v = .str s ∧ (Path.ofString s).expandHome? home = none) := by
  cases v with
  | null =>
    constructor
    · intro h
      cases h
    · rintro (⟨-, hgiven, -⟩ | ⟨-, s, h, -⟩)
      · exact absurd rfl hgiven
      · cases h
  | str s =>
    cases hexpanded : (Path.ofString s).expandHome? home with
    | none =>
      have hunknown : directoryOf home (.str s) = .error (.plain (.other "RuntimeError")) := by
        unfold directoryOf pathOfValue
        dsimp only [bind, Except.bind]
        rw [hexpanded]
        rfl
      rw [hunknown]
      constructor
      · intro h
        cases h
        exact .inr ⟨rfl, s, rfl, hexpanded⟩
      · rintro (⟨-, -, hmisfit⟩ | ⟨rfl, -⟩)
        · exact absurd rfl (hmisfit s)
        · rfl
    | some p =>
      have hknown : directoryOf home (.str s) = .ok (some p) := by
        unfold directoryOf pathOfValue
        dsimp only [bind, Except.bind]
        rw [hexpanded]
        rfl
      rw [hknown]
      constructor
      · intro h
        cases h
      · rintro (⟨-, -, hmisfit⟩ | ⟨-, s, ⟨⟩, hnone⟩)
        · exact absurd rfl (hmisfit s)
        · rw [hexpanded] at hnone
          cases hnone
  | _ =>
    constructor
    · intro h
      cases h
      exact .inl ⟨rfl, nofun, nofun⟩
    · rintro (⟨rfl, -, -⟩ | ⟨-, s, h, -⟩)
      · rfl
      · cases h

/-- The types of the other settings are checked or do not matter yet. -/
theorem set_eq_plain_iff {setting : Setting} : o.set home setting v = .error (.plain kind) ↔
    setting = .directory ∧ directoryOf home v = .error (.plain kind) := by
  cases setting with
  | directory =>
    constructor
    · intro h
      rcases bind_eq_error_iff.mp h with h | ⟨directory, -, h⟩
      · exact ⟨rfl, h⟩
      · cases h
    · rintro ⟨-, h⟩
      exact bind_eq_error_iff.mpr (.inl h)
  | baseUrl => simp [set]
  | timezone => simp [set]
  | unescape => cases v <;> simp [set]
  | params => cases v <;> simp [set]

theorem cleanBase_eq_error_iff : cleanBase v = .error fault ↔
    fault = .plain .missingAttribute ∧ v.isTruthy = true ∧ v.IsNoText := by
  constructor
  · intro h
    unfold cleanBase at h
    split at h
    · cases h
    · next hmisfit =>
      split at h
      · next htruthy =>
        cases h
        exact ⟨rfl, htruthy, hmisfit⟩
      · cases h
  · rintro ⟨rfl, htruthy, hmisfit⟩
    unfold cleanBase
    split
    · next s => exact absurd rfl (hmisfit s)
    · rw [if_pos htruthy]

/-- A directory of a wrong type, or in the home of an unknown user, comes before every setting that is
refused; or all settings are accepted, and the base address is something that has no slashes. -/
inductive MisfitSetting (home : String) (config : Config) : FaultKind → Prop
  | directory {front rest : Config} {key v : Value} {accepted : RenderOptions}
    (config_eq : config = front ++ (key, v) :: rest) (before : settled home {} front = .ok accepted)
    (spelled : spellsDirectory key = true) (given : v ≠ .null) (misfit : v.IsNoText) :
    MisfitSetting home config .badType
  | home {front rest : Config} {key : Value} {s : String} {accepted : RenderOptions}
    (config_eq : config = front ++ (key, .str s) :: rest) (before : settled home {} front = .ok accepted)
    (spelled : spellsDirectory key = true) (unknown : (Path.ofString s).expandHome? home = none) :
    MisfitSetting home config (.other "RuntimeError")
  | baseUrl {v : Value} {accepted : RenderOptions} (all : settled home {} config = .ok accepted)
    (found : Value.entry? "base_url" config = some v) (truthy : v.isTruthy = true) (misfit : v.IsNoText) :
    MisfitSetting home config .missingAttribute

theorem spellsDirectory_iff {key : Value} :
    spellsDirectory key = true ↔ Setting.ofKey? key = some .directory := by
  unfold spellsDirectory
  exact beq_iff_eq

theorem baseUrl_settled {accepted : RenderOptions} (hconfig : IsTable config)
    (h : settled home {} config = .ok accepted) :
    accepted.baseUrl = (Value.entry? "base_url" config).getD .null :=
  setting_settled .baseUrl rfl hconfig h

theorem described_eq_plain_iff (hconfig : IsTable config) :
    CommandLine.described home config = .error (.plain kind) ↔ MisfitSetting home config kind := by
  unfold CommandLine.described
  constructor
  · intro h
    rcases bind_eq_error_iff.mp h with h | ⟨accepted, hall, h⟩
    · obtain ⟨front, key, v, rest, setting, accepted, hfront, hbefore, hsetting, hset⟩ :=
        settled_eq_error_iff.mp h
      obtain ⟨rfl, hdirectory⟩ := set_eq_plain_iff.mp hset
      have hspelled := spellsDirectory_iff.mpr hsetting
      rcases directoryOf_eq_plain_iff.mp hdirectory with ⟨rfl, hgiven, hmisfit⟩ | ⟨rfl, s, rfl, hunknown⟩
      · exact .directory hfront hbefore hspelled hgiven hmisfit
      · exact .home hfront hbefore hspelled hunknown
    · rcases bind_eq_error_iff.mp h with h | ⟨base, -, h⟩
      · obtain ⟨hkind, htruthy, hmisfit⟩ := cleanBase_eq_error_iff.mp h
        cases hkind
        rw [baseUrl_settled hconfig hall] at htruthy hmisfit
        cases hfound : Value.entry? "base_url" config with
        | none =>
          rw [hfound] at htruthy
          cases htruthy
        | some v =>
          rw [hfound] at htruthy hmisfit
          exact .baseUrl hall hfound htruthy hmisfit
      · cases h
  · intro h
    apply bind_eq_error_iff.mpr
    cases h with
    | directory hfront hbefore hspelled hgiven hmisfit =>
      left
      apply settled_eq_error_iff.mpr
      refine ⟨_, _, _, _, _, _, hfront, hbefore, spellsDirectory_iff.mp hspelled, ?_⟩
      exact set_eq_plain_iff.mpr ⟨rfl, directoryOf_eq_plain_iff.mpr (.inl ⟨rfl, hgiven, hmisfit⟩)⟩
    | home hfront hbefore hspelled hunknown =>
      left
      apply settled_eq_error_iff.mpr
      refine ⟨_, _, _, _, _, _, hfront, hbefore, spellsDirectory_iff.mp hspelled, ?_⟩
      exact set_eq_plain_iff.mpr ⟨rfl, directoryOf_eq_plain_iff.mpr (.inr ⟨rfl, _, rfl, hunknown⟩)⟩
    | @baseUrl v accepted hall hfound htruthy hmisfit =>
      right
      refine ⟨accepted, hall, bind_eq_error_iff.mpr (.inl ?_)⟩
      rw [baseUrl_settled hconfig hall, hfound]
      exact cleanBase_eq_error_iff.mpr ⟨rfl, htruthy, hmisfit⟩

end RenderOptions

namespace CommandLine

open Config RenderOptions

variable {files : FileTree} {userFile folder : Path} {c : Contents} {fault : Fault}

/-! ## Faults that stray out of the configuration -/

/-- A value of a wrong type lets a fault of this kind stray out of the configuration. -/
inductive Strays (c : Contents) (home : String) (name : Option String) : FaultKind → Prop
  | shared (misfit : c.MisfitShared) : Strays c home name .missingAttribute
  | profile {config : Config} (layers_eq : c.layers = .ok config) (misfit : MisfitProfile config name) :
    Strays c home name .missingAttribute
  | setting {config settings : Config} {kind : FaultKind} (layers_eq : c.layers = .ok config)
    (selected_eq : selected config name = .ok settings) (misfit : MisfitSetting home settings kind) :
    Strays c home name kind

/-- What the options come to. -/
def configured (c : Contents) (home : String) (name : Option String) : Except Fault RenderOptions :=
  c.layers >>= fun config => selected config name >>= described home

theorem gives_configured (h : c.AreIn files userFile folder) (home : String) (name : Option String) :
    (configuredOptions files userFile folder home name).Gives (configured c home name) := by
  have hloaded := Contents.gives_loadAll_of_areIn h
  unfold configuredOptions configured
  apply hloaded.bind
  intro config
  apply (gives_select config name).bind
  intro settings
  apply (gives_setAll home {} settings).bind
  intro options
  exact (Action.Gives.ofExcept _).bind fun base => .pure _

theorem isTabular_layers (h : c.AreIn files userFile folder) {config : Config}
    (hlayers : c.layers = .ok config) : IsTabular (.map config) := by
  obtain ⟨v, hv, hmerged⟩ := exists_of_bind_eq_ok hlayers
  have hproject : IsTabular v := by
    unfold Contents.projectValue at hv
    split at hv
    · cases hv
      exact h.hidden.isTabular
    split at hv
    · cases hv
      exact h.visible.isTabular
    obtain ⟨found, hfound, hkept⟩ := exists_of_bind_eq_ok hv
    split at hkept
    · cases hkept
      exact isTabular_descend h.shared.isTabular hfound
    · cases hkept
      exact .empty
  cases v with
  | map project =>
    cases hmerged
    exact isTabular_merge h.user.isTabular hproject
  | _ => cases hmerged

/-- Every fault is one of the configuration or strays. -/
def FailsPlainly {α : Type} (result : Except Fault α) : Prop :=
  ∀ fault, result = .error fault → (∃ cause, fault = .config cause) ∨ ∃ kind, fault = .plain kind

theorem FailsPlainly.bind {α β : Type} {result : Except Fault α} {next : α → Except Fault β}
    (hresult : FailsPlainly result) (hnext : ∀ a, FailsPlainly (next a)) :
    FailsPlainly (result >>= next) := by
  intro fault h
  rcases bind_eq_error_iff.mp h with h | ⟨a, -, h⟩
  · exact hresult fault h
  · exact hnext a fault h

theorem FailsPlainly.ok {α : Type} (a : α) : FailsPlainly (.ok a : Except Fault α) := nofun

theorem failsPlainly_selected (config : Config) (name : Option String) :
    FailsPlainly (selected config name) := by
  unfold selected
  split
  · exact .ok _
  · next chosen _ =>
    rw [profile_eq_bind]
    apply FailsPlainly.bind
    · apply FailsPlainly.bind
      · intro fault h
        exact .inr ⟨_, (member?_eq_error_iff.mp h).1⟩
      · intro found fault h
        unfold foundProfile at h
        split at h
        · cases h
          exact .inl ⟨_, rfl⟩
        · cases h
          exact .inl ⟨_, rfl⟩
        · cases h
    · intro v fault h
      split at h
      · cases h
      · cases h
        exact .inr ⟨_, rfl⟩

theorem failsPlainly_directoryOf (home : String) (v : Value) : FailsPlainly (directoryOf home v) := by
  intro fault h
  cases v with
  | null => cases h
  | str s =>
    right
    unfold directoryOf pathOfValue at h
    dsimp only [bind, Except.bind] at h
    split at h
    · cases h
    · cases h
      exact ⟨_, rfl⟩
  | _ =>
    cases h
    exact .inr ⟨_, rfl⟩

theorem failsPlainly_set (home : String) (o : RenderOptions) (setting : Setting) (v : Value) :
    FailsPlainly (o.set home setting v) := by
  cases setting with
  | directory =>
    apply FailsPlainly.bind
    · exact failsPlainly_directoryOf home v
    · intro directory
      exact .ok _
  | baseUrl => exact .ok _
  | timezone => exact .ok _
  | unescape =>
    cases v with
    | bool b => exact .ok _
    | _ =>
      rintro fault ⟨⟩
      exact .inl ⟨_, rfl⟩
  | params =>
    cases v with
    | map entries => exact .ok _
    | _ =>
      rintro fault ⟨⟩
      exact .inl ⟨_, rfl⟩

theorem failsPlainly_described (home : String) (config : Config) : FailsPlainly (described home config) := by
  unfold described
  apply FailsPlainly.bind
  · intro fault h
    obtain ⟨_, _, _, _, setting, accepted, _, _, _, hset⟩ := settled_eq_error_iff.mp h
    exact failsPlainly_set home accepted setting _ fault hset
  · intro options
    apply FailsPlainly.bind
    · intro fault h
      exact .inr ⟨_, (cleanBase_eq_error_iff.mp h).1⟩
    · intro base
      exact .ok _

theorem failsPlainly_configured (c : Contents) (home : String) (name : Option String) :
    FailsPlainly (configured c home name) := by
  apply FailsPlainly.bind
  · intro fault h
    exact .inr ⟨_, (Contents.layers_eq_error_iff.mp h).1⟩
  · intro config
    exact (failsPlainly_selected config name).bind (failsPlainly_described home)

theorem configured_eq_plain_iff (h : c.AreIn files userFile folder) (home : String) (name : Option String)
    (kind : FaultKind) : configured c home name = .error (.plain kind) ↔ Strays c home name kind := by
  constructor
  · intro hstray
    rcases bind_eq_error_iff.mp hstray with hstray | ⟨config, hlayers, hstray⟩
    · obtain ⟨hkind, hmisfit⟩ := Contents.layers_eq_error_iff.mp hstray
      cases hkind
      exact .shared hmisfit
    · rcases bind_eq_error_iff.mp hstray with hstray | ⟨settings, hselected, hstray⟩
      · obtain ⟨rfl, hmisfit⟩ := selected_eq_plain_iff.mp hstray
        exact .profile hlayers hmisfit
      · have hsettings := isTable_selected (isTabular_layers h hlayers) hselected
        exact .setting hlayers hselected ((described_eq_plain_iff hsettings).mp hstray)
  · intro hstray
    apply bind_eq_error_iff.mpr
    cases hstray with
    | shared hmisfit => exact .inl (Contents.layers_eq_error_iff.mpr ⟨rfl, hmisfit⟩)
    | profile hlayers hmisfit =>
      refine .inr ⟨_, hlayers, bind_eq_error_iff.mpr (.inl ?_)⟩
      exact selected_eq_plain_iff.mpr ⟨rfl, hmisfit⟩
    | setting hlayers hselected hmisfit =>
      refine .inr ⟨_, hlayers, bind_eq_error_iff.mpr (.inr ⟨_, hselected, ?_⟩)⟩
      have hsettings := isTable_selected (isTabular_layers h hlayers) hselected
      exact (described_eq_plain_iff hsettings).mpr hmisfit

/-- For all configuration files that can be parsed, and every profile, there are options or a fault of the
configuration, unless a value of a wrong type lets another fault stray. That is so exactly if a shared file
holds its settings in something that is no table, the profiles or the chosen one are no table, a directory
that is no text, or in the home of an unknown user, comes before every other setting that is refused, or
the base address is no text and does count as true. -/
theorem configuredOptions_strays_iff (h : c.AreIn files userFile folder) (home : String)
    (name : Option String) :
    ∃ result, (configuredOptions files userFile folder home name).Gives result ∧
      (∀ kind, result = .error (.plain kind) ↔ Strays c home name kind) ∧
      ∀ fault, result = .error fault →
        (∃ cause, fault = .config cause) ∨ ∃ kind, fault = .plain kind := by
  refine ⟨configured c home name, gives_configured h home name, ?_, ?_⟩
  · intro kind
    exact configured_eq_plain_iff h home name kind
  · exact failsPlainly_configured c home name

/-! ## A base address and a profile that are numbers -/

def misfitText : String := "base_url = 5\n[profiles]\np = 5\n"

def misfitTable : Config := [(.str "base_url", .int 5), (.str "profiles", .map [(.str "p", .int 5)])]

def isMisfitTable : Except Toml.Problem Config → Bool
  | .ok [(.str "base_url", .int 5), (.str "profiles", .map [(.str "p", .int 5)])] => true
  | _ => false

theorem eq_of_isMisfitTable {result : Except Toml.Problem Config} (h : isMisfitTable result = true) :
    result = .ok misfitTable := by
  unfold isMisfitTable at h
  split at h
  · rfl
  · cases h

def misfitFiles : FileTree :=
  ({ workingDirectory := Path.ofString "/w" } : FileTree).put (Path.ofString "/w/promptkit.toml")
    (.file (Text.Utf8.encode misfitText))

def misfitContents : Contents where
  user := []
  hidden := []
  visible := misfitTable
  shared := []

theorem areIn_misfitContents :
    misfitContents.AreIn misfitFiles (Path.ofString "/u/config.toml") (Path.ofString "/w") where
  user := .absent (by decide +kernel)
  notShared := by decide +kernel
  hidden := .absent (by decide +kernel)
  visible := by
    have htext : misfitFiles.readText (projectFile (Path.ofString "/w") "promptkit.toml") =
        .ok misfitText := by
      decide +kernel
    exact .parsed htext (eq_of_isMisfitTable (by decide +kernel))
  shared := .absent (by decide +kernel)

/-- A profile that is no table is none of the faults of the configuration. -/
theorem strays_misfitProfile : (configuredOptions misfitFiles (Path.ofString "/u/config.toml")
    (Path.ofString "/w") "/u" (some "p")).Gives (.error (.plain .missingAttribute)) := by
  obtain ⟨result, hgives, hstrays, -⟩ := configuredOptions_strays_iff areIn_misfitContents "/u" (some "p")
  have hprofile : MisfitProfile misfitTable (some "p") :=
    .layer (v := .int 5) (by decide) (by simp [nested?, misfitTable]) nofun nofun
  have hstray : Strays misfitContents "/u" (some "p") .missingAttribute := .profile rfl hprofile
  rwa [(hstrays _).mpr hstray] at hgives

/-- A base address that is a number has no slashes to be taken off, and nothing has checked it before. -/
theorem strays_misfitBase : (configuredOptions misfitFiles (Path.ofString "/u/config.toml")
    (Path.ofString "/w") "/u" none).Gives (.error (.plain .missingAttribute)) := by
  have hbase : MisfitSetting "/u" [(.str "base_url", .int 5)] .missingAttribute :=
    .baseUrl (v := .int 5) rfl (by simp) rfl nofun
  have hstray : Strays misfitContents "/u" none .missingAttribute := .setting rfl rfl hbase
  rw [← (configured_eq_plain_iff areIn_misfitContents "/u" none .missingAttribute).mpr hstray]
  exact gives_configured areIn_misfitContents "/u" none

end CommandLine

end PromptTemplates
