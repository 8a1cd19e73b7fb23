import PromptTemplates.Proofs.Settings.Layering

/-!
# The two spellings of the directory

The directory of the templates is set under one of two keys. Layers are put on top of one another key by
key, and a key that is set again keeps its place, while the last of the two keys in the configuration is
the one that counts. So the highest layer does not win when it sets the key that the lowest layer set
before it and the layer between them set the other one.
-/

namespace PromptTemplates

open Value (IsTable)

namespace Config

variable {config lower upper user project profile : Config} {key name : String} {v : Value}

/-! ## Settings of the directory -/

/-- Whether a key is one of the spellings. -/
def spellsDirectory (key : Value) : Bool := Setting.ofKey? key == some .directory

/-- The settings of the directory, in the order in which they are applied. -/
def directories (config : Config) : List (Value × Value) :=
  config.filter fun entry => spellsDirectory entry.1

/-- The spelling that a configuration uses. -/
def spelling? (config : Config) : Option String :=
  if (Value.entry? "dir" config).isSome then some "dir"
  else if (Value.entry? "directory" config).isSome then some "directory"
  else none

/-- The directory that a configuration sets, under either spelling. -/
def directory? (config : Config) : Option Value :=
  Value.entry? "dir" config <|> Value.entry? "directory" config

/-- A configuration uses one spelling at most. -/
def SpelledOnce (config : Config) : Prop :=
  Value.entry? "dir" config = none ∨ Value.entry? "directory" config = none

/-- The highest layer uses the spelling of the lowest one, and the layer between them the other one. -/
def IsShadowed (user project profile : Config) : Prop :=
  ∃ key other, key ≠ other ∧ spelling? user = some key ∧ spelling? project = some other ∧
    spelling? profile = some key

theorem spellsDirectory_str : spellsDirectory (.str name) = true ↔ name = "dir" ∨ name = "directory" := by
  unfold spellsDirectory
  rw [beq_iff_eq]
  constructor
  · intro h
    have hmem := Setting.mem_keys h
    simpa [Setting.keys] using hmem
  · rintro (rfl | rfl) <;> rfl

/-- Neither spelling is a key whose tables are layered name by name. -/
theorem notMem_layeredKeys (h : spellsDirectory (.str name) = true) : name ∉ layeredKeys := by
  rcases spellsDirectory_str.mp h with rfl | rfl <;> decide

theorem directories_put : directories (Entries.put (.str name) v config) =
    if spellsDirectory (.str name) then Entries.put (.str name) v (directories config)
    else directories config := by
  unfold directories
  induction config with
  | nil => cases h : spellsDirectory (.str name) <;> simp [Entries.put, h]
  | cons entry rest ih =>
    obtain ⟨k, w⟩ := entry
    by_cases hkey : k = .str name
    · subst hkey
      rw [Value.put_cons_str]
      cases h : spellsDirectory (.str name) <;> simp [h]
    · rw [Value.put_cons_of_ne hkey]
      cases hk : spellsDirectory k with
      | false => simpa [hk] using ih
      | true =>
        simp only [List.filter_cons, hk, ih]
        cases spellsDirectory (.str name) with
        | false => rfl
        | true => exact (Value.put_cons_of_ne hkey).symm

/-- Of the settings of the directory, an upper layer replaces those of its spelling in their places. -/
theorem directories_merge (hupper : IsTable upper) :
    directories (merge lower upper) = Entries.putAll (directories lower) (directories upper) := by
  induction hupper generalizing lower with
  | nil => rfl
  | @cons name v rest hname hrest ih =>
    change directories (merge (overlay lower (.str name) v) rest) = _
    rw [overlay_str, ih, directories_put]
    unfold directories
    rw [List.filter_cons]
    cases h : spellsDirectory (.str name) with
    | false => rfl
    | true =>
      have hstacked : stacked name (Value.entry? name lower) v = v := by
        simp [stacked, notMem_layeredKeys h]
      rw [hstacked]
      rfl

theorem directories_erase (h : spellsDirectory (.str key) = false) :
    directories (Entries.erase (.str key) config) = directories config := by
  unfold directories Entries.erase
  rw [List.filter_filter]
  apply List.filter_congr
  intro entry _
  by_cases hkey : entry.1 = .str key
  · rw [hkey, h]
    rfl
  · rw [Value.beq_str_eq_false hkey, Bool.not_false, Bool.and_true]

theorem directories_withProfile (hproject : IsTable project) (hprofile : IsTable profile) :
    directories (withProfile (merge user project) profile) =
      Entries.putAll (Entries.putAll (directories user) (directories project)) (directories profile) := by
  have hprofiles : spellsDirectory (.str profilesKey) = false := by decide
  have hdescription : spellsDirectory (.str descriptionKey) = false := by decide
  rw [withProfile, directories_merge hprofile.erase, directories_erase hprofiles,
    directories_erase hdescription, directories_merge hproject]

theorem directories_cons (name : String) (v : Value) (rest : Config) :
    directories ((.str name, v) :: rest) =
      if spellsDirectory (.str name) then (.str name, v) :: directories rest else directories rest := by
  unfold directories
  rw [List.filter_cons]

theorem directories_eq_nil (h : IsTable config) (hdir : Value.entry? "dir" config = none)
    (hdirectory : Value.entry? "directory" config = none) : directories config = [] := by
  induction h with
  | nil => rfl
  | @cons name v rest hname hrest ih =>
    rw [Value.entry?_cons_str] at hdir hdirectory
    have hne : ¬ (name = "dir" ∨ name = "directory") := by
      rintro (rfl | rfl)
      · simp at hdir
      · simp at hdirectory
    rw [directories_cons, if_neg (mt spellsDirectory_str.mp hne)]
    apply ih
    · simpa [mt Or.inl hne] using hdir
    · simpa [mt Or.inr hne] using hdirectory

/-- A configuration sets the directory under its spelling only, if it uses one at most. -/
theorem directories_eq (h : IsTable config) (honce : SpelledOnce config) :
    (spelling? config = none ∧ directory? config = none ∧ directories config = []) ∨
      ∃ key v, spelling? config = some key ∧ directory? config = some v ∧
        directories config = [(.str key, v)] := by
  induction h with
  | nil => exact .inl ⟨rfl, rfl, rfl⟩
  | @cons name v rest hname hrest ih =>
    unfold SpelledOnce at honce
    rw [Value.entry?_cons_str, Value.entry?_cons_str] at honce
    unfold spelling? directory?
    rw [Value.entry?_cons_str, Value.entry?_cons_str, directories_cons]
    by_cases hdir : name = "dir"
    · subst hdir
      have hother : Value.entry? "directory" rest = none := by simpa using honce
      refine .inr ⟨"dir", v, rfl, rfl, ?_⟩
      rw [if_pos (spellsDirectory_str.mpr (.inl rfl)), directories_eq_nil hrest hname hother]
    · by_cases hdirectory : name = "directory"
      · subst hdirectory
        have hother : Value.entry? "dir" rest = none := by simpa using honce
        refine .inr ⟨"directory", v, ?_, ?_, ?_⟩
        · simp [hother]
        · simp [hother]
        rw [if_pos (spellsDirectory_str.mpr (.inr rfl)), directories_eq_nil hrest hother hname]
      · have hne : ¬ (name = "dir" ∨ name = "directory") := by simp [hdir, hdirectory]
        rw [if_neg hdir, if_neg hdirectory, if_neg (mt spellsDirectory_str.mp hne)]
        apply ih
        rwa [if_neg hdir, if_neg hdirectory] at honce

theorem directory_of_setting (honce : SpelledOnce config) (hkey : key ∈ ["dir", "directory"])
    (h : Value.entry? key config = some v) : directory? config = some v := by
  unfold SpelledOnce at honce
  unfold directory?
  simp only [List.mem_cons, List.not_mem_nil, or_false] at hkey
  rcases hkey with rfl | rfl
  · rw [h]
    rfl
  · rw [h] at honce
    have hdir : Value.entry? "dir" config = none := by simpa using honce
    rw [hdir, h]
    rfl

/-! ## The setting that counts -/

/-- The directory that is applied last. -/
def lastDirectory? (config : Config) : Option Value := (directories config).getLast?.map (·.2)

theorem IsShadowed.spelled (h : IsShadowed user project profile) :
    (spelling? user).isSome ∧ (spelling? project).isSome ∧ (spelling? profile).isSome := by
  obtain ⟨key, other, -, huser, hproject, hprofile⟩ := h
  simp [huser, hproject, hprofile]

theorem isShadowed_iff {lowest middle highest : String} (huser : spelling? user = some lowest)
    (hproject : spelling? project = some middle) (hprofile : spelling? profile = some highest) :
    IsShadowed user project profile ↔ lowest ≠ middle ∧ highest = lowest := by
  unfold IsShadowed
  rw [huser, hproject, hprofile]
  constructor
  · rintro ⟨key, other, hne, hkey, hother, hhighest⟩
    cases hkey
    cases hother
    cases hhighest
    exact ⟨hne, rfl⟩
  · rintro ⟨hne, rfl⟩
    exact ⟨highest, middle, hne, rfl, rfl, rfl⟩

theorem put_singleton (key other : String) (below above : Value) :
    Entries.put (.str other) above [(.str key, below)] =
      if key = other then [(.str other, above)]
      else [(Value.str key, below), (.str other, above)] := by
  by_cases h : key = other
  · subst h
    rw [if_pos rfl, Value.put_cons_str]
  · rw [if_neg h, Value.put_cons_of_ne (by simpa using h)]
    rfl

theorem getLast?_put_singleton (key other : String) (below above : Value) :
    (Entries.put (.str other) above [(Value.str key, below)]).getLast?.map (·.2) = some above := by
  rw [put_singleton]
  split <;> rfl

/-- A setting that replaces the first of two stays before the second. -/
theorem getLast?_put_pair {first second key : String} {below above v : Value} (h : first ≠ second) :
    (Entries.put (.str key) v [(Value.str first, below), (.str second, above)]).getLast?.map (·.2) =
      if key = first then some above else some v := by
  by_cases hkey : key = first
  · subst hkey
    rw [if_pos rfl, Value.put_cons_str]
    rfl
  · rw [if_neg hkey, Value.put_cons_of_ne (by simpa using Ne.symm hkey), put_singleton]
    split <;> rfl

/-- Where all three layers set the directory, the last setting is the highest, unless the two below it have
different keys and it has that of the lowest. -/
theorem getLast?_stack {lowest middle highest : String} {u p f : Value} :
    (Entries.putAll (Entries.putAll [(Value.str lowest, u)] [(.str middle, p)])
      [(.str highest, f)]).getLast?.map (·.2) =
        if lowest ≠ middle ∧ highest = lowest then some p else some f := by
  change (Entries.put (.str highest) f
    (Entries.put (.str middle) p [(Value.str lowest, u)])).getLast?.map (·.2) = _
  rw [put_singleton]
  by_cases hkeys : lowest = middle
  · rw [if_pos hkeys, if_neg fun h => h.1 hkeys]
    exact getLast?_put_singleton _ _ _ _
  · rw [if_neg hkeys, getLast?_put_pair hkeys]
    simp [hkeys]

/-- The highest layer that sets the directory wins, unless it is shadowed by the layer below it. -/
theorem lastDirectory?_withProfile (huser : IsTable user) (hproject : IsTable project)
    (hprofile : IsTable profile) (huserOnce : SpelledOnce user) (hprojectOnce : SpelledOnce project)
    (hprofileOnce : SpelledOnce profile) :
    (¬ IsShadowed user project profile →
      lastDirectory? (withProfile (merge user project) profile) =
        (directory? profile <|> directory? project <|> directory? user)) ∧
    (IsShadowed user project profile →
      lastDirectory? (withProfile (merge user project) profile) = directory? project) := by
  unfold lastDirectory?
  rw [directories_withProfile hproject hprofile]
  rcases directories_eq hprofile hprofileOnce with ⟨hf, hfv, hfs⟩ | ⟨highest, f, hf, hfv, hfs⟩
  · have hnot : ¬ IsShadowed user project profile := fun h => by simpa [hf] using h.spelled
    refine ⟨fun _ => ?_, fun h => absurd h hnot⟩
    rw [hfs, hfv]
    rcases directories_eq hproject hprojectOnce with ⟨-, hpv, hps⟩ | ⟨middle, p, -, hpv, hps⟩ <;>
      rcases directories_eq huser huserOnce with ⟨-, huv, hus⟩ | ⟨lowest, u, -, huv, hus⟩ <;>
        rw [hpv, hps, huv, hus]
    · rfl
    · rfl
    · rfl
    · exact getLast?_put_singleton lowest middle u p
  · rw [hfs, hfv]
    rcases directories_eq hproject hprojectOnce with ⟨hp, hpv, hps⟩ | ⟨middle, p, hp, hpv, hps⟩
    · have hnot : ¬ IsShadowed user project profile := fun h => by simpa [hp] using h.spelled
      refine ⟨fun _ => ?_, fun h => absurd h hnot⟩
      rw [hps]
      rcases directories_eq huser huserOnce with ⟨-, -, hus⟩ | ⟨lowest, u, -, -, hus⟩ <;> rw [hus]
      · rfl
      · exact getLast?_put_singleton lowest highest u f
    · rw [hps, hpv]
      rcases directories_eq huser huserOnce with ⟨hu, -, hus⟩ | ⟨lowest, u, hu, -, hus⟩ <;> rw [hus]
      · have hnot : ¬ IsShadowed user project profile := fun h => by simpa [hu] using h.spelled
        refine ⟨fun _ => ?_, fun h => absurd h hnot⟩
        exact getLast?_put_singleton middle highest p f
      · rw [isShadowed_iff hu hp hf, getLast?_stack]
        constructor
        · intro h
          rw [if_neg h]
          rfl
        · intro h
          rw [if_pos h]

end Config

namespace RenderOptions

variable {home : String} {o o' : RenderOptions} {config : Config}

theorem directory_set {setting : Setting} {v : Value} (hsetting : setting ≠ .directory)
    (h : o.set home setting v = .ok o') : o'.directory = o.directory := by
  cases setting with
  | directory => exact absurd rfl hsetting
  | baseUrl =>
    cases h
    rfl
  | timezone =>
    cases h
    rfl
  | unescape =>
    cases v with
    | bool b =>
      cases h
      rfl
    | _ => cases h
  | params =>
    cases v with
    | map entries =>
      cases h
      rfl
    | _ => cases h

/-- The directory is the one that a value denotes, if there is a value. -/
def Denotes (home : String) (v : Option Value) (directory : Option Path) : Prop :=
  match v with
  | none => directory = none
  | some v => directoryOf home v = .ok directory

theorem directory_settled (h : settled home o config = .ok o') :
    match Config.lastDirectory? config with
    | none => o'.directory = o.directory
    | some v => directoryOf home v = .ok o'.directory := by
  unfold Config.lastDirectory? Config.directories
  induction config generalizing o with
  | nil =>
    cases h
    rfl
  | cons entry rest ih =>
    obtain ⟨key, v⟩ := entry
    unfold settled at h
    rw [List.filter_cons]
    cases hkey : Setting.ofKey? key with
    | none =>
      rw [hkey] at h
      have hspells : Config.spellsDirectory key = false := by simp [Config.spellsDirectory, hkey]
      simpa [hspells] using ih h
    | some setting =>
      rw [hkey] at h
      obtain ⟨next, hset, h⟩ := exists_of_bind_eq_ok h
      have hrest := ih h
      by_cases hsetting : setting = .directory
      · subst hsetting
        have hspells : Config.spellsDirectory key = true := by simp [Config.spellsDirectory, hkey]
        obtain ⟨directory, hdirectory, hnext⟩ := exists_of_bind_eq_ok hset
        cases hnext
        simp only [hspells, if_pos, List.getLast?_cons]
        cases hlast : (rest.filter fun entry => Config.spellsDirectory entry.1).getLast? with
        | none =>
          rw [hlast] at hrest
          change o'.directory = directory at hrest
          simpa [hrest] using hdirectory
        | some last =>
          rw [hlast] at hrest
          exact hrest
      · have hspells : Config.spellsDirectory key = false := by
          simp [Config.spellsDirectory, hkey, hsetting]
        rw [directory_set hsetting hset] at hrest
        simpa [hspells] using hrest

end RenderOptions

namespace CommandLine

open Config RenderOptions

variable {files : FileTree} {userFile folder : Path} {home : String} {name : Option String}
  {user project profile : Config}

/-- The options that the configuration of a folder describes, with a profile. -/
def configuredOptions (files : FileTree) (userFile folder : Path) (home : String)
    (name : Option String) : Action RenderOptions := do
  let config ← loadAll files userFile folder
  let config ← select config name
  ofConfig home config

theorem gives_configuredOptions (huser : (load files userFile).Gives (.ok (.map user)))
    (hproject : FirstFilled files (projectFiles.map fun name => folder.join (Path.ofString name))
      project) :
    (configuredOptions files userFile folder home name).Gives
      (selected (merge user project) name >>= described home) := by
  refine .bind_ok (gives_loadAll huser hproject) (.bind (gives_select _ _) fun config => ?_)
  exact .bind (gives_setAll _ _ _) fun options => .bind (.ofExcept _) fun base => .pure _

/-- With a profile of well-typed configurations, the options are those that all three layers describe. -/
theorem gives_configuredOptions_of_selects (huser : (load files userFile).Gives (.ok (.map user)))
    (hproject : FirstFilled files (projectFiles.map fun name => folder.join (Path.ofString name))
      project) (huserTypes : user.IsWellTyped) (hprojectTypes : project.IsWellTyped)
    (hprofile : Selects user project name profile) :
    (configuredOptions files userFile folder home name).Gives
      (described home (withProfile (merge user project) profile)) := by
  have hprojectTable := hproject.isTabular
  have hselected : selected (merge user project) name =
      .ok (withProfile (merge user project) profile) :=
    (selected_eq_ok_iff (huserTypes.holdsTable_profiles (isTabular_of_load huser))
      hprojectTable.isTable (hprojectTypes.holdsTable_profiles hprojectTable)).mpr
        ⟨profile, hprofile, rfl⟩
  have hgives : (configuredOptions files userFile folder home name).Gives
      (selected (merge user project) name >>= described home) :=
    gives_configuredOptions huser hproject
  rw [hselected] at hgives
  exact hgives

/-- The directory of the options is the last one that the configuration sets. -/
theorem denotes_described {config : Config} {options : RenderOptions}
    (h : described home config = .ok options) :
    Denotes home (lastDirectory? config) options.directory := by
  obtain ⟨settled, hsettled, h⟩ := exists_of_bind_eq_ok h
  obtain ⟨base, -, h⟩ := exists_of_bind_eq_ok h
  cases h
  have hdirectory := directory_settled hsettled
  unfold Denotes
  cases hlast : lastDirectory? config with
  | none =>
    rw [hlast] at hdirectory
    exact hdirectory
  | some v =>
    rw [hlast] at hdirectory
    exact hdirectory

/-- The directory comes from the highest layer that sets it under either spelling, unless the profile is
shadowed by the project: then it comes from the project. -/
theorem directory_configuredOptions (huser : (load files userFile).Gives (.ok (.map user)))
    (hproject : FirstFilled files (projectFiles.map fun name => folder.join (Path.ofString name))
      project) (huserTypes : user.IsWellTyped) (hprojectTypes : project.IsWellTyped)
    (hprofile : Selects user project name profile)
    (honce : ∀ layer ∈ [user, project, profile], SpelledOnce layer) :
    (∀ journal options,
      ((configuredOptions files userFile folder home name).run.run journal).1 = .ok options →
        (¬ IsShadowed user project profile →
          Denotes home (directory? profile <|> directory? project <|> directory? user)
            options.directory) ∧
        (IsShadowed user project profile → Denotes home (directory? project) options.directory)) ∧
    ((∀ layer ∈ [user, project, profile], ∀ v, directory? layer = some v →
        ∃ directory, directoryOf home v = .ok directory) →
      ∃ options, (configuredOptions files userFile folder home name).Gives (.ok options)) := by
  have huserTable := isTabular_of_load huser
  have hprojectTable := hproject.isTabular
  obtain ⟨hprofileTypes, hprofileTable⟩ :=
    hprofile.isLayer huserTypes huserTable hprojectTypes hprojectTable
  have hgives : (configuredOptions files userFile folder home name).Gives
      (described home (withProfile (merge user project) profile)) :=
    gives_configuredOptions_of_selects huser hproject huserTypes hprojectTypes hprofile
  have hlast := lastDirectory?_withProfile huserTable.isTable hprojectTable.isTable
    hprofileTable.isTable (honce user (by simp)) (honce project (by simp)) (honce profile (by simp))
  constructor
  · intro journal options hoptions
    rw [hgives journal] at hoptions
    have hdenotes := denotes_described hoptions
    constructor
    · intro h
      rwa [hlast.1 h] at hdenotes
    · intro h
      rwa [hlast.2 h] at hdenotes
  · intro husable
    have hsound : Layers.IsSound ⟨user, project, profile, []⟩ :=
      ⟨huserTypes.toIsLayer, hprojectTypes.toIsLayer, hprofileTypes, huserTable, hprojectTable,
        hprofileTable⟩
    have husable (layer : Config) (hlayer : layer ∈ [user, project, profile]) (key : String)
        (hkey : key ∈ ["dir", "directory"]) (v : Value) (hv : Value.entry? key layer = some v) :
        ∃ directory, directoryOf home v = .ok directory :=
      husable layer hlayer v (directory_of_setting (honce layer hlayer) hkey hv)
    have hdirectory : Layers.HasUsableDirectory ⟨user, project, profile, []⟩ home := by
      intro key hkey v hv
      exact Layers.of_setting? hv (husable user (by simp) key hkey)
        (husable project (by simp) key hkey) (husable profile (by simp) key hkey)
    obtain ⟨options, hoptions⟩ := hsound.exists_described hdirectory
    exact ⟨options, fun journal => (hgives journal).trans hoptions⟩

/-! ## A user and a project with different spellings -/

def dirText : String := "dir = 'a'\n"

def directoryText : String :=
  "directory = 'b'\n[profiles.p]\ndir = 'c'\n[profiles.q]\ndirectory = 'd'\n"

def dirTable : Config := [(.str "dir", .str "a")]

def directoryTable : Config :=
  [(.str "directory", .str "b"), (.str "profiles", .map
    [(.str "p", .map [(.str "dir", .str "c")]), (.str "q", .map [(.str "directory", .str "d")])])]

def isDirTable : Except Toml.Problem Config → Bool
  | .ok [(.str "dir", .str "a")] => true
  | _ => false

def isDirectoryTable : Except Toml.Problem Config → Bool
  | .ok [(.str "directory", .str "b"), (.str "profiles", .map
      [(.str "p", .map [(.str "dir", .str "c")]), (.str "q", .map [(.str "directory", .str "d")])])] =>
    true
  | _ => false

theorem eq_of_isDirTable {result : Except Toml.Problem Config} (h : isDirTable result = true) :
    result = .ok dirTable := by
  unfold isDirTable at h
  split at h
  · rfl
  · cases h

theorem eq_of_isDirectoryTable {result : Except Toml.Problem Config}
    (h : isDirectoryTable result = true) : result = .ok directoryTable := by
  unfold isDirectoryTable at h
  split at h
  · rfl
  · cases h

/-- The configuration of a user, and that of a project with two profiles. -/
def spelledFiles : FileTree :=
  ((({ workingDirectory := Path.ofString "/w" } : FileTree).put (Path.ofString "/u/config.toml")
    (.file (Text.Utf8.encode dirText))).put (Path.ofString "/w/promptkit.toml")
    (.file (Text.Utf8.encode directoryText)))

theorem gives_load_dirTable :
    (load spelledFiles (Path.ofString "/u/config.toml")).Gives (.ok (.map dirTable)) := by
  have htext : spelledFiles.readText (Path.ofString "/u/config.toml") = .ok dirText := by
    decide +kernel
  exact gives_load htext (by decide +kernel) (eq_of_isDirTable (by decide +kernel))

theorem firstFilled_directoryTable : FirstFilled spelledFiles
    (projectFiles.map fun name => (Path.ofString "/w").join (Path.ofString name)) directoryTable := by
  have htext : spelledFiles.readText (Path.ofString "/w/promptkit.toml") = .ok directoryText := by
    decide +kernel
  have hhidden : spelledFiles.isFile (Path.ofString "/w/.promptkit.toml") = false := by
    decide +kernel
  have hpaths : (projectFiles.map fun name => (Path.ofString "/w").join (Path.ofString name)) =
      [Path.ofString "/w/.promptkit.toml", Path.ofString "/w/promptkit.toml",
        Path.ofString "/w/pyproject.toml"] := by decide +kernel
  rw [hpaths]
  apply FirstFilled.later (load_of_isFile_eq_false hhidden) rfl
  refine .here ?_ (by simp [directoryTable])
  exact gives_load htext (by decide +kernel) (eq_of_isDirectoryTable (by decide +kernel))

theorem isWellTyped_dirTable : dirTable.IsWellTyped where
  baseUrl := by simp [dirTable]
  timezone := by simp [dirTable]
  unescape := by simp [dirTable]
  params := by simp [dirTable]
  profiles := by simp [dirTable]

theorem isWellTyped_directoryTable : directoryTable.IsWellTyped where
  baseUrl := by simp [directoryTable]
  timezone := by simp [directoryTable]
  unescape := by simp [directoryTable]
  params := by simp [directoryTable]
  profiles := by
    rintro v hv
    obtain rfl : Value.map [(.str "p", .map [(.str "dir", .str "c")]),
        (.str "q", .map [(.str "directory", .str "d")])] = v := by simpa [directoryTable] using hv
    refine ⟨_, rfl, fun k profile hmem => ?_⟩
    simp only [List.mem_cons, List.not_mem_nil, or_false, Prod.mk.injEq] at hmem
    rcases hmem with ⟨-, rfl⟩ | ⟨-, rfl⟩ <;> exact ⟨_, rfl, by simp, by simp, by simp, by simp⟩

theorem directory_configuredOptions_spelledFiles : ∃ options,
    (configuredOptions spelledFiles (Path.ofString "/u/config.toml") (Path.ofString "/w") "/u"
      (some "q")).Gives (.ok options) ∧ options.directory = some (Path.ofString "d") := by
  have hselects : Selects dirTable directoryTable (some "q") [(.str "directory", .str "d")] :=
    .named (by decide) (by simp [nested?, dirTable, directoryTable])
  have honce : ∀ layer ∈ [dirTable, directoryTable, [(.str "directory", .str "d")]],
      SpelledOnce layer := by simp [SpelledOnce, dirTable, directoryTable]
  have husable : ∀ layer ∈ [dirTable, directoryTable, [(.str "directory", .str "d")]], ∀ v,
      directory? layer = some v → ∃ directory, directoryOf "/u" v = .ok directory := by
    have hrelative : ∀ text ∈ ["a", "b", "d"],
        directoryOf "/u" (.str text) = .ok (some (Path.ofString text)) := by decide
    simp [directory?, dirTable, directoryTable, hrelative]
  have hvisible : ¬ IsShadowed dirTable directoryTable [(.str "directory", .str "d")] := by
    have huser : spelling? dirTable = some "dir" := by simp [spelling?, dirTable]
    have hproject : spelling? directoryTable = some "directory" := by
      simp [spelling?, directoryTable]
    have hprofile : spelling? [(.str "directory", .str "d")] = some "directory" := by simp [spelling?]
    rw [isShadowed_iff huser hproject hprofile]
    decide
  obtain ⟨hfrom, hmade⟩ := directory_configuredOptions gives_load_dirTable
    firstFilled_directoryTable isWellTyped_dirTable isWellTyped_directoryTable hselects honce
  obtain ⟨options, hoptions⟩ := hmade husable
  have hdenotes := (hfrom [] options (hoptions [])).1 hvisible
  refine ⟨options, hoptions, ?_⟩
  have hset : directory? [(.str "directory", .str "d")] = some (.str "d") := by
    simp [directory?]
  rw [hset] at hdenotes
  exact (Except.ok.inj (hdenotes.symm.trans (by decide)))

/-- A profile that sets the directory again under the spelling of the user does not win over the project
that uses the other spelling. -/
theorem directory_shadowed : ∃ options profile,
    (configuredOptions spelledFiles (Path.ofString "/u/config.toml") (Path.ofString "/w") "/u"
      (some "p")).Gives (.ok options) ∧ Selects dirTable directoryTable (some "p") profile ∧
        directory? profile = some (.str "c") ∧ options.directory = some (Path.ofString "b") := by
  have hselects : Selects dirTable directoryTable (some "p") [(.str "dir", .str "c")] :=
    .named (by decide) (by simp [nested?, dirTable, directoryTable])
  have hgives : (configuredOptions spelledFiles (Path.ofString "/u/config.toml") (Path.ofString "/w")
      "/u" (some "p")).Gives
        (described "/u" (withProfile (merge dirTable directoryTable) [(.str "dir", .str "c")])) :=
    gives_configuredOptions_of_selects gives_load_dirTable firstFilled_directoryTable
      isWellTyped_dirTable isWellTyped_directoryTable hselects
  have hdirectory :
      (described "/u" (withProfile (merge dirTable directoryTable) [(.str "dir", .str "c")]) >>=
        fun options => Except.ok options.directory) = .ok (some (Path.ofString "b")) := by
    decide
  obtain ⟨options, hoptions, hdirectory⟩ := exists_of_bind_eq_ok hdirectory
  rw [hoptions] at hgives
  exact ⟨options, _, hgives, hselects, by simp [directory?], Except.ok.inj hdirectory⟩

end CommandLine

end PromptTemplates
