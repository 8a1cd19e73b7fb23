import PromptTemplates.CommandLine.Run
import PromptTemplates.Proofs.Settings.SettledOptions

/-!
# Where the options of a run come from

The options of a run are made of layers: the command line, the file of parameters, the selected profile,
the configuration of the project and that of the user. Each setting, and each parameter by itself, comes
from the highest layer that has it.
-/

namespace PromptTemplates

open Value (IsTable IsTabular)

namespace CommandLine

open Config

variable {s : Surround} {o : Options} {user project : Config}

/-! ## The layers of a run -/

/-- The configurations that lie below the command line, and the file of parameters. -/
structure Layers where
  user : Config
  project : Config
  profile : Config
  file : List (Value × Value)

namespace Layers

/-- The value of a setting in the highest configuration that has it. -/
def setting? (layers : Layers) (key : String) : Option Value :=
  Value.entry? key layers.profile <|> Value.entry? key layers.project <|> Value.entry? key layers.user

/-- The value of a parameter in the highest configuration that has it. -/
def param? (layers : Layers) (key : String) : Option Value :=
  nested? "params" key layers.profile <|> nested? "params" key layers.project <|>
    nested? "params" key layers.user

end Layers

/-- The parameters of a file, if one is given. -/
def suppliedParams (files : FileTree) : Option String → Except Fault (List (Value × Value))
  | none => .ok []
  | some path => readParams files (Path.ofString path)

/-- The value of the last assignment to a key. -/
def assigned? (assignments : List String) (key : String) : Option String :=
  (assignments.filterMap Pair.split?).reverse.lookup key

/-- The files in which a run looks for the configuration of its project. -/
def projectPaths (files : FileTree) : List Path :=
  projectFiles.map fun name => files.workingDirectory.join (Path.ofString name)

/-- Every setting, and every parameter by itself, is that of the highest layer that has it. -/
structure IsLayered (o : Options) (layers : Layers) (options : RenderOptions) : Prop where
  baseUrl : options.baseUrl = RenderOptions.trimmedBase
    ((o.baseUrl.map Value.str <|> layers.setting? "base_url").getD .null)
  timezone : options.timezone = (o.timezone.map Value.str <|> layers.setting? "timezone").getD .null
  unescape : options.unescape =
    (o.unescape.map Value.bool <|> layers.setting? "unescape").getD (.bool true)
  params : ∀ key, Value.entry? key options.params = ((assigned? o.assignments key).map Value.str <|>
    Value.entry? key layers.file <|> layers.param? key)

/-! ## What a run puts together -/

namespace Layers

variable {layers : Layers} {key : String}

/-- The configurations on top of one another. -/
def config (layers : Layers) : Config := withProfile (merge layers.user layers.project) layers.profile

/-- The configurations are tables of settings of the right types. -/
structure IsSound (layers : Layers) : Prop where
  user : IsLayer layers.user
  project : IsLayer layers.project
  profile : IsLayer layers.profile
  userTable : IsTabular (.map layers.user)
  projectTable : IsTabular (.map layers.project)
  profileTable : IsTabular (.map layers.profile)

theorem IsSound.isTable_config (h : layers.IsSound) : IsTable layers.config :=
  isTable_merge (isTable_merge h.userTable.isTable h.projectTable.isTable).erase
    h.profileTable.isTable.erase

theorem IsSound.entry?_config (h : layers.IsSound) (hkey : key ∉ layeredKeys)
    (hdescription : key ≠ descriptionKey) :
    Value.entry? key layers.config = layers.setting? key := by
  have hprofiles : profilesKey ≠ key := by
    rintro rfl
    exact hkey (by decide)
  rw [config, withProfile, entry?_merge_of_notMem h.profileTable.isTable.erase hkey,
    entry?_erase_of_ne hdescription.symm, entry?_erase_of_ne hprofiles,
    entry?_merge_of_notMem h.projectTable.isTable hkey]
  rfl

theorem IsSound.holdsTable_config (h : layers.IsSound) : HoldsTable "params" layers.config :=
  holdsTable_merge (holdsTable_erase (holdsTable_merge (h.user.holdsTable_params h.userTable)
      h.projectTable.isTable (h.project.holdsTable_params h.projectTable)))
    h.profileTable.isTable.erase (holdsTable_erase (h.profile.holdsTable_params h.profileTable))

theorem IsSound.nested?_config (h : layers.IsSound) :
    nested? "params" key layers.config = layers.param? key := by
  have huser := h.user.holdsTable_params h.userTable
  have hproject := h.project.holdsTable_params h.projectTable
  have hprofile := h.profile.holdsTable_params h.profileTable
  rw [config, withProfile, nested?_merge (by decide)
      (holdsTable_erase (holdsTable_merge huser h.projectTable.isTable hproject))
      h.profileTable.isTable.erase (holdsTable_erase hprofile),
    nested?_erase_of_ne (by decide), nested?_erase_of_ne (by decide),
    nested?_merge (by decide) huser h.projectTable.isTable hproject]
  rfl

/-- A setting of one of the configurations has the type that it has in each of them. -/
theorem of_setting? {P : Value → Prop} {v : Value} (hv : layers.setting? key = some v)
    (huser : ∀ v, Value.entry? key layers.user = some v → P v)
    (hproject : ∀ v, Value.entry? key layers.project = some v → P v)
    (hprofile : ∀ v, Value.entry? key layers.profile = some v → P v) : P v := by
  simp only [setting?, Option.orElse_eq_orElse, Option.orElse_eq_or, Option.or_eq_some_iff] at hv
  rcases hv with hv | ⟨-, hv | ⟨-, hv⟩⟩
  · exact hprofile v hv
  · exact hproject v hv
  · exact huser v hv

theorem IsSound.isLayer_config (h : layers.IsSound) : IsLayer layers.config where
  baseUrl v hv := by
    rw [h.entry?_config (by decide) (by decide)] at hv
    exact of_setting? hv h.user.baseUrl h.project.baseUrl h.profile.baseUrl
  timezone v hv := by
    rw [h.entry?_config (by decide) (by decide)] at hv
    exact of_setting? hv h.user.timezone h.project.timezone h.profile.timezone
  unescape v hv := by
    rw [h.entry?_config (by decide) (by decide)] at hv
    exact of_setting? hv h.user.unescape h.project.unescape h.profile.unescape
  params v hv := by
    obtain ⟨entries, rfl, -⟩ := h.holdsTable_config v hv
    exact ⟨entries, rfl⟩

end Layers

/-! ## The options of a run -/

/-- What the options that a configuration describes are. -/
def described (home : String) (config : Config) : Except Fault RenderOptions :=
  RenderOptions.settled home {} config >>= fun options =>
    RenderOptions.cleanBase options.baseUrl >>= fun base => .ok { options with baseUrl := base }

/-- The parameters that a run is given. -/
def givenParams (files : FileTree) (o : Options) : Except Fault (List (Value × Value)) :=
  suppliedParams files o.paramsFile >>= fun base =>
    .ok (Entries.putAll base (Value.textEntries (Pair.table o.assignments)))

/-- The options of a run with the configurations of the user and of the project. -/
def layered (s : Surround) (o : Options) (config : Config) : Except Fault RenderOptions :=
  described s.home config >>= fun options => givenParams s.files o >>= fun params =>
    options.merged (o.layer params)

theorem gives_loadAll {files : FileTree} {userFile folder : Path}
    (huser : (load files userFile).Gives (.ok (.map user)))
    (hproject : FirstFilled files (projectFiles.map fun name => folder.join (Path.ofString name))
      project) : (loadAll files userFile folder).Gives (.ok (merge user project)) := by
  have hadded : (addUser files userFile []).Gives (.ok (merge [] user)) := gives_addUser huser
  rw [merge_nil (isTable_of_load huser)] at hadded
  refine .bind_ok hadded (.bind_ok (gives_addProject hproject) ?_)
  split
  · exact .note _ (.pure _)
  · exact .pure _

theorem gives_params (files : FileTree) (o : Options) :
    (params files o).Gives (givenParams files o) := by
  have hassigned : Action.Gives (ExceptT.lift (Pair.tableNoted o.assignments))
      (.ok (Pair.table o.assignments)) := .lift fun _ => rfl
  unfold params givenParams suppliedParams
  cases o.paramsFile with
  | none => exact .bind_ok (.pure []) (.bind_ok hassigned (.pure _))
  | some path =>
    refine .bind (.ofExcept _) fun entries => .note _ (.bind_ok (.pure entries) ?_)
    exact .bind_ok hassigned (.pure _)

theorem gives_renderOptions (huser : (load s.files s.userConfig).Gives (.ok (.map user)))
    (hproject : FirstFilled s.files (projectPaths s.files) project) :
    (renderOptions s o).Gives (selected (merge user project) o.profile >>= layered s o) := by
  refine .bind_ok (gives_loadAll huser hproject) (.bind (gives_select _ _) fun config => ?_)
  refine .bind ?_ fun options => .bind (gives_params _ _) fun params => .ofExcept _
  exact .bind (RenderOptions.gives_setAll _ _ _) fun options => .bind (.ofExcept _) fun base => .pure _

/-- What the described options have, from which the options of the command line are made. -/
structure IsDescribed (layers : Layers) (options : RenderOptions) : Prop where
  baseUrl : options.baseUrl =
    RenderOptions.trimmedBase ((layers.setting? "base_url").getD .null)
  timezone : options.timezone = (layers.setting? "timezone").getD .null
  unescape : options.unescape = (layers.setting? "unescape").getD (.bool true)
  params : ∀ key, Value.entry? key options.params = layers.param? key

variable {layers : Layers} {options base : RenderOptions} {home : String}

theorem Layers.IsSound.isOptionalText_setting (h : layers.IsSound) :
    ((layers.setting? "base_url").getD .null).IsOptionalText := by
  cases hv : layers.setting? "base_url" with
  | none => trivial
  | some v =>
    obtain ⟨s, rfl⟩ := of_setting? hv h.user.baseUrl h.project.baseUrl h.profile.baseUrl
    trivial

theorem Layers.IsSound.setting_settled (kind : Setting) {key : String} (h : layers.IsSound)
    (hkey : kind.key? = some key) (hlayered : key ∉ layeredKeys) (hdescription : key ≠ descriptionKey)
    (hsettled : RenderOptions.settled home {} layers.config = .ok options) :
    options.setting kind = (layers.setting? key).getD (RenderOptions.setting {} kind) := by
  rw [RenderOptions.setting_settled kind hkey h.isTable_config hsettled,
    h.entry?_config hlayered hdescription]

theorem Layers.IsSound.params_settled {key : String} (h : layers.IsSound)
    (hsettled : RenderOptions.settled home {} layers.config = .ok options) :
    Value.entry? key options.params = layers.param? key := by
  have hparams : Value.map options.params =
      (Value.entry? "params" layers.config).getD (.map []) :=
    RenderOptions.setting_settled .params rfl h.isTable_config hsettled
  rw [← h.nested?_config, nested?]
  cases hentry : Value.entry? "params" layers.config with
  | none =>
    rw [hentry] at hparams
    rw [Value.map.inj hparams]
    exact Value.entry?_nil
  | some v =>
    obtain ⟨entries, rfl, -⟩ := h.holdsTable_config v hentry
    rw [hentry] at hparams
    rw [Value.map.inj hparams]

theorem Layers.IsSound.described_eq (h : layers.IsSound)
    (hsettled : RenderOptions.settled home {} layers.config = .ok options) :
    described home layers.config = .ok { options with
      baseUrl := RenderOptions.trimmedBase ((layers.setting? "base_url").getD .null) } := by
  have hbase : options.baseUrl = (layers.setting? "base_url").getD .null :=
    h.setting_settled .baseUrl rfl (by decide) (by decide) hsettled
  unfold described
  rw [hsettled]
  change RenderOptions.cleanBase options.baseUrl >>= _ = _
  rw [hbase, RenderOptions.cleanBase_eq h.isOptionalText_setting]
  rfl

theorem Layers.IsSound.isDescribed (h : layers.IsSound)
    (hdescribed : described home layers.config = .ok options) : IsDescribed layers options := by
  obtain ⟨settled, hsettled, -⟩ := exists_of_bind_eq_ok hdescribed
  have htimezone : settled.timezone = (layers.setting? "timezone").getD .null :=
    h.setting_settled .timezone rfl (by decide) (by decide) hsettled
  have hunescape : settled.unescape = (layers.setting? "unescape").getD (.bool true) :=
    h.setting_settled .unescape rfl (by decide) (by decide) hsettled
  rw [h.described_eq hsettled] at hdescribed
  cases hdescribed
  have hparams (key : String) : Value.entry? key settled.params = layers.param? key :=
    h.params_settled hsettled
  exact ⟨rfl, htimezone, hunescape, hparams⟩

/-- The directories in the configurations can be used. -/
def Layers.HasUsableDirectory (layers : Layers) (home : String) : Prop :=
  ∀ key ∈ ["dir", "directory"], ∀ v, layers.setting? key = some v →
    ∃ directory, RenderOptions.directoryOf home v = .ok directory

theorem Layers.IsSound.exists_described (h : layers.IsSound)
    (hdirectory : layers.HasUsableDirectory home) :
    ∃ options, described home layers.config = .ok options := by
  have hkeys : ∀ key ∈ ["dir", "directory"], key ∉ layeredKeys ∧ key ≠ descriptionKey := by decide
  obtain ⟨settled, hsettled⟩ := RenderOptions.exists_settled (o := {}) h.isLayer_config
    h.isTable_config fun key hkey v hv => hdirectory key hkey v <| by
      rw [← h.entry?_config (hkeys key hkey).1 (hkeys key hkey).2, hv]
  exact ⟨_, h.described_eq hsettled⟩

theorem cleanBase_overlay {flag : Option String} {v : Value} (hv : v.IsOptionalText) :
    RenderOptions.cleanBase (RenderOptions.overlay (textOrNull flag) (RenderOptions.trimmedBase v)) =
      .ok (RenderOptions.trimmedBase ((flag.map Value.str).getD v)) := by
  cases flag with
  | none =>
    change RenderOptions.cleanBase (RenderOptions.trimmedBase v) = _
    rw [RenderOptions.cleanBase_eq (RenderOptions.isOptionalText_trimmedBase hv),
      RenderOptions.trimmedBase_trimmedBase]
    rfl
  | some s => rfl

theorem exists_layeredDirectory (base : RenderOptions) (o : Options) (params : List (Value × Value)) :
    ∃ directory, RenderOptions.layeredDirectory base (o.layer params) = .ok directory := by
  unfold RenderOptions.layeredDirectory Options.layer
  cases o.directory with
  | none => exact ⟨_, rfl⟩
  | some path => exact ⟨_, rfl⟩

theorem getD_or {α : Type} (upper lower : Option α) (fallback : α) :
    (upper <|> lower).getD fallback = upper.getD (lower.getD fallback) := by
  cases upper <;> rfl

/-- The options of the command line lie on top of those that are described. -/
theorem IsDescribed.merged_eq {params : List (Value × Value)} (h : IsDescribed layers base)
    (hsound : layers.IsSound) : ∃ directory, base.merged (o.layer params) = .ok { base with
      directory
      baseUrl := RenderOptions.trimmedBase
        ((o.baseUrl.map Value.str <|> layers.setting? "base_url").getD .null)
      timezone := (o.timezone.map Value.str <|> layers.setting? "timezone").getD .null
      unescape := (o.unescape.map Value.bool <|> layers.setting? "unescape").getD (.bool true)
      params := Entries.putAll base.params params } := by
  obtain ⟨directory, hdirectory⟩ := exists_layeredDirectory base o params
  refine ⟨directory, ?_⟩
  have hbase : RenderOptions.cleanBase (RenderOptions.overlay (textOrNull o.baseUrl) base.baseUrl) =
      .ok (RenderOptions.trimmedBase
        ((o.baseUrl.map Value.str <|> layers.setting? "base_url").getD .null)) := by
    rw [h.baseUrl, cleanBase_overlay hsound.isOptionalText_setting, getD_or]
  have htimezone : RenderOptions.overlay (textOrNull o.timezone) base.timezone =
      (o.timezone.map Value.str <|> layers.setting? "timezone").getD .null := by
    rw [h.timezone, getD_or]
    cases o.timezone <;> rfl
  have hunescape : RenderOptions.overlay (Value.ofOption (o.unescape.map .bool)) base.unescape =
      (o.unescape.map Value.bool <|> layers.setting? "unescape").getD (.bool true) := by
    rw [h.unescape, getD_or]
    cases o.unescape <;> rfl
  rw [RenderOptions.merged_eq, hdirectory]
  rw [← htimezone, ← hunescape]
  change RenderOptions.cleanBase (RenderOptions.overlay (textOrNull o.baseUrl) base.baseUrl) >>= _ = _
  rw [hbase]
  rfl

theorem isTabular_of_parseParams {p : Path} {text : String} {v : Value}
    (h : parseParams p text = .ok v) : IsTabular v := by
  unfold parseParams at h
  dsimp only at h
  split at h
  · split at h
    · exact Except.ok.inj h ▸ Json.isTabular_toValue _
    · cases h
  split at h
  · split at h
    · next table hread =>
      cases h
      exact Toml.isTabular_read hread
    · cases h
    · cases h
  · cases h

theorem isTable_of_suppliedParams {files : FileTree} {path : Option String}
    {file : List (Value × Value)} (h : suppliedParams files path = .ok file) : IsTable file := by
  unfold suppliedParams at h
  split at h
  · cases h
    exact .nil
  · unfold readParams at h
    split at h
    · cases h
    obtain ⟨v, hv, h⟩ := exists_of_bind_eq_ok h
    split at h
    · cases h
      exact (isTabular_of_parseParams hv).isTable
    · cases h

theorem lookup_map_str (pairs : List (String × String)) (key : String) :
    (pairs.map fun (name, text) => (name, Value.str text)).lookup key =
      (pairs.lookup key).map Value.str := by
  induction pairs with
  | nil => rfl
  | cons pair rest ih =>
    obtain ⟨name, text⟩ := pair
    rw [List.map_cons, List.lookup_cons, List.lookup_cons, ih]
    split <;> rfl

/-- The assignments lie on top of a table of parameters. -/
theorem entry?_assigned {assignments : List String} {key : String} {table : List (Value × Value)} :
    Value.entry? key (Entries.putAll table (Value.textEntries (Pair.table assignments))) =
      ((assigned? assignments key).map Value.str <|> Value.entry? key table) := by
  have htable : Value.textEntries (Pair.table assignments) = Entries.putAll [] (Value.textEntries
      ((assignments.filterMap Pair.split?).map fun (name, text) => (name, .str text))) :=
    Value.textEntries_putAll
  rw [htable, Value.entry?_putAll IsTable.nil.putAll_textEntries, Value.entry?_putAll_textEntries,
    ← List.map_reverse, lookup_map_str, assigned?]
  cases List.lookup key _ <;> rfl

theorem isTable_assigned {assignments : List String} {table : List (Value × Value)}
    (h : IsTable table) :
    IsTable (Entries.putAll table (Value.textEntries (Pair.table assignments))) :=
  h.putAll_textEntries

theorem Layers.IsSound.layered_eq (hbase : described s.home layers.config = .ok base)
    (hfile : suppliedParams s.files o.paramsFile = .ok layers.file) : layered s o layers.config =
      base.merged (o.layer (Entries.putAll layers.file (Value.textEntries (Pair.table o.assignments)))) := by
  unfold layered givenParams
  rw [hbase, hfile]
  rfl

theorem Layers.IsSound.isLayered (h : layers.IsSound)
    (hfile : suppliedParams s.files o.paramsFile = .ok layers.file)
    (hoptions : layered s o layers.config = .ok options) : IsLayered o layers options := by
  obtain ⟨base, hbase, -⟩ := exists_of_bind_eq_ok hoptions
  have hdescribed := h.isDescribed hbase
  obtain ⟨directory, hmerged⟩ := hdescribed.merged_eq (o := o) h
  rw [layered_eq hbase hfile, hmerged] at hoptions
  cases hoptions
  refine ⟨rfl, rfl, rfl, fun key => ?_⟩
  rw [Value.entry?_putAll (isTable_assigned (isTable_of_suppliedParams hfile)), entry?_assigned,
    hdescribed.params]
  cases (assigned? o.assignments key).map Value.str <;> rfl

theorem Layers.IsSound.exists_layered (h : layers.IsSound)
    (hfile : suppliedParams s.files o.paramsFile = .ok layers.file)
    (hdirectory : layers.HasUsableDirectory s.home) :
    ∃ options, layered s o layers.config = .ok options := by
  obtain ⟨base, hbase⟩ := h.exists_described hdirectory
  obtain ⟨directory, hmerged⟩ := (h.isDescribed hbase).merged_eq h
  exact ⟨_, (layered_eq hbase hfile).trans hmerged⟩

/-- The options of a run come from its layers, setting by setting and parameter by parameter. -/
theorem renderOptions_layered (huser : (load s.files s.userConfig).Gives (.ok (.map user)))
    (hproject : FirstFilled s.files (projectPaths s.files) project)
    (huserTypes : user.IsWellTyped) (hprojectTypes : project.IsWellTyped) :
    (∀ journal options, ((renderOptions s o).run.run journal).1 = .ok options →
      ∃ profile file, Selects user project o.profile profile ∧
        suppliedParams s.files o.paramsFile = .ok file ∧
        IsLayered o ⟨user, project, profile, file⟩ options) ∧
    ∀ profile file, Selects user project o.profile profile →
      suppliedParams s.files o.paramsFile = .ok file →
      Layers.HasUsableDirectory ⟨user, project, profile, file⟩ s.home →
      ∃ options, (renderOptions s o).Gives (.ok options) := by
  have huserTable := isTabular_of_load huser
  have hprojectTable := hproject.isTabular
  have hselected (config : Config) : selected (merge user project) o.profile = .ok config ↔
      ∃ profile, Selects user project o.profile profile ∧
        config = withProfile (merge user project) profile :=
    selected_eq_ok_iff (huserTypes.holdsTable_profiles huserTable) hprojectTable.isTable
      (hprojectTypes.holdsTable_profiles hprojectTable)
  have hgives := gives_renderOptions (o := o) huser hproject
  have hsound {profile : Config} (file : List (Value × Value))
      (h : Selects user project o.profile profile) :
      Layers.IsSound ⟨user, project, profile, file⟩ := by
    obtain ⟨hprofile, hprofileTable⟩ :=
      h.isLayer huserTypes huserTable hprojectTypes hprojectTable
    exact ⟨huserTypes.toIsLayer, hprojectTypes.toIsLayer, hprofile, huserTable, hprojectTable,
      hprofileTable⟩
  constructor
  · intro journal options hoptions
    rw [hgives journal] at hoptions
    obtain ⟨config, hconfig, hoptions⟩ := exists_of_bind_eq_ok hoptions
    obtain ⟨profile, hselects, rfl⟩ := (hselected config).mp hconfig
    obtain ⟨base, -, hmerged⟩ := exists_of_bind_eq_ok hoptions
    obtain ⟨params, hparams, -⟩ := exists_of_bind_eq_ok hmerged
    obtain ⟨file, hfile, -⟩ := exists_of_bind_eq_ok hparams
    exact ⟨profile, file, hselects, hfile, (hsound file hselects).isLayered hfile hoptions⟩
  · intro profile file hselects hfile hdirectory
    obtain ⟨options, hoptions⟩ := (hsound file hselects).exists_layered hfile hdirectory
    refine ⟨options, fun journal => (hgives journal).trans ?_⟩
    rw [(hselected _).mpr ⟨profile, hselects, rfl⟩]
    exact hoptions

/-! ## A run with three layers -/

def userText : String := "timezone = 'UTC'\n[profiles.p]\nunescape = false\n"

def projectText : String := "[params]\na = '1'\n"

def userTable : Config :=
  [(.str "timezone", .str "UTC"),
    (.str "profiles", .map [(.str "p", .map [(.str "unescape", .bool false)])])]

def projectTable : Config := [(.str "params", .map [(.str "a", .str "1")])]

def isUserTable : Except Toml.Problem Config → Bool
  | .ok [(.str "timezone", .str "UTC"),
      (.str "profiles", .map [(.str "p", .map [(.str "unescape", .bool false)])])] => true
  | _ => false

def isProjectTable : Except Toml.Problem Config → Bool
  | .ok [(.str "params", .map [(.str "a", .str "1")])] => true
  | _ => false

theorem eq_of_isUserTable {result : Except Toml.Problem Config} (h : isUserTable result = true) :
    result = .ok userTable := by
  unfold isUserTable at h
  split at h
  · rfl
  · cases h

theorem eq_of_isProjectTable {result : Except Toml.Problem Config} (h : isProjectTable result = true) :
    result = .ok projectTable := by
  unfold isProjectTable at h
  split at h
  · rfl
  · cases h

/-- A run in a directory with a project file, of a user with a configuration. -/
def layeredRun : Surround where
  args := []
  files :=
    ((({ workingDirectory := Path.ofString "/w" } : FileTree).put (Path.ofString "/u/config.toml")
      (.file (Text.Utf8.encode userText))).put (Path.ofString "/w/promptkit.toml")
      (.file (Text.Utf8.encode projectText)))
  home := "/u"
  userConfig := Path.ofString "/u/config.toml"
  clock := ⟨0, .floating, by decide⟩

def layeredOptions : Options where
  template := "-"
  profile := some "p"
  assignments := ["b = 2", "b=3"]

theorem isWellTyped_userTable : userTable.IsWellTyped where
  baseUrl := by simp [userTable]
  timezone := by simp [userTable]
  unescape := by simp [userTable]
  params := by simp [userTable]
  profiles := by
    rintro v hv
    obtain rfl : Value.map [(.str "p", .map [(.str "unescape", .bool false)])] = v := by
      simpa [userTable] using hv
    refine ⟨_, rfl, fun k profile hmem => ?_⟩
    cases List.mem_singleton.mp hmem
    exact ⟨_, rfl, by simp, by simp, by simp, by simp⟩

theorem isWellTyped_projectTable : projectTable.IsWellTyped where
  baseUrl := by simp [projectTable]
  timezone := by simp [projectTable]
  unescape := by simp [projectTable]
  params := by simp [projectTable]
  profiles := by simp [projectTable]

theorem renderOptions_layeredRun : ∃ options,
    (renderOptions layeredRun layeredOptions).Gives (.ok options) ∧
      options.timezone = .str "UTC" ∧ options.unescape = .bool false ∧
        Value.entry? "a" options.params = some (.str "1") ∧
          Value.entry? "b" options.params = some (.str "3") := by
  have huserText : layeredRun.files.readText layeredRun.userConfig = .ok userText := by decide +kernel
  have huser : (load layeredRun.files layeredRun.userConfig).Gives (.ok (.map userTable)) :=
    gives_load huserText (by decide +kernel) (eq_of_isUserTable (by decide +kernel))
  have hprojectText : layeredRun.files.readText (Path.ofString "/w/promptkit.toml") =
      .ok projectText := by decide +kernel
  have hproject : FirstFilled layeredRun.files (projectPaths layeredRun.files) projectTable := by
    have hhidden : layeredRun.files.isFile (Path.ofString "/w/.promptkit.toml") = false := by
      decide +kernel
    have hpaths : projectPaths layeredRun.files = [Path.ofString "/w/.promptkit.toml",
        Path.ofString "/w/promptkit.toml", Path.ofString "/w/pyproject.toml"] := by decide +kernel
    rw [hpaths]
    refine .later (load_of_isFile_eq_false hhidden) rfl (.here ?_ (by simp [projectTable]))
    exact gives_load hprojectText (by decide +kernel) (eq_of_isProjectTable (by decide +kernel))
  obtain ⟨hfrom, hmade⟩ := renderOptions_layered (o := layeredOptions) huser hproject
    isWellTyped_userTable isWellTyped_projectTable
  have hselects : Selects userTable projectTable (some "p") [(.str "unescape", .bool false)] :=
    .named (by decide) (by simp [nested?, userTable, projectTable])
  have husable : Layers.HasUsableDirectory
      ⟨userTable, projectTable, [(.str "unescape", .bool false)], []⟩ layeredRun.home := by
    simp [Layers.HasUsableDirectory, Layers.setting?, userTable, projectTable]
  obtain ⟨options, hoptions⟩ := hmade _ [] hselects rfl husable
  obtain ⟨profile, file, hprofile, hfile, hlayered⟩ := hfrom [] options (hoptions [])
  cases hfile
  obtain rfl := hselects.unique hprofile
  have hassigned : assigned? layeredOptions.assignments "a" = none ∧
      assigned? layeredOptions.assignments "b" = some "3" := by decide +kernel
  refine ⟨options, hoptions, ?_, ?_, ?_, ?_⟩
  · rw [hlayered.timezone]
    simp [Layers.setting?, userTable, projectTable, layeredOptions]
  · rw [hlayered.unescape]
    simp [Layers.setting?, layeredOptions]
  · rw [hlayered.params, hassigned.1]
    simp [Layers.param?, nested?, userTable, projectTable]
  · rw [hlayered.params, hassigned.2]
    rfl

end CommandLine

end PromptTemplates
