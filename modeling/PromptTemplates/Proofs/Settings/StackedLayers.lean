import PromptTemplates.Proofs.Rendering.Phases
import PromptTemplates.Proofs.Settings.SettledOptions
import PromptTemplates.Proofs.Value.KeyIdentity

/-!
# Layers of options on top of one another

Putting two layers on top of options, one after the other, is the same as putting them together first. So
the helpers and the parameters of a call come from the highest of its layers that has them: the call
itself, the defaults of the renderer, its options, and the standard helpers.
-/

namespace PromptTemplates

open Entries (Among Consistent Distinct)

namespace OptionLayer

variable {P : Value → Prop} {lower upper layer : OptionLayer}

/-- The parameters of a layer. -/
def entries (layer : OptionLayer) : List (Value × Value) :=
  match layer.params with
  | .map entries => entries
  | _ => []

/-- Two layers as one. A setting of the upper one goes first unless it is null, and parameters and
helpers are put together name by name. -/
def stacked (lower upper : OptionLayer) : OptionLayer where
  directory := RenderOptions.overlay upper.directory lower.directory
  baseUrl := RenderOptions.overlay upper.baseUrl lower.baseUrl
  params := .map (Entries.putAll lower.entries upper.entries)
  helpers := Entries.putAll lower.helpers upper.helpers
  timezone := RenderOptions.overlay upper.timezone lower.timezone
  unescape := RenderOptions.overlay upper.unescape lower.unescape
  now := upper.now <|> lower.now
  formatter := upper.formatter <|> lower.formatter
  unknown := (lower.unknown ++ upper.unknown.filter (!lower.unknown.contains ·)).mergeSort

/-- The parameters of a layer are a mapping or null, and neither they nor the helpers have a key
twice. -/
structure IsTabled (P : Value → Prop) (layer : OptionLayer) : Prop where
  params : layer.params.IsOptionalTable
  keys : Among P layer.entries
  distinct : Distinct layer.entries
  helpers : (Entries.keys layer.helpers).Nodup

theorem unknown_stacked_eq_nil_iff :
    (stacked lower upper).unknown = [] ↔ lower.unknown = [] ∧ upper.unknown = [] := by
  unfold stacked
  rw [← List.length_eq_zero_iff, List.length_mergeSort, List.length_eq_zero_iff, List.append_eq_nil_iff]
  constructor
  · rintro ⟨hlower, hupper⟩
    refine ⟨hlower, ?_⟩
    simpa [hlower] using hupper
  · rintro ⟨hlower, hupper⟩
    simp [hlower, hupper]

end OptionLayer

namespace RenderOptions

variable {P : Value → Prop} {o below : RenderOptions} {layer a b : OptionLayer} {v w : Value}

theorem tableOf_params (h : layer.params.IsOptionalTable) : tableOf layer.params = .ok layer.entries := by
  unfold OptionLayer.entries
  cases hparams : layer.params with
  | null => rfl
  | map entries => rfl
  | _ =>
    rw [hparams] at h
    exact h.elim

theorem overlay_overlay (upper middle lower : Value) :
    overlay upper (overlay middle lower) = overlay (overlay upper middle) lower := by
  unfold overlay
  by_cases h : upper.isNull = true
  · simp [h]
  · simp [h]

/-- A base address that is clean stays as it is. -/
theorem cleanBase_of_clean (h : cleanBase v = .ok w) : cleanBase w = .ok w := by
  cases v with
  | str s =>
    cases h
    exact congrArg Except.ok (trimmedBase_trimmedBase (.str s))
  | _ =>
    unfold cleanBase at h
    dsimp only at h
    split at h
    · cases h
    next hfalsy =>
    cases h
    unfold cleanBase
    dsimp only
    rw [if_neg hfalsy]

/-- A base address can be cleaned before or after the layer above it is put on top. -/
theorem cleanBase_overlay_clean (h : cleanBase v = .ok w) (upper : Value) :
    cleanBase (overlay upper w) = cleanBase (overlay upper v) := by
  unfold overlay
  cases upper.isNull with
  | true => exact (cleanBase_of_clean h).trans h.symm
  | false => rfl

/-- The directory of the upper layer can be put on top before or after that of the lower one. -/
theorem layeredDirectory_stacked (h : layeredDirectory o a = .ok below.directory) :
    layeredDirectory below b = layeredDirectory o (a.stacked b) := by
  unfold layeredDirectory OptionLayer.stacked overlay
  cases hupper : b.directory with
  | null =>
    rw [← h]
    rfl
  | _ => rfl

theorem merged_of_known (o : RenderOptions) (hknown : layer.unknown = [])
    (hparams : layer.params.IsOptionalTable) : o.merged layer =
      layeredDirectory o layer >>= fun directory =>
        cleanBase (overlay layer.baseUrl o.baseUrl) >>= fun baseUrl => .ok
          { directory, baseUrl, params := Entries.putAll o.params layer.entries
            helpers := Entries.putAll o.helpers layer.helpers
            timezone := overlay layer.timezone o.timezone
            unescape := overlay layer.unescape o.unescape
            now := layer.now <|> o.now, formatter := layer.formatter <|> o.formatter } := by
  rw [merged_eq, hknown, tableOf_params hparams]
  rfl

theorem merged_of_unknown (o : RenderOptions) (h : layer.unknown ≠ []) :
    o.merged layer = .error (.config (.unknownOptions layer.unknown)) := by
  rw [merged_eq, if_pos (by simpa using h)]

/-- What putting a layer on top of options that accept it results in. -/
theorem merged_eq_ok (h : o.merged a = .ok below) (hparams : a.params.IsOptionalTable) :
    a.unknown = [] ∧ ∃ directory baseUrl, layeredDirectory o a = .ok directory ∧
      cleanBase (overlay a.baseUrl o.baseUrl) = .ok baseUrl ∧ below =
        { directory, baseUrl, params := Entries.putAll o.params a.entries
          helpers := Entries.putAll o.helpers a.helpers
          timezone := overlay a.timezone o.timezone
          unescape := overlay a.unescape o.unescape
          now := a.now <|> o.now, formatter := a.formatter <|> o.formatter } := by
  have hknown : a.unknown = [] := by
    by_contra hunknown
    rw [merged_of_unknown o hunknown] at h
    cases h
  rw [merged_of_known o hknown hparams] at h
  obtain ⟨directory, hdirectory, h⟩ := exists_of_bind_eq_ok h
  obtain ⟨baseUrl, hbaseUrl, h⟩ := exists_of_bind_eq_ok h
  cases h
  exact ⟨hknown, directory, baseUrl, hdirectory, hbaseUrl, rfl⟩

/-- Putting two layers on top, one after the other, is the same as putting both on top as one. -/
theorem merged_stacked_eq (hP : Consistent P) (ho : Among P o.params) (ha : a.IsTabled P)
    (hb : b.IsTabled P) (hknown : b.unknown = []) (h : o.merged a = .ok below) :
    below.merged b = o.merged (a.stacked b) := by
  obtain ⟨hlower, directory, baseUrl, hdirectory, hbaseUrl, rfl⟩ := merged_eq_ok h ha.params
  have hstacked : (a.stacked b).unknown = [] :=
    OptionLayer.unknown_stacked_eq_nil_iff.mpr ⟨hlower, hknown⟩
  have hparams : Entries.putAll (Entries.putAll o.params a.entries) b.entries =
      Entries.putAll o.params (Entries.putAll a.entries b.entries) :=
    Entries.putAll_assoc hP ho ha.keys hb.keys ha.distinct
  have hhelpers : Entries.putAll (Entries.putAll o.helpers a.helpers) b.helpers =
      Entries.putAll o.helpers (Entries.putAll a.helpers b.helpers) :=
    Entries.putAll_assoc (Entries.consistent_of_lawful fun _ => True) (fun _ _ => trivial)
      (fun _ _ => trivial) (fun _ _ => trivial) (Entries.distinct_of_nodup ha.helpers)
  have hnow : (b.now <|> (a.now <|> o.now)) = ((b.now <|> a.now) <|> o.now) := by
    cases b.now <;> rfl
  have hformatter : (b.formatter <|> (a.formatter <|> o.formatter)) =
      ((b.formatter <|> a.formatter) <|> o.formatter) := by
    cases b.formatter <;> rfl
  rw [merged_of_known _ hknown hb.params, merged_of_known _ hstacked trivial,
    layeredDirectory_stacked hdirectory, cleanBase_overlay_clean hbaseUrl]
  dsimp only
  rw [overlay_overlay, overlay_overlay, overlay_overlay, hparams, hhelpers, hnow, hformatter]
  rfl

theorem exists_layeredDirectory (o : RenderOptions) (h : layer.directory.IsOptionalText) :
    ∃ directory, layeredDirectory o layer = .ok directory := by
  unfold layeredDirectory
  cases hdirectory : layer.directory with
  | null => exact ⟨_, rfl⟩
  | str s => exact ⟨_, rfl⟩
  | _ =>
    rw [hdirectory] at h
    exact h.elim

/-- Options with a base address that is a text accept every layer whose directory and base address are
texts. -/
theorem exists_merged (ho : o.baseUrl.IsOptionalText) (hknown : layer.unknown = [])
    (hparams : layer.params.IsOptionalTable) (hdirectory : layer.directory.IsOptionalText)
    (hbaseUrl : layer.baseUrl.IsOptionalText) : ∃ below, o.merged layer = .ok below := by
  obtain ⟨directory, hdirectory⟩ := exists_layeredDirectory o hdirectory
  rw [merged_of_known o hknown hparams, hdirectory, cleanBase_eq (hbaseUrl.overlay ho)]
  exact ⟨_, rfl⟩

end RenderOptions

namespace Renderer

variable {P : Value → Prop} {r : Renderer} {o options : RenderOptions} {a b layer : OptionLayer}
  {name : String} {key : Value} {readHeader : HeaderReader} {maker : TemplateMaker} {before : Journal}

/-! ## What a call runs -/

/-- The helper of a name in the highest layer that has one: the call, the defaults, the options and the
standard helpers. -/
def helper? (o : RenderOptions) (defaults call : OptionLayer) (name : String) : Option Registration :=
  Entries.get? name call.helpers <|> Entries.get? name defaults.helpers <|>
    Entries.get? name o.helpers <|> (Entries.get? name Standard.helpers).map Registration.handler

/-- The parameter of a key in the highest layer that has one: the call, the defaults and the options. -/
def param? (o : RenderOptions) (defaults call : OptionLayer) (key : Value) : Option Value :=
  Entries.get? key call.entries <|> Entries.get? key defaults.entries <|> Entries.get? key o.params

theorem get?_map_named {α β : Type} (f : String → α → β) (table : Entries String α) :
    Entries.get? name (table.map fun entry => (entry.1, f entry.1 entry.2)) =
      (Entries.get? name table).map (f name) := by
  induction table with
  | nil => rfl
  | cons entry rest ih =>
    obtain ⟨k, v⟩ := entry
    rw [List.map_cons, Entries.get?, Entries.get?, ih]
    by_cases hkey : k = name
    · subst hkey
      simp
    · simp [hkey]

/-- The description of the helper of a name. -/
theorem get?_describedAs {helpers : Entries String Registration} {ds : Entries String Descriptor}
    (h : describedAs helpers = .ok ds) : Entries.get? name ds =
      (Entries.get? name helpers).bind fun entry => entry.describe.toOption := by
  induction helpers generalizing ds with
  | nil =>
    cases h
    rfl
  | cons entry rest ih =>
    obtain ⟨d, hdescribe, h⟩ := exists_of_bind_eq_ok h
    obtain ⟨ds, hrest, h⟩ := exists_of_bind_eq_ok h
    cases h
    rw [Entries.get?, Entries.get?, ih hrest]
    split
    · rw [Option.bind_some, hdescribe]
      rfl
    · rfl

theorem get?_putAll_helpers {lower upper : Entries String Registration}
    (hupper : Entries.Distinct upper) : Entries.get? name (Entries.putAll lower upper) =
      (Entries.get? name upper <|> Entries.get? name lower) :=
  Entries.get?_putAll (Entries.consistent_of_lawful fun _ => True) trivial (fun _ _ => trivial)
    (fun _ _ => trivial) hupper

theorem params_of_resolveOptions (h : r.resolveOptions layer = .ok options)
    (hlayer : layer.params.IsOptionalTable) :
    options.params = Entries.putAll r.options.params layer.entries := by
  unfold resolveOptions at h
  obtain ⟨merged, hmerged, h⟩ := exists_of_bind_eq_ok h
  obtain ⟨-, _, _, -, -, rfl⟩ := RenderOptions.merged_eq_ok hmerged hlayer
  split at h
  · cases h
    rfl
  · obtain ⟨f, -, h⟩ := exists_of_bind_eq_ok h
    cases h
    rfl

theorem get?_helpers_of_make (h : ((make o a readHeader maker).run.run before).1 = .ok r)
    (ho : (Entries.keys o.helpers).Nodup) (ha : a.IsTabled P) :
    Entries.get? name r.options.helpers = ((Entries.get? name a.helpers <|>
      Entries.get? name o.helpers <|> (Entries.get? name Standard.helpers).map Registration.handler).bind
        fun entry => entry.describe.toOption).map .described := by
  obtain ⟨merged, ds, hmerged, hds, rfl⟩ := exists_of_make h
  have hstandard : Entries.get? name (Standard.helpers.map fun entry =>
      (entry.1, Registration.handler entry.2)) =
        (Entries.get? name Standard.helpers).map Registration.handler :=
    get?_map_named (fun _ => Registration.handler) _
  have hhelpers : Entries.get? name (allHelpers merged.helpers) = (Entries.get? name a.helpers <|>
      Entries.get? name o.helpers <|> (Entries.get? name Standard.helpers).map Registration.handler) := by
    have hdistinct : Entries.Distinct (Entries.putAll o.helpers a.helpers) :=
      (Entries.distinct_of_nodup ho).putAll
    unfold allHelpers
    rw [RenderOptions.helpers_of_merged hmerged, get?_putAll_helpers hdistinct,
      get?_putAll_helpers (Entries.distinct_of_nodup ha.helpers), hstandard]
    cases Entries.get? name a.helpers <;> rfl
  rw [← hhelpers, ← get?_describedAs hds]
  exact get?_map_named (fun _ => Registration.described) ds

/-- A description describes itself. -/
theorem bind_describe_described (found : Option Registration) :
    ((found.bind fun entry => entry.describe.toOption).map Registration.described).bind
      (fun entry => entry.describe.toOption) = found.bind fun entry => entry.describe.toOption := by
  cases found.bind fun entry => entry.describe.toOption <;> rfl

/-- What a call finds under a name is the description of the helper of its highest layer. -/
theorem get?_described_of_call (h : ((make o a readHeader maker).run.run before).1 = .ok r)
    (ho : (Entries.keys o.helpers).Nodup) (ha : a.IsTabled P) (hb : b.IsTabled P)
    (hoptions : r.resolveOptions b = .ok options) {ds : Entries String Descriptor}
    (hds : describedAs options.helpers = .ok ds) : Entries.get? name ds =
      (helper? o a b name).bind fun entry => entry.describe.toOption := by
  rw [get?_describedAs hds, helpers_of_resolveOptions hoptions,
    get?_putAll_helpers (Entries.distinct_of_nodup hb.helpers), get?_helpers_of_make h ho ha, helper?]
  cases Entries.get? name b.helpers with
  | some entry => rfl
  | none => exact bind_describe_described _

theorem param_of_call (hP : Consistent P) (hkey : P key)
    (h : ((make o a readHeader maker).run.run before).1 = .ok r) (ho : Among P o.params)
    (ha : a.IsTabled P) (hb : b.IsTabled P) (hoptions : r.resolveOptions b = .ok options) :
    Entries.get? key options.params = param? o a b key := by
  obtain ⟨merged, ds, hmerged, -, rfl⟩ := exists_of_make h
  obtain ⟨-, _, _, -, -, rfl⟩ := RenderOptions.merged_eq_ok hmerged ha.params
  rw [params_of_resolveOptions hoptions hb.params]
  dsimp only
  rw [Entries.get?_putAll hP hkey (ho.putAll ha.keys) hb.keys hb.distinct,
    Entries.get?_putAll hP hkey ho ha.keys ha.distinct]
  rfl

/-- Options are refused because some of them are not known. -/
def RefusesUnknown (result : Except Fault RenderOptions) : Prop :=
  ∃ names, result = .error (.config (.unknownOptions names))

theorem refusesUnknown_of_unknown (o : RenderOptions) (h : layer.unknown ≠ []) :
    RefusesUnknown (o.merged layer) := ⟨_, RenderOptions.merged_of_unknown o h⟩

theorem refusesUnknown_bind (h : a.unknown ≠ [] ∨ b.unknown ≠ [])
    (haccepted : a.unknown = [] → ∃ below, o.merged a = .ok below) :
    RefusesUnknown (o.merged a >>= fun below => below.merged b) := by
  by_cases hlower : a.unknown = []
  · obtain ⟨below, hbelow⟩ := haccepted hlower
    rw [hbelow]
    exact refusesUnknown_of_unknown below (h.resolve_left fun hne => hne hlower)
  · rw [RenderOptions.merged_of_unknown o hlower]
    exact ⟨_, rfl⟩

/-- Two layers can be put on top of options as one. What a call runs under a name, and what it finds
under a key, is that of the highest layer that has it. -/
theorem layers_stacked (hP : Consistent P) (ho : Among P o.params)
    (hhelpers : (Entries.keys o.helpers).Nodup) (ha : a.IsTabled P) (hb : b.IsTabled P) :
    (b.unknown = [] → ∀ below, o.merged a = .ok below →
      below.merged b = o.merged (a.stacked b)) ∧
    (a.unknown = [] → o.baseUrl.IsOptionalText → a.directory.IsOptionalText →
      a.baseUrl.IsOptionalText → ∃ below, o.merged a = .ok below) ∧
    (a.unknown ≠ [] ∨ b.unknown ≠ [] → RefusesUnknown (o.merged (a.stacked b)) ∧
      ((a.unknown = [] → ∃ below, o.merged a = .ok below) →
        RefusesUnknown (o.merged a >>= fun below => below.merged b))) ∧
    ∀ readHeader maker before r, ((make o a readHeader maker).run.run before).1 = .ok r →
      ∀ files store request options t ds, request.layer = b →
        r.Prepared files request store options t ds →
          (∀ name surroundings, Entries.get? name (functions ds surroundings) =
            (helper? o a b name).bind fun entry => entry.describe.toOption.map fun d =>
              (d.toFunction name (some surroundings)).emitting) ∧
          ∀ key, P key → Entries.get? key options.params = param? o a b key := by
  refine ⟨fun hknown below => RenderOptions.merged_stacked_eq hP ho ha hb hknown, ?_, ?_, ?_⟩
  · intro hknown hbase hdirectory hbaseUrl
    exact RenderOptions.exists_merged hbase hknown ha.params hdirectory hbaseUrl
  · intro hunknown
    refine ⟨refusesUnknown_of_unknown o ?_, refusesUnknown_bind hunknown⟩
    intro h
    obtain ⟨hlower, hupper⟩ := OptionLayer.unknown_stacked_eq_nil_iff.mp h
    rcases hunknown with hne | hne
    · exact hne hlower
    · exact hne hupper
  · rintro readHeader maker before r hmake files store request options t ds rfl hprepared
    constructor
    · intro name surroundings
      have hfound : Entries.get? name ds =
          (helper? o a request.layer name).bind fun entry => entry.describe.toOption :=
        get?_described_of_call hmake hhelpers ha hb hprepared.options_eq hprepared.helpers_eq
      have hfunction : Entries.get? name (functions ds surroundings) = (Entries.get? name ds).map
          fun d => (d.toFunction name (some surroundings)).emitting :=
        get?_map_named (fun name d => (d.toFunction name (some surroundings)).emitting) ds
      rw [hfunction, hfound, Option.map_bind]
      rfl
    · intro key hkey
      exact param_of_call hP hkey hmake ho ha hb hprepared.options_eq

/-- A parameter of the options that a call replaces. -/
theorem layers_stacked_greeting :
    let o : RenderOptions := { params := [(.str "greeting", .str "Hello")] }
    let a : OptionLayer := { params := .map [(.str "name", .str "Ann")] }
    let b : OptionLayer := { params := .map [(.str "greeting", .str "Bye")] }
    let t : Template := ⟨"Hi", [.text "Hi"]⟩
    (∃ below, o.merged a = .ok below ∧ below.merged b = o.merged (a.stacked b)) ∧
      ∃ r options ds, ((make o a).run.run []).1 = .ok r ∧
        r.Prepared {} ⟨"Hi", b⟩ { templates := [(⟨"Hi", none⟩, t)] } options t ds ∧
        Entries.get? (.str "greeting") options.params = some (.str "Bye") := by
  intro o a b t
  have hparams : Among Value.IsComparable o.params := by
    simp [Among, Value.IsComparable, o]
  have ha : a.IsTabled Value.IsComparable :=
    ⟨trivial, by simp [Among, Value.IsComparable, OptionLayer.entries, a], List.pairwise_singleton _ _,
      List.nodup_nil⟩
  have hb : b.IsTabled Value.IsComparable :=
    ⟨trivial, by simp [Among, Value.IsComparable, OptionLayer.entries, b], List.pairwise_singleton _ _,
      List.nodup_nil⟩
  obtain ⟨hstacked, haccepted, -, hcall⟩ :=
    layers_stacked consistent_comparable hparams List.nodup_nil ha hb
  obtain ⟨below, hbelow⟩ := haccepted rfl trivial trivial trivial
  refine ⟨⟨below, hbelow, hstacked rfl below hbelow⟩, ?_⟩
  have hmade : ∃ r, ((make o a).run.run []).1 = .ok r := ⟨_, rfl⟩
  obtain ⟨r, hmake⟩ := hmade
  have hprepared : ∃ options ds,
      r.Prepared {} ⟨"Hi", b⟩ { templates := [(⟨"Hi", none⟩, t)] } options t ds := by
    cases hmake
    exact ⟨_, _, rfl, rfl, rfl⟩
  obtain ⟨options, ds, hprepared⟩ := hprepared
  have hparam := (hcall _ _ _ r hmake _ _ _ _ _ _ rfl hprepared).2 (.str "greeting") trivial
  exact ⟨r, options, ds, hmake, hprepared, hparam⟩

/-- A base address that is no text is refused also when a layer above it has one. -/
theorem merged_of_illTyped :
    (RenderOptions.merged {} { baseUrl := .int 5 } >>= fun below =>
      below.merged { baseUrl := .str "https://a.org" }) = .error (.plain .missingAttribute) ∧
      (RenderOptions.merged {} (OptionLayer.stacked { baseUrl := .int 5 }
        { baseUrl := .str "https://a.org" })).map (·.baseUrl) = .ok (.str "https://a.org") := by
  refine ⟨rfl, ?_⟩
  rw [RenderOptions.merged_of_known {} (OptionLayer.unknown_stacked_eq_nil_iff.mpr ⟨rfl, rfl⟩) trivial]
  rfl

end Renderer

end PromptTemplates
