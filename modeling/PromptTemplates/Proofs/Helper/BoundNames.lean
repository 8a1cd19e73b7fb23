import PromptTemplates.Proofs.Helper.ResolvedCalls
import PromptTemplates.Proofs.Value.ConsistentKeys

/-!
# Declared names and their values

The values by position go one after the other to the declared names that the call gives no value by name,
and what is left of them goes to the handler. Without addresses every name keeps its value; an address
uses up the values of its tokens, which are then missing for the names declared behind it.
-/

namespace PromptTemplates

namespace Descriptor

variable {d : Descriptor} {invocation : Invocation} {surroundings : Option Surroundings}
  {base : Option String} {position : Nat} {first name : String} {names rest : List String}
  {named working : Named} {values : List Value}

/-! ## The table at hand -/

theorem get?_zip (h : name ∈ names) :
    Entries.get? name (names.zip values) = values[names.idxOf name]? := by
  induction names generalizing values with
  | nil => cases h
  | cons first rest ih =>
    cases values with
    | nil => rfl
    | cons value values =>
      by_cases hfirst : first = name
      · simp [Entries.get?, hfirst]
      · have hrest : name ∈ rest := (List.mem_cons.mp h).resolve_left (Ne.symm hfirst)
        have hindex : (first :: rest).idxOf name = rest.idxOf name + 1 := by
          simp [List.idxOf_cons, beq_eq_false_iff_ne.mpr hfirst]
        rw [hindex, List.getElem?_cons_succ, ← ih hrest]
        exact if_neg (by simpa using hfirst)

/-- The value that a call supplies for a declared name: the one by name, or else the one by position at
the place of the name among those that are not given by name. -/
def supplied (d : Descriptor) (invocation : Invocation) (name : String) : Option Value :=
  invocation.named.get? name <|>
    invocation.positional[(d.unfilled invocation.named).idxOf name]?

theorem nodup_unfilled : (d.unfilled named).Nodup := d.params_nodup.filter _

theorem keys_zip_sublist : (Entries.keys (names.zip values)).Sublist names := by
  induction names generalizing values with
  | nil => exact List.Sublist.refl _
  | cons first rest ih =>
    cases values with
    | nil => exact List.nil_sublist _
    | cons value values => exact ih.cons_cons first

/-- The table at hand has what is given by name, and under the other names what is given by position. -/
theorem get?_working_eq : (d.working invocation).get? name = (invocation.named.get? name <|>
    Entries.get? name ((d.unfilled invocation.named).zip invocation.positional)) := by
  have hdistinct : Entries.Distinct ((d.unfilled invocation.named).zip invocation.positional) :=
    Entries.distinct_of_nodup (nodup_unfilled.sublist keys_zip_sublist)
  rw [working, Entries.get?_putAll (Entries.consistent_of_lawful fun _ => True) trivial
    (fun _ _ => trivial) (fun _ _ => trivial) hdistinct]
  cases hnamed : invocation.named.get? name with
  | none => simp
  | some value =>
    have hunfilled : name ∉ d.unfilled invocation.named := by
      simp [unfilled, Entries.has, hnamed]
    have habsent : Entries.get? name ((d.unfilled invocation.named).zip invocation.positional) = none :=
      Entries.get?_eq_none_iff.mpr fun hmem => hunfilled (keys_zip_sublist.subset hmem)
    simp [habsent]

theorem get?_working_of_declared (h : name ∈ d.params) :
    (d.working invocation).get? name = d.supplied invocation name := by
  rw [get?_working_eq, supplied]
  cases hnamed : invocation.named.get? name with
  | some value => rfl
  | none =>
    have hunfilled : name ∈ d.unfilled invocation.named := by
      simp [unfilled, Entries.has, hnamed, h]
    rw [get?_zip hunfilled]

/-! ## Names without addresses -/

/-- The names from a position on are bound in turn: to the value by name, or else to the next value by
position, or else, when there is none left, to the value that is declared for this position. `extra` are
the values by position that are left at the end. -/
inductive Binds (named : Named) (declared : Nat → Value) :
    (position : Nat) → List String → List Value → (bound : Named) → (extra : List Value) → Prop
  | done {position : Nat} {extra : List Value} : Binds named declared position [] extra [] extra
  | byName {position : Nat} {name : String} {rest : List String} {values extra : List Value}
      {bound : Named} {value : Value} (found : named.get? name = some value)
      (tail : Binds named declared (position + 1) rest values bound extra) :
      Binds named declared position (name :: rest) values ((name, value) :: bound) extra
  | byPosition {position : Nat} {name : String} {rest : List String} {values extra : List Value}
      {bound : Named} {value : Value} (absent : named.get? name = none)
      (tail : Binds named declared (position + 1) rest values bound extra) :
      Binds named declared position (name :: rest) (value :: values) ((name, value) :: bound) extra
  | byDeclaration {position : Nat} {name : String} {rest : List String} {extra : List Value}
      {bound : Named} (absent : named.get? name = none)
      (tail : Binds named declared (position + 1) rest [] bound extra) :
      Binds named declared position (name :: rest) [] ((name, declared position) :: bound) extra

theorem defaultFor_eq (position : Nat) :
    d.defaultFor position = ((d.signature.positionals[position]?).bind (·.fallback)).getD .null := by
  rw [defaultFor, defaults, List.getElem?_map]
  cases d.signature.positionals[position]? <;> rfl

theorem normalizeParam_of_plain (h : name ∉ addressNames) (value : Value) :
    normalizeParam base name value working = (value, working) := by
  cases value with
  | str url => simp [normalizeParam, h]
  | _ => rfl

/-- What each name finds in the table is its value by name, or the value by position at its place. -/
theorem binds_bindNames (hnames : ∀ name ∈ names, name ∉ addressNames) (hnodup : names.Nodup)
    (hworking : ∀ name ∈ names, working.get? name = (named.get? name <|>
      Entries.get? name ((names.filter fun n => !named.has n).zip values))) :
    Binds named d.defaultFor position names values (d.bindNames base position names working).1
      (values.drop (names.filter fun n => !named.has n).length) := by
  induction names generalizing position values with
  | nil => exact .done
  | cons first rest ih =>
    obtain ⟨hfirst, hrest⟩ := List.forall_mem_cons.mp hnames
    obtain ⟨hnew, hnodup⟩ := List.nodup_cons.mp hnodup
    obtain ⟨hfound, htail⟩ := List.forall_mem_cons.mp hworking
    cases hnamed : named.get? first with
    | some value =>
      have hunfilled : (first :: rest).filter (fun n => !named.has n) =
          rest.filter fun n => !named.has n := by simp [Entries.has, hnamed]
      rw [hnamed] at hfound
      rw [hunfilled] at htail ⊢
      have hvalue : working.get? first = some value := hfound
      simp only [bindNames, hvalue, normalizeParam_of_plain hfirst]
      exact .byName hnamed (ih hrest hnodup htail)
    | none =>
      have hunfilled : (first :: rest).filter (fun n => !named.has n) =
          first :: rest.filter fun n => !named.has n := by simp [Entries.has, hnamed]
      rw [hunfilled] at hfound htail ⊢
      rw [hnamed] at hfound
      cases values with
      | nil =>
        have hnone : working.get? first = none := hfound
        simp only [bindNames, hnone]
        have hbound := @ih (position + 1) [] hrest hnodup fun name hname => by
          rw [htail name hname, List.zip_nil_right, List.zip_nil_right]
        rw [List.drop_nil] at hbound ⊢
        exact .byDeclaration hnamed hbound
      | cons value values =>
        have hvalue : working.get? first = some value := by
          rw [hfound]
          simp [Entries.get?]
        simp only [bindNames, hvalue, normalizeParam_of_plain hfirst]
        refine .byPosition hnamed (ih hrest hnodup fun name hname => ?_)
        have hne : first ≠ name := fun heq => hnew (heq ▸ hname)
        rw [htail name hname, List.zip_cons_cons, Entries.get?, if_neg (by simpa using hne)]

/-- The surroundings stand among the positional arguments, if these reach that far. -/
theorem args_eq_or_placed :
    (d.resolve invocation surroundings).args = d.positionalArgs invocation surroundings ∨
      ∃ before after, d.positionalArgs invocation surroundings = before ++ after ∧ after ≠ [] ∧
        d.optionsIndex = some before.length ∧ (d.resolve invocation surroundings).args =
          before ++ .helperContext surroundings invocation.data :: after := by
  by_cases hplaced : d.PlacesContext invocation surroundings
  · obtain ⟨i, hi, hlt⟩ := placesContext_iff.mp hplaced
    refine .inr ⟨_, _, (List.take_append_drop i _).symm, ?_, ?_, ?_⟩
    · exact List.ne_nil_of_length_pos (by rw [List.length_drop]; omega)
    · rw [hi, List.length_take_of_le (Nat.le_of_lt hlt)]
    · rw [resolve_of_lt hi hlt]
  · rw [resolve_of_not_placed hplaced]
    exact .inl rfl

/-- Only what is given by name is passed on by name, apart from the surroundings. -/
theorem mem_kwargs {entry : String × Value}
    (h : entry ∈ (d.resolve invocation surroundings).kwargs) :
    entry ∈ invocation.named ∨ entry = (contextParameter, .helperContext surroundings invocation.data) := by
  have hpassed : ∀ entry ∈ d.passedOn invocation surroundings, entry ∈ invocation.named := by
    intro entry hentry
    unfold passedOn at hentry
    split at hentry
    · obtain ⟨hleft, hundeclared⟩ := List.mem_filter.mp hentry
      rcases Entries.mem_putAll (List.mem_filter.mp hleft).1 with hnamed | hpositional
      · exact hnamed
      · have hdeclared : entry.1 ∈ d.params :=
          (List.mem_filter.mp (List.of_mem_zip hpositional).1).1
        simp [has_bindings.mpr hdeclared] at hundeclared
    · cases hentry
  rw [resolve_eq] at h
  split at h
  · unfold placeContext at h
    dsimp only at h
    split at h
    · split at h
      · exact .inl (hpassed entry h)
      · exact (Entries.mem_put h).symm.imp_left (hpassed entry)
    · exact (Entries.mem_put h).symm.imp_left (hpassed entry)
  · exact .inl (hpassed entry h)

/-- The declared names of a call without addresses are bound in turn, and the values by position that are
left reach the handler behind them, if it takes further arguments. -/
theorem resolve_binds (d : Descriptor) (invocation : Invocation) (surroundings : Option Surroundings)
    (hparams : ∀ name ∈ addressNames, name ∉ d.params) :
    let call := d.resolve invocation surroundings
    ∃ extra reaching, Binds invocation.named
        (fun i => ((d.signature.positionals[i]?).bind (·.fallback)).getD .null) 0 d.params
        invocation.positional call.bindings extra ∧
      reaching = call.bindings.map (·.2) ++ (if d.acceptsVarargs then extra else []) ∧
      (call.args = reaching ∨
        ∃ before after, reaching = before ++ after ∧ after ≠ [] ∧
          d.optionsIndex = some before.length ∧
          call.args = before ++ .helperContext surroundings invocation.data :: after) ∧
      ∀ entry ∈ call.kwargs, entry ∈ invocation.named ∨
        entry = (contextParameter, .helperContext surroundings invocation.data) := by
  intro call
  have hbinds : Binds invocation.named d.defaultFor 0 d.params invocation.positional
      (d.bindings invocation surroundings) (d.extraPositional invocation) :=
    binds_bindNames (fun name hname haddress => hparams name haddress hname) d.params_nodup
      fun name _ => get?_working_eq
  have hdeclared : d.defaultFor =
      fun i => ((d.signature.positionals[i]?).bind (·.fallback)).getD .null :=
    funext defaultFor_eq
  rw [hdeclared, ← resolve_bindings] at hbinds
  have hargs : call.args = d.positionalArgs invocation surroundings ∨ _ := args_eq_or_placed
  rw [positionalArgs, ← resolve_bindings] at hargs
  exact ⟨d.extraPositional invocation, _, hbinds, rfl, hargs, fun entry => mem_kwargs⟩

/-- A handler that takes any number of arguments. -/
def rowHandler : Handler where
  signature := some [{ name := "first" }, { name := "second" }, { name := "third" },
    { name := "rest", kind := .variadic }]
  run := fun frame => return frame.get "rest"

def rowDescriptor : Descriptor := ⟨["first", "second", "third"], rowHandler, by decide⟩

def rowCall : Invocation :=
  { positional := [.int 1, .int 2, .int 3], named := [("second", .int 9)] }

/-- The second value by position goes to the third name, as the second one is given by name. -/
theorem resolve_binds_row : (∀ name ∈ addressNames, name ∉ rowDescriptor.params) ∧
    (rowDescriptor.resolve rowCall none).bindings =
      [("first", .int 1), ("second", .int 9), ("third", .int 2)] ∧
    (rowDescriptor.resolve rowCall none).args = [.int 1, .int 9, .int 2, .int 3] := by
  have hparams : ∀ name ∈ addressNames, name ∉ rowDescriptor.params := by decide
  obtain ⟨extra, reaching, hbinds, hreaching, hargs, -⟩ := resolve_binds rowDescriptor rowCall none hparams
  have hbound : ∀ declared bound,
      Binds rowCall.named declared 0 rowDescriptor.params rowCall.positional bound extra →
        bound = [("first", .int 1), ("second", .int 9), ("third", .int 2)] ∧ extra = [.int 3] := by
    intro declared bound hbinds
    cases hbinds with
    | byName found => cases found
    | byPosition _ hbinds =>
      cases hbinds with
      | byPosition absent => cases absent
      | byName found hbinds =>
        cases found
        cases hbinds with
        | byName found => cases found
        | byPosition _ hbinds =>
          cases hbinds
          exact ⟨rfl, rfl⟩
  obtain ⟨hbindings, rfl⟩ := hbound _ _ hbinds
  rw [hbindings] at hreaching
  rcases hargs with hargs | ⟨before, after, -, -, hplaced, -⟩
  · exact ⟨hparams, hbindings, hargs.trans hreaching⟩
  · cases hplaced

/-! ## Names and addresses -/

theorem addressTokens_cons (base : Option String) (first : String) (rest : List String) (working : Named) :
    addressTokens base (first :: rest) working = addressTokens base [first] working ++
      addressTokens base rest (Url.without (addressTokens base [first] working) working) := by
  simp only [addressTokens, List.append_nil]

/-- A name that is bound leaves the table without the tokens of its address to the names behind it. -/
theorem bindNames_cons (d : Descriptor) (base : Option String) (position : Nat) (first : String)
    (rest : List String) (working : Named) : ∃ value,
      (d.bindNames base position (first :: rest) working).1 = (first, value) :: (d.bindNames base
        (position + 1) rest (Url.without (addressTokens base [first] working) working)).1 ∧
      (first ∉ addressNames → value = (working.get? first).getD (d.defaultFor position)) := by
  cases hvalue : working.get? first with
  | none =>
    refine ⟨d.defaultFor position, ?_, fun _ => rfl⟩
    simp [bindNames, addressTokens, hvalue, Url.without_nil]
  | some value =>
    refine ⟨(normalizeParam base first value working).1, ?_, fun hplain => ?_⟩
    · have hleft := normalizeParam_snd base first value working
      simp only [bindNames, addressTokens, hvalue, hleft, List.append_nil]
      cases value <;> rfl
    · rw [normalizeParam_of_plain hplain]
      rfl

/-- A name keeps the value that the table has for it, unless an address that is bound before uses it up. -/
theorem get?_bindNames {i : Nat} (hnodup : names.Nodup) (hname : names[i]? = some name)
    (hplain : name ∉ addressNames) :
    (d.bindNames base position names working).1.get? name =
      some (if name ∈ addressTokens base (names.take i) working then d.defaultFor (position + i)
        else (working.get? name).getD (d.defaultFor (position + i))) := by
  induction names generalizing i position working with
  | nil => cases hname
  | cons first rest ih =>
    obtain ⟨hnew, hnodup⟩ := List.nodup_cons.mp hnodup
    obtain ⟨value, hbound, hvalue⟩ := bindNames_cons d base position first rest working
    rw [hbound, Entries.get?]
    cases i with
    | zero =>
      obtain rfl : first = name := Option.some.inj hname
      rw [if_pos (beq_self_eq_true first), hvalue hplain, List.take_zero, addressTokens,
        if_neg List.not_mem_nil]
      rfl
    | succ i =>
      rw [List.getElem?_cons_succ] at hname
      have hne : first ≠ name := by
        rintro rfl
        exact hnew (List.mem_of_getElem? hname)
      rw [if_neg (by simpa using hne), ih hnodup hname, List.take_succ_cons,
        addressTokens_cons base first (rest.take i), Url.get?_without, Nat.add_right_comm, Nat.add_assoc]
      by_cases hfound : name ∈ addressTokens base [first] working <;> simp [hfound]

theorem get?_kwargs (hname : name ∉ d.params) (hcontext : name ≠ contextParameter) :
    (d.resolve invocation surroundings).kwargs.get? name = d.keptValue invocation surroundings name := by
  have hpassed : (d.passedOn invocation surroundings).get? name =
      d.keptValue invocation surroundings name := by rw [get?_passedOn, if_neg hname]
  by_cases hplaced : d.PlacesContext invocation surroundings
  · obtain ⟨i, hi, hlt⟩ := placesContext_iff.mp hplaced
    rw [resolve_of_lt hi hlt, hpassed]
  · rw [get?_kwargs_of_not_placed hplaced hcontext, hpassed]

/-- A value that a call supplies for a declared name is the value of this name, unless an address that is
declared before it has a token of this name: then the name has its fallback value. What an address that is
declared behind the name uses up does not matter, nor do names that no address uses. Of the values that are
not declared, those that no address uses up are passed on, if the handler takes them. -/
theorem get?_bindings_of_supplied {d : Descriptor} {invocation : Invocation}
    (surroundings : Option Surroundings) {i : Nat} {name : String} {value : Value}
    (hname : d.params[i]? = some name) (hplain : name ∉ addressNames)
    (hvalue : d.supplied invocation name = some value) :
    let call := d.resolve invocation surroundings
    let base := surroundings.bind (·.baseUrl)
    (call.bindings.get? name = some (
        if name ∈ addressTokens base (d.params.take i) (d.working invocation) then d.defaultFor i
        else value)) ∧
      ∀ other, other ∉ d.params → other ≠ contextParameter →
        call.kwargs.get? other = if d.acceptsKwargs ∧
            other ∉ addressTokens base d.params (d.working invocation) then
          invocation.named.get? other else none := by
  intro call base
  refine ⟨?_, fun other hother hcontext => ?_⟩
  · rw [resolve_bindings, bindings, get?_bindNames d.params_nodup hname hplain,
      get?_working_of_declared (List.mem_of_getElem? hname), hvalue, Nat.zero_add]
    rfl
  · rw [get?_kwargs hother hcontext, keptValue, consumed]
    simp only [Bool.and_eq_true, Bool.not_eq_true', List.contains_eq_mem, decide_eq_false_iff_not]
    rfl

/-- A handler with an address between two other parameters. -/
def linkHandler : Handler where
  signature := some [{ name := "id" }, { name := "url" }, { name := "page", fallback := some (.int 1) }]
  run := fun frame => return frame.get "page"

def linkDescriptor : Descriptor := ⟨["id", "url", "page"], linkHandler, by decide⟩

def linkCall : Invocation := { positional := [.int 7, .str "/:id/:page"], named := [("page", .int 2)] }

/-- The address uses up the value of the name behind it, which the call gives by name. -/
theorem get?_bindings_behind_address : linkDescriptor.params[2]? = some "page" ∧ "page" ∉ addressNames ∧
    linkDescriptor.supplied linkCall "page" = some (.int 2) ∧
    (linkDescriptor.resolve linkCall none).bindings.get? "page" = some (.int 1) := by
  refine ⟨rfl, by decide, rfl, ?_⟩
  have hbindings := (@get?_bindings_of_supplied linkDescriptor linkCall none 2 "page" (.int 2) rfl
    (by decide) rfl).1
  rwa [if_pos (by decide +kernel)] at hbindings

/-- A handler with an address before another parameter. -/
def pageHandler : Handler where
  signature := some [{ name := "url" }, { name := "id" }]
  run := fun frame => return frame.get "url"

def pageDescriptor : Descriptor := ⟨["url", "id"], pageHandler, by decide⟩

def pageCall : Invocation := { positional := [.str "/users/:id"], named := [("id", .int 7)] }

/-- A declared name does not get the value that the call gives for it by name. -/
theorem get?_bindings_ne_supplied : pageDescriptor.supplied pageCall "id" = some (.int 7) ∧
    (pageDescriptor.resolve pageCall none).bindings.get? "id" = some .null := by
  refine ⟨rfl, ?_⟩
  have htoken : "id" ∈ addressTokens none (pageDescriptor.params.take 1)
      (pageDescriptor.working pageCall) := by decide +kernel
  have hname : pageDescriptor.params[1]? = some "id" := rfl
  rw [resolve_bindings, bindings, get?_bindNames pageDescriptor.params_nodup hname (by decide)]
  exact congrArg some (if_pos htoken)

end Descriptor

end PromptTemplates
