import PromptTemplates.Proofs.Helper.TameFunctions
import PromptTemplates.Template.Evaluate

/-!
# The evaluation of tame templates

A tame template with tame values writes no angle bracket: its texts have none, its values are escaped, and
what its blocks give is what their branches write.
-/

namespace PromptTemplates

open Text (IsAngleFree)

variable {called : String → Prop}

namespace IsTame

variable {n : Node} {nodes inner : List Node} {inverted : Bool} {name : String} {arguments : Arguments}
  {other : Option (List Node)}

theorem called_of_mem (h : IsTame called nodes) (hn : n ∈ nodes) : ∀ name ∈ n.called, called name :=
  h.called n (nested_subset hn (mem_nested n))

theorem body (h : IsTame called nodes) (hn : .block inverted name arguments inner other ∈ nodes) :
    IsTame called inner := by
  refine h.of_subset fun m hm => nested_subset hn ?_
  cases other with
  | none => exact List.mem_cons_of_mem _ hm
  | some otherwise => exact List.mem_cons_of_mem _ (List.mem_append_left _ hm)

theorem otherwise (h : IsTame called nodes)
    (hn : .block inverted name arguments inner other ∈ nodes) :
    ∀ otherwise ∈ other, IsTame called otherwise := by
  intro otherwise hother
  obtain rfl : other = some otherwise := hother
  exact h.of_subset fun m hm => nested_subset hn (List.mem_cons_of_mem _ (List.mem_append_right _ hm))

end IsTame

/-- A tame value is written without angle brackets where it is escaped. -/
theorem Environment.isAngleFree_write {v : Value} (h : v.IsTame called) :
    IsAngleFree (write true v) := by
  unfold write
  split
  · decide
  · split <;> decide
  · cases h with
    | safe hparts => exact Text.isAngleFree_join hparts
  · exact Text.isAngleFree_escape _

namespace Environment

variable {env : Environment} {scope : Value}

theorem isTame_rootOf (hscope : scope.IsTame called) : (rootOf scope).IsTame called := by
  unfold rootOf
  split
  · cases hscope with
    | scope hcontext hparent hroot => exact hroot
  · exact hscope

theorem isTame_branches {inverted : Bool} {body : List Node} {otherwise : Option (List Node)}
    (hscope : scope.IsTame called) (hbody : IsTame called body)
    (hotherwise : ∀ other ∈ otherwise, IsTame called other) :
    (branches inverted body otherwise (rootOf scope)).IsTame called := by
  have hmain : ∀ nodes ∈ some body, IsTame called nodes := fun _ h => Option.mem_some.mp h ▸ hbody
  unfold branches
  split
  · exact .block hotherwise hmain (isTame_rootOf hscope)
  · exact .block hmain hotherwise (isTame_rootOf hscope)

/-! ## Arguments -/

/-- Tame values without a keyword and with one. -/
def AreTame (called : String → Prop) (values : List Value × Named) : Prop :=
  (∀ v ∈ values.1, v.IsTame called) ∧ ∀ e ∈ values.2, e.2.IsTame called

mutual

theorem yields_argument (hscope : scope.IsTame called)
    (hcall : ∀ name args kwargs, called name → AreTame called (args, kwargs) →
      (env.callNamed scope name args kwargs).Yields Value.IsTameOutput) :
    (a : Argument) → (∀ name ∈ a.called, called name) →
      (env.argument scope a).Yields (Value.IsTame called)
  | .literal l, _ => .pure (Value.carries_ofLiteral l)
  | .path p, _ => .ofExcept fun v hv => TemplatePath.carries_of_resolve hscope hv
  | .call name arguments, hnames => by
    obtain ⟨hname, hrest⟩ := List.forall_mem_cons.mp hnames
    unfold argument
    refine (yields_arguments hscope hcall arguments hrest).bind fun values hvalues => ?_
    exact (hcall name values.1 values.2 hname hvalues).mono fun v hv => hv.isTame

theorem yields_arguments (hscope : scope.IsTame called)
    (hcall : ∀ name args kwargs, called name → AreTame called (args, kwargs) →
      (env.callNamed scope name args kwargs).Yields Value.IsTameOutput) :
    (arguments : List (Option String × Argument)) → (∀ name ∈ calledIn arguments, called name) →
      (env.valuesOf scope arguments).Yields (AreTame called)
  | [], _ => .pure ⟨by simp, by simp⟩
  | (key, a) :: rest, hnames => by
    obtain ⟨hfirst, hrest⟩ := List.forall_mem_append.mp hnames
    unfold valuesOf
    refine (yields_argument hscope hcall a hfirst).bind fun value hvalue => ?_
    refine (yields_arguments hscope hcall rest hrest).bind fun values hvalues => ?_
    cases key with
    | none => exact .pure ⟨List.forall_mem_cons.mpr ⟨hvalue, hvalues.1⟩, hvalues.2⟩
    | some key => exact .pure ⟨hvalues.1, List.forall_mem_cons.mpr ⟨hvalue, hvalues.2⟩⟩

end

variable (hcalled : ∀ name, called name → ∀ f ∈ env.functions.get? name, f.IsTame called)
  (henter : env.enter.IsTame called) (hscope : scope.IsTame called)

include hcalled henter hscope

theorem yields_callNamed {name : String} {args : List Value} {kwargs : Named} (hname : called name)
    (hvalues : AreTame called (args, kwargs)) :
    (env.callNamed scope name args kwargs).Yields Value.IsTameOutput := by
  have hthrow {rest : Unit → Action Value} :
      (Action.failWith .badType >>= rest).Yields Value.IsTameOutput :=
    (Action.Yields.throw (P := fun _ => False) _).bind fun _ hfalse => hfalse.elim
  unfold callNamed
  cases hf : env.functions.get? name with
  | none => exact .ite hthrow (.throw _)
  | some f =>
    exact .ite hthrow
      (hcalled name hname f hf scope args kwargs env.enter hscope hvalues.1 hvalues.2 henter)

variable {arguments : Arguments} (hnames : ∀ name ∈ calledIn arguments, called name)

include hnames

theorem yields_valuesOf : (env.valuesOf scope arguments).Yields (AreTame called) :=
  yields_arguments hscope (fun _ _ _ => yields_callNamed hcalled henter hscope) arguments hnames

theorem yields_apply {f : TemplateFunction} (hf : f.IsTame called) {first : List Value}
    (hfirst : ∀ v ∈ first, v.IsTame called) :
    (env.apply scope f first arguments).Yields Value.IsTameOutput := by
  unfold apply
  refine (yields_valuesOf hcalled henter hscope hnames).bind fun values hvalues => ?_
  exact hf scope _ _ env.enter hscope (List.forall_mem_append.mpr ⟨hfirst, hvalues.1⟩) hvalues.2 henter

theorem yields_settleWith {value : Value} (hvalue : value.IsTame called) :
    (env.settleWith scope value arguments).Yields (Value.IsTame called) := by
  unfold settleWith
  split
  · cases hvalue with
    | method name howner =>
      refine (yields_valuesOf hcalled henter hscope hnames).bind fun values hvalues => ?_
      exact .ofExcept fun v hv => Block.carries_of_callMethod howner hvalues.1 hv
  · exact .pure hvalue

/-! ## Nodes -/

theorem yields_reference {escaped : Bool} {path : TemplatePath}
    (hpath : ∀ name ∈ (Node.reference escaped path arguments).called, called name) :
    (env.reference scope path arguments).Yields (Value.IsTame called) := by
  have hresolve : (Action.ofExcept (TemplatePath.resolve scope path)).Yields (Value.IsTame called) :=
    .ofExcept fun v hv => TemplatePath.carries_of_resolve hscope hv
  unfold reference
  split
  · next name =>
    obtain ⟨hname, hpath⟩ := List.forall_mem_cons.mp hpath
    obtain ⟨hmissing, -⟩ := List.forall_mem_cons.mp hpath
    split
    · next f hf =>
      exact (yields_apply hcalled henter hscope hnames (hcalled name hname f hf) (by simp)).mono
        fun v hv => hv.isTame
    · refine hresolve.bind fun value hvalue => ?_
      split
      · refine .ite (.pure .null) ?_
        split
        · next f hf =>
          refine Action.Yields.mono ?_ fun v (hv : v.IsTameOutput) => hv.isTame
          refine yields_apply hcalled henter hscope hnames (hcalled _ hmissing f hf) ?_
          simpa using Value.Carries.str name
        · exact .throw _
      · exact yields_settleWith hcalled henter hscope hnames hvalue
  · exact hresolve.bind fun value hvalue => yields_settleWith hcalled henter hscope hnames hvalue

theorem yields_block {name : String} {options : Value} (hname : called name)
    (hmissing : called "blockHelperMissing") (hoptions : options.IsTame called) :
    (env.block scope name arguments options).Yields Value.IsTameOutput := by
  unfold block
  split
  · next f hf =>
    refine yields_apply hcalled henter hscope hnames (hcalled name hname f hf) ?_
    simpa using hoptions
  · refine Action.Yields.bind (P := Value.IsTame called)
      (.ofExcept fun v hv => TemplatePath.carries_of_resolve hscope hv) fun value hvalue => ?_
    split
    · next f hf =>
      refine hcalled _ hmissing f hf scope _ _ env.enter hscope ?_ (by simp) henter
      simpa using ⟨hoptions, hvalue⟩
    · exact .throw _

omit hnames

theorem yields_node {nodes : List Node} (hnodes : IsTame called nodes) {n : Node} (hn : n ∈ nodes) :
    (env.node scope n).Yields AreAngleFree := by
  have hown := hnodes.called_of_mem hn
  have hself : n ∈ nestedIn nodes := nested_subset hn (mem_nested n)
  match n with
  | .text s => exact .pure (by simpa [AreAngleFree] using hnodes.texts s hself)
  | .comment => exact .pure (by simp [AreAngleFree])
  | .reference false path arguments => exact absurd (hnodes.escaped _ hself) Bool.false_ne_true
  | .reference true path arguments =>
    have hnames : ∀ name ∈ calledIn arguments, called name := by
      intro name hname
      apply hown name
      unfold Node.called
      split <;> simp_all
    refine (yields_reference hcalled henter hscope hnames hown).bind fun v hv => .pure ?_
    simpa [AreAngleFree] using isAngleFree_write hv
  | .block inverted name arguments body otherwise =>
    obtain ⟨hname, hown⟩ := List.forall_mem_cons.mp hown
    obtain ⟨hmissing, hnames⟩ := List.forall_mem_cons.mp hown
    have hoptions : (branches inverted body otherwise (rootOf scope)).IsTame called :=
      isTame_branches hscope (hnodes.body hn) (hnodes.otherwise hn)
    refine (yields_block hcalled henter hscope hnames hname hmissing hoptions).bind fun v hv => ?_
    refine .ite (.ofExcept fun parts hparts => ?_) (.pure (by simp [AreAngleFree]))
    cases hv with
    | null => cases hparts
    | safe hsafe =>
      cases hparts
      exact hsafe
  | .include template arguments =>
    exact Action.Yields.bind (P := fun _ => True) (fun _ _ _ => trivial) fun _ _ =>
      Action.Yields.bind (P := fun _ => True) (fun _ _ _ => trivial) fun _ _ => .throw _

theorem yields_nodes {nodes : List Node} (hnodes : IsTame called nodes) :
    (env.nodes scope nodes).Yields AreAngleFree := by
  have hall : ∀ ns ⊆ nodes, (env.nodes scope ns).Yields AreAngleFree := by
    intro ns
    induction ns with
    | nil => exact fun _ => .pure (by simp [AreAngleFree])
    | cons n rest ih =>
      intro hns
      obtain ⟨hn, hrest⟩ := List.cons_subset.mp hns
      refine (yields_node hcalled henter hscope hnodes hn).bind fun parts hparts => ?_
      refine (ih hrest).bind fun others hothers => .pure ?_
      exact List.forall_mem_append.mpr ⟨hparts, hothers⟩
  exact hall nodes (List.Subset.refl nodes)

end Environment

namespace Template

variable {functions : Entries String TemplateFunction}

/-- To any depth of blocks: what is rendered inside a block is rendered one level further down. -/
theorem isTame_enter (hcalled : ∀ name, called name → ∀ f ∈ functions.get? name, f.IsTame called)
    (fuel : Nat) : (enter functions fuel).IsTame called := by
  induction fuel with
  | zero => exact fun nodes scope hnodes hscope => .throw _
  | succ fuel ih =>
    exact fun nodes scope hnodes hscope => Environment.yields_nodes hcalled ih hscope hnodes

/-- A tame template that calls functions of its own only writes no angle bracket. -/
theorem yields_render {t : Template} {context : Value} (ht : IsTame called t.nodes)
    (hcontext : context.IsTame called)
    (hcalled : ∀ name, called name → name ≠ "lookup" ∧ name ∉ functions.keys) :
    (t.render context functions).Yields IsAngleFree := by
  have hall : ∀ name, called name → ∀ f ∈ (Entries.putAll Block.functions functions).get? name,
      f.IsTame called := by
    intro name hname f hf
    obtain ⟨hlookup, habsent⟩ := hcalled name hname
    rw [Entries.get?_putAll_of_absent habsent] at hf
    exact Block.isTame_functions _ (Entries.mem_of_get? hf) hlookup
  unfold render
  refine (isTame_enter hall _ _ _ ht (Block.carries_ensureScope hcontext hcontext)).bind
    fun parts hparts => .pure (Text.isAngleFree_join hparts)

end Template

end PromptTemplates
