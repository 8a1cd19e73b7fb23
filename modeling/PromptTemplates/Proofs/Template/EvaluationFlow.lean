import PromptTemplates.Template.Evaluate

/-!
# How evaluation is put together

Evaluation is put together of values, faults, the calls of functions and the rendering of branches, one
after the other; a loop catches faults of its items, but not those of helpers. So a property that is kept
by these ways of putting actions together, and that the functions of an environment have, holds of the
evaluation of arguments, references, blocks and whole templates too, to any depth.
-/

namespace PromptTemplates

/-- The property is kept when actions are put together. Faults may be caught where those of helpers are
passed on. -/
structure Composes (P : (α : Type) → Action α → Prop) : Prop where
  pure : ∀ {α : Type} (a : α), P α (pure a)
  throw : ∀ {α : Type} (fault : Fault), P α (throw fault)
  bind : ∀ {α β : Type} {action : Action α} {next : α → Action β}, P α action →
    (∀ a, P β (next a)) → P β (action >>= next)
  tryCatch : ∀ {α : Type} {action : Action α} {handle : Fault → Action α}, P α action →
    (∀ fault, P α (handle fault)) →
    (∀ name cause, handle (.helper name cause) = MonadExcept.throw (.helper name cause)) →
    P α (tryCatch action handle)

variable {P : (α : Type) → Action α → Prop}

/-- The rendering of nodes has the property. -/
def Enter.Keeps (P : (α : Type) → Action α → Prop) (enter : Enter) : Prop :=
  ∀ nodes scope, P _ (enter nodes scope)

/-- The function has the property if the rendering of nodes has it. -/
def TemplateFunction.Keeps (P : (α : Type) → Action α → Prop) (f : TemplateFunction) : Prop :=
  ∀ this args kwargs enter, Enter.Keeps P enter → P _ (f this args kwargs enter)

namespace Composes

variable {α : Type}

theorem failWith (hP : Composes P) (kind : FaultKind) : P α (Action.failWith kind) := hP.throw _

theorem ofExcept (hP : Composes P) (result : Except Fault α) : P α (Action.ofExcept result) := by
  cases result with
  | ok a => exact hP.pure a
  | error fault => exact hP.throw fault

theorem ite {condition : Prop} [Decidable condition] {action other : Action α} (h : P α action)
    (hother : P α other) : P α (if condition then action else other) := by
  split
  · exact h
  · exact hother

end Composes

variable (hP : Composes P)

include hP

namespace Block

variable {enter : Enter}

theorem keeps_renderBranch (henter : Enter.Keeps P enter) (options : Value)
    (branch : Branch) (context : Value) :
    P _ (renderBranch enter options branch context) := by
  unfold renderBranch
  split
  · split
    · exact hP.bind (henter _ _) fun parts => hP.pure _
    · exact hP.bind (henter _ _) fun parts => hP.pure _
    · exact hP.pure _
  · exact hP.failWith _
  · exact hP.failWith _

theorem keeps_renderItems (henter : Enter.Keeps P enter) (this options : Value)
    (count index : Nat) (items : List (Value × Value)) :
    P _ (renderItems enter this options count index items) := by
  induction items generalizing index with
  | nil => exact hP.pure _
  | cons item rest ih =>
    unfold renderItems
    refine hP.bind ?_ fun rendered => hP.bind (ih (index + 1)) fun others => hP.pure _
    refine hP.tryCatch ?_ (fun fault => ?_) fun name cause => rfl
    · exact hP.bind (keeps_renderBranch hP henter options .main _) fun v => hP.ofExcept _
    · split
      · exact hP.pure _
      · exact hP.throw _

theorem keeps_each (henter : Enter.Keeps P enter) (this options context : Value) :
    P _ (each enter this options context) := by
  unfold each
  split
  · exact hP.bind (keeps_renderItems hP henter this options _ _ _) fun parts => hP.pure _
  · exact keeps_renderBranch hP henter options .other this

theorem keeps_sectionOf (henter : Enter.Keeps P enter) (this options context : Value) :
    P _ (sectionOf enter this options context) := by
  unfold sectionOf
  refine hP.bind (hP.ofExcept _) fun context => ?_
  refine Composes.ite (keeps_renderBranch hP henter options .other this) ?_
  split
  · exact keeps_each hP henter this options _
  · exact keeps_each hP henter this options _
  · exact keeps_each hP henter this options _
  · exact keeps_renderBranch hP henter options .main this
  · exact keeps_renderBranch hP henter options .main context

theorem keeps_function {signature : Signature} {run : Frame → Action Value}
    (h : ∀ bound enter, Enter.Keeps P enter → P _ (run ⟨bound, enter⟩)) :
    (function signature run).Keeps P := by
  intro this args kwargs enter henter
  unfold function Handler.call Handler.bind?
  dsimp only
  split
  · exact h _ enter henter
  · exact hP.failWith _

theorem keeps_blockFunction {run : Enter → (this options context : Value) → Action Value}
    (h : ∀ enter, Enter.Keeps P enter → ∀ this options context,
      P _ (run enter this options context)) : (blockFunction run).Keeps P :=
  keeps_function hP fun _ enter henter => h enter henter _ _ _

theorem keeps_functions : ∀ entry ∈ functions, entry.2.Keeps P := by
  intro entry hentry
  simp only [functions, List.mem_cons, List.not_mem_nil, or_false] at hentry
  rcases hentry with rfl | rfl | rfl | rfl | rfl | rfl | rfl | rfl
  · refine keeps_function hP fun bound enter henter => ?_
    split
    · exact hP.throw _
    · exact hP.pure _
  · exact keeps_blockFunction hP fun enter henter => keeps_sectionOf hP henter
  · exact keeps_blockFunction hP fun enter henter => keeps_each hP henter
  · dsimp only
    refine keeps_blockFunction hP fun enter henter this options context => ?_
    exact hP.bind (hP.ofExcept _) fun context => keeps_renderBranch hP henter options _ this
  · dsimp only
    refine keeps_blockFunction hP fun enter henter this options context => ?_
    exact Composes.ite (hP.pure _) (keeps_renderBranch hP henter options .main this)
  · dsimp only
    refine keeps_blockFunction hP fun enter henter this options context => ?_
    exact hP.bind (hP.ofExcept _) fun context => keeps_renderBranch hP henter options .main context
  · exact keeps_function hP fun bound enter henter => hP.pure _
  · exact keeps_function hP fun bound enter henter => hP.pure _

end Block

/-! ## Environments -/

namespace Environment

mutual

theorem keeps_argument {env : Environment} {scope : Value}
    (hcall : ∀ name args kwargs, P _ (env.callNamed scope name args kwargs)) :
    (a : Argument) → P _ (env.argument scope a)
  | .literal l => hP.pure _
  | .path p => hP.ofExcept _
  | .call name arguments => by
    unfold argument
    exact hP.bind (keeps_arguments hcall arguments) fun values => hcall name values.1 values.2

theorem keeps_arguments {env : Environment} {scope : Value}
    (hcall : ∀ name args kwargs, P _ (env.callNamed scope name args kwargs)) :
    (arguments : List (Option String × Argument)) → P _ (env.valuesOf scope arguments)
  | [] => hP.pure _
  | (key, a) :: rest => by
    unfold valuesOf
    refine hP.bind (keeps_argument hcall a) fun value => ?_
    refine hP.bind (keeps_arguments hcall rest) fun values => ?_
    cases key <;> exact hP.pure _

end

variable {env : Environment} (hfunctions : ∀ entry ∈ env.functions, entry.2.Keeps P)
  (henter : Enter.Keeps P env.enter)

include hfunctions henter

omit hP in
theorem keeps_function {name : String} {f : TemplateFunction}
    (h : env.functions.get? name = some f) (scope : Value) (args : List Value) (kwargs : Named) :
    P _ (f scope args kwargs env.enter) :=
  hfunctions _ (Entries.mem_of_get? h) scope args kwargs env.enter henter

theorem keeps_callNamed (scope : Value) (name : String) (args : List Value) (kwargs : Named) :
    P _ (env.callNamed scope name args kwargs) := by
  unfold callNamed
  refine Composes.ite (hP.bind (hP.failWith _) fun _ => ?_) ?_
  all_goals
    split
    · next f hf => exact keeps_function hfunctions henter hf scope args kwargs
    · exact hP.throw _

theorem keeps_valuesOf (scope : Value) (arguments : Arguments) :
    P _ (env.valuesOf scope arguments) :=
  keeps_arguments hP (keeps_callNamed hP hfunctions henter scope) arguments

theorem keeps_apply {name : String} {f : TemplateFunction} (h : env.functions.get? name = some f)
    (scope : Value) (first : List Value) (arguments : Arguments) :
    P _ (env.apply scope f first arguments) := by
  unfold apply
  refine hP.bind (keeps_valuesOf hP hfunctions henter scope arguments) fun values => ?_
  exact keeps_function hfunctions henter h scope _ _

theorem keeps_settleWith (scope value : Value) (arguments : Arguments) :
    P _ (env.settleWith scope value arguments) := by
  unfold settleWith
  split
  · exact hP.bind (keeps_valuesOf hP hfunctions henter scope arguments) fun values => hP.ofExcept _
  · exact hP.pure _

theorem keeps_reference (scope : Value) (path : TemplatePath) (arguments : Arguments) :
    P _ (env.reference scope path arguments) := by
  have hsettle := keeps_settleWith hP hfunctions henter scope
  unfold reference
  split
  · next name =>
    split
    · next f hf => exact keeps_apply hP hfunctions henter hf scope [] arguments
    · refine hP.bind (hP.ofExcept _) fun value => ?_
      split
      · refine Composes.ite (hP.pure _) ?_
        split
        · next f hf => exact keeps_apply hP hfunctions henter hf scope [.str name] arguments
        · exact hP.throw _
      · exact hsettle _ arguments
  · exact hP.bind (hP.ofExcept _) fun value => hsettle value arguments

theorem keeps_block (scope : Value) (name : String) (arguments : Arguments) (options : Value) :
    P _ (env.block scope name arguments options) := by
  unfold block
  split
  · next f hf => exact keeps_apply hP hfunctions henter hf scope [options] arguments
  · refine hP.bind (hP.ofExcept _) fun value => ?_
    split
    · next f hf => exact keeps_function hfunctions henter hf scope _ _
    · exact hP.throw _

theorem keeps_node (scope : Value) (n : Node) : P _ (env.node scope n) := by
  match n with
  | .text s => exact hP.pure _
  | .comment => exact hP.pure _
  | .reference escaped path arguments =>
    exact hP.bind (keeps_reference hP hfunctions henter scope path arguments) fun value => hP.pure _
  | .block inverted name arguments body otherwise =>
    refine hP.bind (keeps_block hP hfunctions henter scope name arguments _) fun result => ?_
    exact Composes.ite (hP.ofExcept _) (hP.pure _)
  | .include template arguments =>
    refine hP.bind (keeps_valuesOf hP hfunctions henter scope _) fun _ => ?_
    have hcall := keeps_callNamed hP hfunctions henter scope
    refine hP.bind (keeps_argument hP hcall template) fun name => ?_
    exact hP.throw _

theorem keeps_nodes (scope : Value) (ns : List Node) : P _ (env.nodes scope ns) := by
  induction ns with
  | nil => exact hP.pure _
  | cons n rest ih =>
    refine hP.bind (keeps_node hP hfunctions henter scope n) fun parts => ?_
    exact hP.bind ih fun others => hP.pure _

end Environment

namespace Template

/-- To any depth of blocks: what is rendered inside a block is rendered one level further down. -/
theorem keeps_enter {functions : Entries String TemplateFunction}
    (hfunctions : ∀ entry ∈ functions, entry.2.Keeps P) (fuel : Nat) :
    Enter.Keeps P (enter functions fuel) := by
  induction fuel with
  | zero => exact fun nodes scope => hP.failWith _
  | succ fuel ih => exact fun nodes scope => Environment.keeps_nodes hP hfunctions ih scope nodes

theorem keeps_render (t : Template) (context : Value) {functions : Entries String TemplateFunction}
    (hfunctions : ∀ entry ∈ functions, entry.2.Keeps P) :
    P _ (t.render context functions) := by
  have hall : ∀ entry ∈ Entries.putAll Block.functions functions, entry.2.Keeps P := by
    intro entry hentry
    rcases Entries.mem_putAll hentry with hentry | hentry
    · exact Block.keeps_functions hP entry hentry
    · exact hfunctions entry hentry
  unfold render
  exact hP.bind (keeps_enter hP hall _ _ _) fun parts => hP.pure _

end Template

end PromptTemplates
