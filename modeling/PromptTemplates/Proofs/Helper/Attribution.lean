import PromptTemplates.Helper.Function
import Mathlib.Tactic.Choose

/-!
# Attribution of failures

When a handler fails, the helper that it is registered as leaves an event with its name and the fault,
and its call fails with both. The helpers around it pass this failure on. So an event of this kind can
only be the last one of its sort, and it says how the computation ends. Handlers take part in this as
long as they do not catch what fails in the branches that they render.
-/

namespace PromptTemplates

/-- What a handler does that catches nothing: it gives a value or fails, notes events of its own, and
renders nodes whose parts decide how it goes on. -/
inductive Plan (α : Type) where
  | give (a : α)
  | fail (fault : Fault)
  | note (e : Event) (own : ∀ name cause, e ≠ .helperInvocationFailed name cause) (next : Plan α)
  | enter (nodes : List Node) (scope : Value) (next : List String → Plan α)

namespace Plan

variable {α β : Type}

def run (enter : Enter) : Plan α → Action α
  | give a => pure a
  | fail fault => throw fault
  | note e _ next => do
    PromptTemplates.note e
    next.run enter
  | Plan.enter nodes scope next => do
    let parts ← enter nodes scope
    (next parts).run enter

/-- Goes on with another plan where this one gives a value. -/
def bind (next : α → Plan β) : Plan α → Plan β
  | give a => next a
  | fail fault => fail fault
  | note e own rest => note e own (rest.bind next)
  | Plan.enter nodes scope rest => Plan.enter nodes scope fun parts => (rest parts).bind next

theorem run_bind (enter : Enter) (plan : Plan α) (next : α → Plan β) :
    (plan.bind next).run enter = plan.run enter >>= fun a => (next a).run enter := by
  induction plan with
  | give a => simp [bind, run]
  | fail fault => rfl
  | note e own rest ih => simp [bind, run, ih]
  | enter nodes scope rest ih => simp [bind, run, ih]

end Plan

/-- What is done with a way to render nodes follows a plan. -/
def FollowsPlan {α : Type} (action : Enter → Action α) : Prop :=
  ∃ plan : Plan α, ∀ enter, action enter = plan.run enter

/-- A handler that catches nothing. -/
def Handler.IsTransparent (h : Handler) : Prop :=
  ∀ bound, FollowsPlan fun enter => h.run ⟨bound, enter⟩

namespace FollowsPlan

variable {α β : Type}

theorem pure (a : α) : FollowsPlan fun _ => (Pure.pure a : Action α) := ⟨.give a, fun _ => rfl⟩

theorem throw (fault : Fault) : FollowsPlan fun _ => (MonadExcept.throw fault : Action α) :=
  ⟨.fail fault, fun _ => rfl⟩

theorem ofExcept (result : Except Fault α) : FollowsPlan fun _ => Action.ofExcept result := by
  cases result with
  | ok a => exact pure a
  | error fault => exact throw fault

theorem note {e : Event} (own : ∀ name cause, e ≠ .helperInvocationFailed name cause) :
    FollowsPlan fun _ => (PromptTemplates.note e : Action Unit) := by
  refine ⟨.note e own (.give ()), fun enter => ?_⟩
  simp [Plan.run]

theorem enter (nodes : List Node) (scope : Value) : FollowsPlan fun enter => enter nodes scope := by
  refine ⟨.enter nodes scope .give, fun enter => ?_⟩
  simp [Plan.run]

theorem bind {action : Enter → Action α} {next : α → Enter → Action β} (h : FollowsPlan action)
    (hnext : ∀ a, FollowsPlan (next a)) :
    FollowsPlan fun enter => action enter >>= fun a => next a enter := by
  obtain ⟨plan, hplan⟩ := h
  choose plans hplans using hnext
  refine ⟨plan.bind plans, fun enter => ?_⟩
  dsimp only
  rw [Plan.run_bind, hplan]
  exact congrArg _ (funext fun a => hplans a enter)

end FollowsPlan

/-! ## Calls of helpers -/

variable {name : String} {call : Action Value} {before after : Journal} {fault : Fault}

/-- A fault of the handler is attributed to its helper. -/
theorem run_attributed (hown : ∀ inner cause, fault ≠ .helper inner cause)
    (hcall : call.run.run before = (.error fault, after)) : (attributed name call).run.run before =
      (.error (.helper name fault), .helperInvocationFailed name fault :: after) := by
  unfold attributed
  rw [Action.run_tryCatch, hcall]
  cases fault with
  | helper inner cause => exact absurd rfl (hown inner cause)
  | _ => rfl

/-- A failure of an inner helper is passed on as it is. -/
theorem run_attributed_of_inner {inner : String} {cause : Fault}
    (hcall : call.run.run before = (.error (.helper inner cause), after)) :
    (attributed name call).run.run before = (.error (.helper inner cause), after) := by
  unfold attributed
  rw [Action.run_tryCatch, hcall]
  rfl

theorem run_attributed_of_ok {v : Value} (hcall : call.run.run before = (.ok v, after)) :
    (attributed name call).run.run before = (.ok v, after) := by
  unfold attributed
  rw [Action.run_tryCatch, hcall]

/-- Each failure of a helper that an action notes is one that can have been raised, and is how the action
ends. -/
def Attributes {α : Type} (raised : String → Fault → Prop) (action : Action α) : Prop :=
  ∀ before, ∃ new, (action.run.run before).2 = new ++ before ∧
    ∀ name cause, .helperInvocationFailed name cause ∈ new →
      raised name cause ∧ (action.run.run before).1 = .error (.helper name cause)

/-- The rendering of nodes attributes its failures. -/
def Enter.Attributes (raised : String → Fault → Prop) (enter : Enter) : Prop :=
  ∀ nodes scope, PromptTemplates.Attributes raised (enter nodes scope)

def TemplateFunction.Attributes (raised : String → Fault → Prop) (f : TemplateFunction) : Prop :=
  ∀ this args kwargs enter, Enter.Attributes raised enter →
    PromptTemplates.Attributes raised (f this args kwargs enter)

namespace Attributes

variable {α β : Type} {raised : String → Fault → Prop} {action : Action α} {next : α → Action β}

theorem of_noted (events : List Event) (result : Except Fault α)
    (hown : ∀ e ∈ events, ∀ name cause, e ≠ .helperInvocationFailed name cause)
    (hrun : ∀ before, action.run.run before = (result, events ++ before)) :
    Attributes raised action := by
  intro before
  refine ⟨events, by rw [hrun], fun name cause hmem => ?_⟩
  exact absurd rfl (hown _ hmem name cause)

theorem pure (a : α) : Attributes raised (Pure.pure a : Action α) :=
  of_noted [] (.ok a) (by simp) fun _ => rfl

theorem throw (fault : Fault) : Attributes raised (MonadExcept.throw fault : Action α) :=
  of_noted [] (.error fault) (by simp) fun _ => rfl

theorem failWith (kind : FaultKind) : Attributes raised (Action.failWith kind : Action α) :=
  throw _

theorem ofExcept (result : Except Fault α) : Attributes raised (Action.ofExcept result) :=
  of_noted [] result (by simp) fun before => Action.run_ofExcept result before

theorem note {e : Event} (own : ∀ name cause, e ≠ .helperInvocationFailed name cause) :
    Attributes raised (PromptTemplates.note e : Action Unit) :=
  of_noted [e] (.ok ()) (by simpa using own) fun _ => rfl

/-- An action that gives a value has noted no failure of a helper, so what follows it decides. -/
theorem bind (h : Attributes raised action) (hnext : ∀ a, Attributes raised (next a)) :
    Attributes raised (action >>= next) := by
  intro before
  obtain ⟨new, hjournal, hnew⟩ := h before
  rw [Action.run_bind]
  rcases hrun : action.run.run before with ⟨fault | a, middle⟩
  · rw [hrun] at hjournal hnew
    refine ⟨new, hjournal, fun name cause hmem => ?_⟩
    obtain ⟨hraised, hfault⟩ := hnew name cause hmem
    cases hfault
    exact ⟨hraised, rfl⟩
  · rw [hrun] at hjournal hnew
    dsimp only at hjournal hnew ⊢
    obtain ⟨newer, hjournal', hnewer⟩ := hnext a middle
    refine ⟨newer ++ new, by rw [hjournal', hjournal, List.append_assoc], fun name cause hmem => ?_⟩
    rcases List.mem_append.mp hmem with hmem | hmem
    · exact hnewer name cause hmem
    · cases (hnew name cause hmem).2

theorem ite {condition : Prop} [Decidable condition] {other : Action α} (h : Attributes raised action)
    (hother : Attributes raised other) : Attributes raised (if condition then action else other) := by
  split
  · exact h
  · exact hother

/-- Faults may be caught where those of helpers are passed on. -/
theorem tryCatch {handle : Fault → Action α} (h : Attributes raised action)
    (hhandle : ∀ fault, Attributes raised (handle fault))
    (hpass : ∀ name cause, handle (.helper name cause) = MonadExcept.throw (.helper name cause)) :
    Attributes raised (MonadExcept.tryCatch action handle) := by
  intro before
  obtain ⟨new, hjournal, hnew⟩ := h before
  rw [Action.run_tryCatch]
  rcases hrun : action.run.run before with ⟨fault | a, middle⟩
  · rw [hrun] at hjournal hnew
    dsimp only at hjournal hnew ⊢
    obtain ⟨newer, hjournal', hnewer⟩ := hhandle fault middle
    refine ⟨newer ++ new, by rw [hjournal', hjournal, List.append_assoc], fun name cause hmem => ?_⟩
    rcases List.mem_append.mp hmem with hmem | hmem
    · exact hnewer name cause hmem
    · obtain ⟨hraised, hfault⟩ := hnew name cause hmem
      cases hfault
      exact ⟨hraised, by rw [hpass]; rfl⟩
  · rw [hrun] at hjournal hnew
    exact ⟨new, hjournal, hnew⟩

theorem attributed (h : Attributes raised call)
    (hraised : ∀ before after cause, (∀ inner inmost, cause ≠ .helper inner inmost) →
      call.run.run before = (.error cause, after) → raised name cause) :
    Attributes raised (PromptTemplates.attributed name call) := by
  intro before
  obtain ⟨new, hjournal, hnew⟩ := h before
  rcases hrun : call.run.run before with ⟨fault | v, after⟩
  · rw [hrun] at hjournal hnew
    dsimp only at hjournal hnew
    by_cases hinner : ∃ inner cause, fault = .helper inner cause
    · obtain ⟨inner, cause, rfl⟩ := hinner
      rw [run_attributed_of_inner hrun]
      exact ⟨new, hjournal, hnew⟩
    · have hown : ∀ inner cause, fault ≠ .helper inner cause :=
        fun inner cause heq => hinner ⟨inner, cause, heq⟩
      rw [run_attributed hown hrun]
      refine ⟨.helperInvocationFailed name fault :: new, by rw [hjournal]; rfl, ?_⟩
      intro other cause hmem
      rcases List.mem_cons.mp hmem with heq | hmem
      · cases heq
        exact ⟨hraised before after _ hown hrun, rfl⟩
      · cases (hnew other cause hmem).2
        exact absurd rfl (hown _ _)
  · rw [run_attributed_of_ok hrun]
    rw [hrun] at hjournal hnew
    exact ⟨new, hjournal, hnew⟩

theorem run (plan : Plan α) {enter : Enter} (henter : Enter.Attributes raised enter) :
    Attributes raised (plan.run enter) := by
  induction plan with
  | give a => exact pure a
  | fail fault => exact throw fault
  | note e own rest ih => exact (note own).bind fun _ => ih
  | enter nodes scope rest ih => exact (henter nodes scope).bind fun parts => ih parts

end Attributes

section calls

variable {raised : String → Fault → Prop}

/-- The journal once an invocation is resolved: values that are dropped leave an event. -/
def Descriptor.journalOf (d : Descriptor) (invocation : Invocation) (before : Journal) : Journal :=
  if d.dropsPositional invocation then .positionalDropped :: before else before

theorem Descriptor.run_resolveNoted (d : Descriptor) (invocation : Invocation)
    (surroundings : Option Surroundings) (before : Journal) :
    (liftM (d.resolveNoted invocation surroundings) : Action ResolvedCall).run.run before =
      (.ok (d.resolve invocation surroundings), d.journalOf invocation before) := by
  unfold resolveNoted journalOf
  cases d.dropsPositional invocation <;> rfl

theorem Descriptor.run_toFunction (d : Descriptor) (name : String) (surroundings : Option Surroundings)
    (this : Value) (args : List Value) (kwargs : Named) (enter : Enter) (before : Journal)
    (hthis : kwargs.has "this" = false) :
    let invocation : Invocation := { positional := args, named := kwargs, data := this.scopeData }
    let resolved := d.resolve invocation surroundings
    (d.toFunction name surroundings this args kwargs enter).run.run before =
      (attributed name (d.handler.call resolved.args resolved.kwargs enter)).run.run
        (d.journalOf invocation before) := by
  intro invocation resolved
  unfold toFunction
  rw [hthis]
  -- without a named `this` the call is the resolved one, then that of the handler
  change ((liftM (d.resolveNoted invocation surroundings) : Action ResolvedCall) >>= fun call =>
    attributed name (d.handler.call call.args call.kwargs enter)).run.run before = _
  rw [Action.run_bind, d.run_resolveNoted]

theorem Handler.IsTransparent.attributes_call {h : Handler} (hh : h.IsTransparent) (args : List Value)
    (kwargs : Named) {enter : Enter} (henter : Enter.Attributes raised enter) :
    Attributes raised (h.call args kwargs enter) := by
  unfold Handler.call
  cases h.bind? args kwargs with
  | none => exact .failWith _
  | some bound =>
    obtain ⟨plan, hplan⟩ := hh bound
    have hrun := hplan enter
    dsimp only at hrun ⊢
    rw [hrun]
    exact .run plan henter

/-- The handler of a described helper fails with a fault in some call. -/
def Descriptor.CanRaise (d : Descriptor) (cause : Fault) : Prop :=
  (∀ inner inmost, cause ≠ .helper inner inmost) ∧ ∃ args kwargs enter before after,
    (d.handler.call args kwargs enter).run.run before = (.error cause, after)

theorem Descriptor.attributes_resolveNoted (d : Descriptor) (invocation : Invocation)
    (surroundings : Option Surroundings) :
    Attributes raised (liftM (d.resolveNoted invocation surroundings) : Action ResolvedCall) := by
  refine .of_noted (d.journalOf invocation []) (.ok (d.resolve invocation surroundings)) ?_ ?_
  · unfold journalOf
    split <;> simp
  · intro before
    rw [d.run_resolveNoted]
    unfold journalOf
    split <;> rfl

theorem Descriptor.attributes_toFunction {d : Descriptor} (hd : d.handler.IsTransparent) {name : String}
    (hraised : ∀ cause, d.CanRaise cause → raised name cause) (surroundings : Option Surroundings) :
    (d.toFunction name surroundings).Attributes raised := by
  intro this args kwargs enter henter
  have hcall : ∀ call : ResolvedCall,
      Attributes raised (attributed name (d.handler.call call.args call.kwargs enter)) := by
    intro call
    refine (hd.attributes_call call.args call.kwargs henter).attributed ?_
    intro before after cause hown hrun
    exact hraised cause ⟨hown, call.args, call.kwargs, enter, before, after, hrun⟩
  unfold toFunction
  split
  · exact (Attributes.failWith _).bind fun _ => (d.attributes_resolveNoted _ _).bind hcall
  · exact (d.attributes_resolveNoted _ _).bind hcall

theorem TemplateFunction.Attributes.emitting {f : TemplateFunction} (h : f.Attributes raised) :
    f.emitting.Attributes raised := by
  intro this args kwargs enter henter
  exact (h this args kwargs enter henter).bind fun v => .pure _

end calls

end PromptTemplates
