import PromptTemplates.Proofs.Helper.StandardPlans
import PromptTemplates.Proofs.Journal.Outcomes
import PromptTemplates.Proofs.Template.EvaluationFlow

/-!
# Steady computations

A computation is steady if its result does not depend on what has been noted before. Handlers that are
functions of the values they are bound to make steady template functions, and so the evaluation of a
template with such functions is steady.
-/

namespace PromptTemplates

/-- The result is the same whatever has been noted before. -/
def Action.IsSteady {α : Type} (action : Action α) : Prop := ∃ result, action.Gives result

/-- The rendering of nodes is steady. -/
abbrev Enter.IsSteady (enter : Enter) : Prop := enter.Keeps fun _ action => action.IsSteady

/-- A handler whose result follows from what it is bound to, as far as that of the branches that it
renders does. -/
def Handler.IsSteady (h : Handler) : Prop :=
  ∀ bound enter, Enter.IsSteady enter → (h.run ⟨bound, enter⟩).IsSteady

/-- The helper of this registration has a steady handler. -/
def Registration.IsSteady (entry : Registration) : Prop :=
  ∀ d, entry.describe = .ok d → d.handler.IsSteady

namespace Action

variable {α β : Type}

theorem IsSteady.bind {action : Action α} {next : α → Action β} (h : action.IsSteady)
    (hnext : ∀ a, (next a).IsSteady) : (action >>= next).IsSteady := by
  obtain ⟨result, h⟩ := h
  choose after hafter using hnext
  exact ⟨result >>= after, h.bind hafter⟩

theorem IsSteady.tryCatch {action : Action α} {handle : Fault → Action α} (h : action.IsSteady)
    (hhandle : ∀ fault, (handle fault).IsSteady) : (MonadExcept.tryCatch action handle).IsSteady := by
  obtain ⟨result, h⟩ := h
  choose handled hhandled using hhandle
  exact ⟨_, h.tryCatch hhandled⟩

theorem isSteady_composes : Composes fun _ action => action.IsSteady where
  pure a := ⟨.ok a, .pure a⟩
  throw fault := ⟨.error fault, .throw fault⟩
  bind := .bind
  tryCatch h hhandle _ := h.tryCatch hhandle

theorem IsSteady.note (e : Event) {rest : Action α} (h : rest.IsSteady) :
    (PromptTemplates.note e >>= fun _ => rest : Action α).IsSteady := by
  obtain ⟨result, h⟩ := h
  exact ⟨result, h.note e⟩

theorem IsSteady.attributed {name : String} {call : Action Value} (h : call.IsSteady) :
    (attributed name call).IsSteady := by
  refine h.tryCatch fun fault => ?_
  cases fault with
  | helper inner cause => exact isSteady_composes.throw _
  | _ => exact .note _ (isSteady_composes.throw _)

end Action

theorem Handler.IsSteady.call {h : Handler} (hh : h.IsSteady) (args : List Value) (kwargs : Named)
    {enter : Enter} (henter : Enter.IsSteady enter) : (h.call args kwargs enter).IsSteady := by
  unfold Handler.call
  cases h.bind? args kwargs with
  | none => exact Action.isSteady_composes.failWith _
  | some bound => exact hh bound enter henter

end PromptTemplates
