import PromptTemplates.Journal

/-!
# Outcomes

Actions note events but never read what has been noted, so their results do not depend on the journal
that they start with. Each way of making actions has a rule that says what their result is, and one that
says what holds of the values that they yield.
-/

namespace PromptTemplates

theorem exists_of_bind_eq_ok {ε α β : Type} {result : Except ε α} {next : α → Except ε β} {b : β}
    (h : result >>= next = .ok b) : ∃ a, result = .ok a ∧ next a = .ok b := by
  cases result with
  | error fault => cases h
  | ok a => exact ⟨a, rfl, h⟩

namespace Action

variable {α β : Type} {action : Action α} {result : Except Fault α} {next : α → Action β}
  {after : α → Except Fault β}

/-- Whatever has been noted before, the action has this result. -/
def Gives (action : Action α) (result : Except Fault α) : Prop :=
  ∀ journal, (action.run.run journal).1 = result

namespace Gives

theorem pure (a : α) : Gives (pure a) (.ok a) := fun _ => rfl

theorem throw (fault : Fault) : Gives (throw fault : Action α) (.error fault) := fun _ => rfl

theorem ofExcept (result : Except Fault α) : Gives (Action.ofExcept result) result := fun journal =>
  congrArg (·.1) (run_ofExcept result journal)

theorem bind (h : Gives action result) (hnext : ∀ a, Gives (next a) (after a)) :
    Gives (action >>= next) (result >>= after) := by
  intro journal
  rw [run_bind]
  have hresult := h journal
  rcases hrun : action.run.run journal with ⟨fault | a, journal'⟩
  · rw [hrun] at hresult
    rw [← hresult]
    rfl
  · rw [hrun] at hresult
    rw [← hresult]
    exact hnext a journal'

/-- An action goes on from what the one before it gives. -/
theorem bind_ok {a : α} {result : Except Fault β} (h : Gives action (.ok a))
    (hnext : Gives (next a) result) : Gives (action >>= next) result := by
  intro journal
  rw [run_bind]
  have hresult := h journal
  rcases hrun : action.run.run journal with ⟨fault | b, journal'⟩
  · rw [hrun] at hresult
    cases hresult
  · rw [hrun] at hresult
    cases hresult
    exact hnext journal'

/-- A fault is handled by what has the result for it. -/
theorem tryCatch {handle : Fault → Action α} {handled : Fault → Except Fault α}
    (h : Gives action result) (hhandle : ∀ fault, Gives (handle fault) (handled fault)) :
    Gives (MonadExcept.tryCatch action handle) (result.tryCatch handled) := by
  intro journal
  rw [run_tryCatch]
  have hresult := h journal
  rcases hrun : action.run.run journal with ⟨fault | a, journal'⟩
  · rw [hrun] at hresult
    rw [← hresult]
    exact hhandle fault journal'
  · rw [hrun] at hresult
    rw [← hresult]
    rfl

/-- A noted event changes nothing. -/
theorem note (e : Event) {rest : Action β} {result : Except Fault β} (h : Gives rest result) :
    Gives (note e >>= fun _ => rest : Action β) result := fun journal => h (e :: journal)

theorem lift {logged : Logged α} {a : α} (h : ∀ journal, (logged.run journal).1 = a) :
    Gives (ExceptT.lift logged) (.ok a) := fun journal => by
  change Except.ok (logged.run journal).1 = _
  rw [h]

end Gives

/-- Whatever the action yields satisfies `P`. It may also fail. -/
def Yields (P : α → Prop) (action : Action α) : Prop :=
  ∀ journal a, (action.run.run journal).1 = .ok a → P a

namespace Yields

variable {P P' : α → Prop} {Q : β → Prop}

theorem mono (h : Yields P action) (hP : ∀ a, P a → P' a) : Yields P' action :=
  fun journal a ha => hP a (h journal a ha)

theorem pure {a : α} (h : P a) : Yields P (pure a : Action α) := by
  rintro journal b ⟨⟩
  exact h

theorem throw (fault : Fault) : Yields P (throw fault : Action α) := by
  rintro journal a ⟨⟩

theorem ofExcept {result : Except Fault α} (h : ∀ a, result = .ok a → P a) :
    Yields P (Action.ofExcept result) := by
  intro journal a ha
  rw [run_ofExcept] at ha
  exact h a ha

theorem bind (h : Yields P action) (hnext : ∀ a, P a → Yields Q (next a)) :
    Yields Q (action >>= next) := by
  intro journal b hb
  rw [run_bind] at hb
  rcases hrun : action.run.run journal with ⟨fault | a, journal'⟩
  · rw [hrun] at hb
    cases hb
  · rw [hrun] at hb
    exact hnext a (h journal a (by rw [hrun])) journal' b hb

theorem tryCatch {handle : Fault → Action α} (h : Yields P action)
    (hhandle : ∀ fault, Yields P (handle fault)) : Yields P (MonadExcept.tryCatch action handle) := by
  intro journal a ha
  rw [run_tryCatch] at ha
  rcases hrun : action.run.run journal with ⟨fault | b, journal'⟩
  · rw [hrun] at ha
    exact hhandle fault journal' a ha
  · rw [hrun] at ha
    cases ha
    exact h journal a (by rw [hrun])

theorem ite {condition : Prop} [Decidable condition] {other : Action α} (h : Yields P action)
    (hother : Yields P other) : Yields P (if condition then action else other) := by
  split
  · exact h
  · exact hother

end Yields

end Action

end PromptTemplates
