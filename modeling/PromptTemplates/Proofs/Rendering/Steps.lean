import PromptTemplates.Renderer

/-!
# Steps of rendering

Rendering is a sequence of actions in a store. What a step does is an equation for its run, and a sequence
that fails does so in one of its steps.
-/

namespace PromptTemplates

namespace Renderer

/-- The helpers with their descriptors, if all of them can be described. -/
def describedAs : Entries String Registration → Except Fault (Entries String Descriptor)
  | [] => .ok []
  | (name, entry) :: rest => do
    let d ← entry.describe
    return (name, d) :: (← describedAs rest)

/-- The outcome of an action in a store. -/
def outcomeOf {α : Type} (action : StoreAction α) (store : TemplateStore) (journal : Journal) :
    Except RenderFault α := ((action.run store).run journal).1.1

theorem run_describeNoted (entry : Registration) (journal : Journal) :
    (entry.describeNoted.run.run journal).1 = entry.describe := by
  have hrun : ∀ journal, ((Action.ofExcept entry.describe).run.run journal).1 = entry.describe :=
    fun journal => congrArg (·.1) (Action.run_ofExcept entry.describe journal)
  unfold Registration.describeNoted
  cases entry with
  | handler h =>
    cases hsignature : h.signature.isNone with
    | true =>
      simp only [hsignature]
      exact hrun (.noSignature :: journal)
    | false =>
      simp only [hsignature]
      exact hrun journal
  | described | table | value => exact hrun journal

theorem run_describeAll (helpers : Entries String Registration) (journal : Journal) :
    ((describeAll helpers).run.run journal).1 = describedAs helpers := by
  induction helpers generalizing journal with
  | nil => rfl
  | cons entry rest ih =>
    obtain ⟨name, entry⟩ := entry
    have hdescribe := run_describeNoted entry journal
    unfold describeAll describedAs
    rw [Action.run_bind]
    rcases hrun : entry.describeNoted.run.run journal with ⟨_ | d, journal'⟩
    · rw [hrun] at hdescribe
      rw [← hdescribe]
      rfl
    · have hrest := ih journal'
      rw [hrun] at hdescribe
      rw [← hdescribe]
      simp only [Action.run_bind]
      rcases hall : (describeAll rest).run.run journal' with ⟨_ | ds, journal''⟩
      · rw [hall] at hrest
        rw [← hrest]
        rfl
      · rw [hall] at hrest
        rw [← hrest]
        rfl

theorem run_lift {α : Type} (action : Action α) (store : TemplateStore) (journal : Journal) :
    ((lift action).run store).run journal =
      (((action.run.run journal).1.mapError .ofFault, store), (action.run.run journal).2) := by
  unfold lift ExceptT.run StateT.run
  simp only [bind, StateT.bind]
  rcases action journal with ⟨_ | _, _⟩ <;> rfl

theorem outcomeOf_lift {α : Type} {lifted : Action α} {a : α}
    (h : ∃ store before, outcomeOf (lift lifted) store before = .ok a) :
    ∃ before, (lifted.run.run before).1 = .ok a := by
  obtain ⟨store, before, h⟩ := h
  refine ⟨before, ?_⟩
  unfold outcomeOf at h
  rw [run_lift] at h
  cases hrun : (lifted.run.run before).1 with
  | error fault =>
    rw [hrun] at h
    cases h
  | ok b =>
    rw [hrun] at h
    cases h
    rfl

theorem run_tryCatch {α : Type} (action : StoreAction α) (handle : RenderFault → StoreAction α)
    (store : TemplateStore) (journal : Journal) : ((tryCatch action handle).run store).run journal =
      match (action.run store).run journal with
      | ((.ok a, store), journal) => ((.ok a, store), journal)
      | ((.error fault, store), journal) => ((handle fault).run store).run journal := by
  unfold tryCatch instMonadExceptOfMonadExceptOf
  simp only [tryCatchThe, MonadExceptOf.tryCatch, ExceptT.tryCatch, ExceptT.mk, ExceptT.run, StateT.run,
    bind, StateT.bind]
  rcases action store journal with ⟨⟨_ | _, _⟩, _⟩ <;> rfl

/-- Noting a failure does not change it. -/
theorem outcomeOf_noting {α : Type} (e : Event) (action : StoreAction α) (store : TemplateStore)
    (journal : Journal) :
    outcomeOf (noting e action) store journal = outcomeOf action store journal := by
  unfold outcomeOf noting
  rw [run_tryCatch]
  rcases (action.run store).run journal with ⟨⟨fault | a, store'⟩, journal'⟩
  · dsimp only
    split <;> rfl
  · rfl

theorem run_evaluate (identifier : String) (t : Template) (params : List (Value × Value))
    (functions : Entries String TemplateFunction) (store : TemplateStore) (journal : Journal) :
    ((evaluate identifier t params functions).run store).run journal =
      match (t.render (.map params) functions).run.run journal with
      | (.ok text, journal) => ((.ok text, store), journal)
      | (.error cause, journal) =>
        ((.error (evaluationFault identifier cause), store), evaluationEvent cause :: journal) := by
  unfold evaluate ExceptT.run StateT.run
  simp only [bind, StateT.bind]
  rcases t.render (.map params) functions journal with ⟨_ | _, _⟩ <;> rfl

/-- A sequence succeeds with its second part, from where the first one left off. -/
theorem succeeds_bind {α β : Type} {action : StoreAction α} {next : α → StoreAction β}
    {store : TemplateStore} {journal : Journal} {b : β}
    (h : outcomeOf (action >>= next) store journal = .ok b) : ∃ a store' journal',
      (action.run store).run journal = ((.ok a, store'), journal') ∧
        outcomeOf (next a) store' journal' = .ok b := by
  unfold outcomeOf at h ⊢
  rw [StoreAction.run_bind] at h
  generalize (action.run store).run journal = result at h ⊢
  obtain ⟨⟨fault | a, store'⟩, journal'⟩ := result
  · cases h
  · exact ⟨a, store', journal', rfl, h⟩

theorem succeeds_lift {α β : Type} {action : Action α} {next : α → StoreAction β}
    {store : TemplateStore} {journal : Journal} {b : β}
    (h : outcomeOf (lift action >>= next) store journal = .ok b) : ∃ a journal',
      (action.run.run journal).1 = .ok a ∧ outcomeOf (next a) store journal' = .ok b := by
  obtain ⟨a, store', journal', hrun, hnext⟩ := succeeds_bind h
  rw [run_lift] at hrun
  obtain ⟨hok, rfl⟩ := Prod.mk.inj (Prod.mk.inj hrun).1
  refine ⟨a, journal', ?_, hnext⟩
  cases hvalue : (action.run.run journal).1 with
  | error cause =>
    rw [hvalue] at hok
    cases hok
  | ok value =>
    rw [hvalue] at hok
    cases hok
    rfl

/-! ## Where a sequence fails -/

end Renderer

end PromptTemplates
