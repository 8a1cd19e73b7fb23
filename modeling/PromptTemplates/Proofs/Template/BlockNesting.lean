import PromptTemplates.Proofs.Template.TagReading

/-!
# Well-nested blocks

The check of a source is a stack machine over its tags. It accepts the sources whose tags are derived
by a grammar of nested blocks, and otherwise it reports the first tag that no text after it can mend,
or the innermost of the blocks that are still open at the end.
-/

namespace PromptTemplates.Nesting

open Tag

/-- Tags in which every block that is opened is closed by its own name, with nested blocks between. -/
inductive WellNested : List LocatedTag → Prop
  | nil : WellNested []
  | leaf {line tags} : WellNested tags → WellNested (⟨.leaf, line⟩ :: tags)
  | block {name line body line' tags} : WellNested body → WellNested tags →
      WellNested (⟨.opening name, line⟩ :: (body ++ ⟨.closing name, line'⟩ :: tags))

/-- Tags that open the given blocks, the innermost first, and close every other block they open. -/
inductive LeavesOpen : List LocatedTag → List OpenBlock → Prop
  | nested {tags} : WellNested tags → LeavesOpen tags []
  | opened {outer inner name line blocks} : LeavesOpen outer blocks → WellNested inner →
      LeavesOpen (outer ++ ⟨.opening name, line⟩ :: inner) (⟨name, line⟩ :: blocks)

/-- The leftmost violation in a sequence of tags. -/
inductive FirstFault : List LocatedTag → NestingFault → Prop
  | unterminated {front blocks line rest} : LeavesOpen front blocks →
      FirstFault (front ++ ⟨.unterminated, line⟩ :: rest) (.unterminated line)
  | notOpen {front name line rest} : LeavesOpen front [] →
      FirstFault (front ++ ⟨.closing name, line⟩ :: rest) (.notOpen name line)
  | mismatched {front block blocks name line rest} : LeavesOpen front (block :: blocks) →
      name ≠ block.name → FirstFault (front ++ ⟨.closing name, line⟩ :: rest)
        (.mismatched name line block.name block.line)
  | neverClosed {tags block blocks} : LeavesOpen tags (block :: blocks) →
      FirstFault tags (.neverClosed block.name block.line)

variable {tags tags' front rest : List LocatedTag} {opened blocks : List OpenBlock}

theorem WellNested.append (h : WellNested tags) (h' : WellNested tags') :
    WellNested (tags ++ tags') := by
  induction h with
  | nil => exact h'
  | leaf _ ih => exact .leaf ih
  | block hbody _ _ ih =>
    rw [List.cons_append, List.append_assoc, List.cons_append]
    exact .block hbody ih

theorem WellNested.terminated (h : WellNested tags) : ∀ t ∈ tags, t.tag ≠ .unterminated := by
  induction h with
  | nil => simp
  | leaf _ ih => simpa using ih
  | block _ _ ihbody ih =>
    simp only [List.mem_cons, List.mem_append]
    rintro t (rfl | ht | rfl | ht)
    · exact Tag.noConfusion
    · exact ihbody t ht
    · exact Tag.noConfusion
    · exact ih t ht

theorem LeavesOpen.append (h : LeavesOpen tags blocks) (h' : WellNested tags') :
    LeavesOpen (tags ++ tags') blocks := by
  cases h with
  | nested hnested => exact .nested (hnested.append h')
  | opened houter hinner =>
    rw [List.append_assoc, List.cons_append]
    exact .opened houter (hinner.append h')

/-- A closing tag of the innermost open block closes it. -/
theorem LeavesOpen.close {block : OpenBlock} (line : Nat) (h : LeavesOpen tags (block :: blocks)) :
    LeavesOpen (tags ++ [⟨.closing block.name, line⟩]) blocks := by
  cases h with
  | opened houter hinner =>
    rw [List.append_assoc, List.cons_append]
    exact houter.append (.block hinner .nil)

/-- Tags that leave blocks open can be continued so that all their blocks are closed. -/
theorem LeavesOpen.exists_wellNested (h : LeavesOpen tags blocks) :
    ∃ rest, WellNested (tags ++ rest) := by
  induction blocks generalizing tags with
  | nil =>
    cases h with
    | nested hnested => exact ⟨[], by simpa using hnested⟩
  | cons block blocks ih =>
    obtain ⟨rest, hrest⟩ := ih (h.close 0)
    exact ⟨_, by simpa using hrest⟩

/-! ## The stack machine -/

theorem checkFrom_of_wellNested (h : WellNested tags) :
    checkFrom opened (tags ++ rest) = checkFrom opened rest := by
  induction h generalizing opened rest with
  | nil => rfl
  | leaf _ ih => rw [List.cons_append, checkFrom_leaf, ih]
  | block _ _ ihbody ih =>
    rw [List.cons_append, checkFrom_opening, List.append_assoc, ihbody, List.cons_append,
      checkFrom_closing, if_pos rfl, ih]

theorem checkFrom_of_leavesOpen (h : LeavesOpen front blocks) :
    checkFrom [] (front ++ rest) = checkFrom blocks rest := by
  induction h generalizing rest with
  | nested hnested => exact checkFrom_of_wellNested hnested
  | opened _ hinner ih =>
    rw [List.append_assoc, ih, List.cons_append, checkFrom_opening, checkFrom_of_wellNested hinner]

theorem checkFrom_of_firstFault {fault : NestingFault} (h : FirstFault tags fault) :
    checkFrom [] tags = .error fault := by
  cases h with
  | unterminated hfront => rw [checkFrom_of_leavesOpen hfront, checkFrom_unterminated]
  | notOpen hfront =>
    rw [checkFrom_of_leavesOpen hfront]
    rfl
  | mismatched hfront hname =>
    rw [checkFrom_of_leavesOpen hfront, checkFrom_closing, if_neg hname]
  | neverClosed htags =>
    have hend : checkFrom [] (tags ++ []) = checkFrom _ [] := checkFrom_of_leavesOpen htags
    rwa [List.append_nil] at hend

/-- What holds of tags that the machine accepts or rejects. -/
def Judged (tags : List LocatedTag) : Except NestingFault Unit → Prop
  | .ok () => WellNested tags
  | .error fault => FirstFault tags fault

/-- The blocks that the machine holds open are those that the tags before leave open. -/
theorem judged_of_leavesOpen (h : LeavesOpen front blocks) :
    Judged (front ++ rest) (checkFrom blocks rest) := by
  -- each tag that is read moves from `rest` to `front`
  induction rest generalizing front blocks with
  | nil =>
    rw [List.append_nil]
    cases blocks with
    | nil =>
      cases h with
      | nested hnested => exact hnested
    | cons block blocks => exact .neverClosed h
  | cons t rest ih =>
    have hstep : ∀ {blocks'}, LeavesOpen (front ++ [t]) blocks' →
        Judged (front ++ t :: rest) (checkFrom blocks' rest) := fun h' => by simpa using ih h'
    obtain ⟨tag, line⟩ := t
    cases tag with
    | leaf =>
      rw [checkFrom_leaf]
      exact hstep (h.append (.leaf .nil))
    | opening name =>
      rw [checkFrom_opening]
      exact hstep (.opened h .nil)
    | unterminated =>
      rw [checkFrom_unterminated]
      exact .unterminated h
    | closing name =>
      cases blocks with
      | nil => exact .notOpen h
      | cons block blocks =>
        rw [checkFrom_closing]
        by_cases hname : name = block.name
        · subst hname
          simpa using hstep (h.close line)
        · rw [if_neg hname]
          exact .mismatched h hname

theorem judged_checkFrom (tags : List LocatedTag) : Judged tags (checkFrom [] tags) :=
  judged_of_leavesOpen (.nested .nil)

theorem checkFrom_eq_ok_iff : checkFrom [] tags = .ok () ↔ WellNested tags := by
  constructor
  · intro hok
    have := judged_checkFrom tags
    rwa [hok] at this
  · intro h
    have hend : checkFrom [] (tags ++ []) = checkFrom [] [] := checkFrom_of_wellNested h
    rw [List.append_nil] at hend
    exact hend

theorem checkFrom_eq_error_iff {fault : NestingFault} :
    checkFrom [] tags = .error fault ↔ FirstFault tags fault := by
  constructor
  · intro herror
    have := judged_checkFrom tags
    rwa [herror] at this
  · exact checkFrom_of_firstFault

theorem FirstFault.append {fault : NestingFault} (h : FirstFault tags fault) :
    FirstFault (tags ++ rest) fault ∨ ∃ blocks, LeavesOpen tags blocks := by
  cases h with
  | unterminated hfront =>
    rw [List.append_assoc, List.cons_append]
    exact .inl (.unterminated hfront)
  | notOpen hfront =>
    rw [List.append_assoc, List.cons_append]
    exact .inl (.notOpen hfront)
  | mismatched hfront hname =>
    rw [List.append_assoc, List.cons_append]
    exact .inl (.mismatched hfront hname)
  | neverClosed htags => exact .inr ⟨_, htags⟩

/-- Tags have no violation yet exactly when they can be continued to well-nested ones. -/
theorem exists_leavesOpen_iff :
    (∃ blocks, LeavesOpen tags blocks) ↔ ∃ rest, WellNested (tags ++ rest) := by
  constructor
  · rintro ⟨blocks, h⟩
    exact h.exists_wellNested
  · rintro ⟨rest, h⟩
    cases hcheck : checkFrom [] tags with
    | ok => exact ⟨[], .nested (checkFrom_eq_ok_iff.mp hcheck)⟩
    | error fault =>
      rcases (checkFrom_eq_error_iff.mp hcheck).append with hfault | hopen
      · have hok := checkFrom_eq_ok_iff.mpr h
        rw [checkFrom_of_firstFault hfault] at hok
        cases hok
      · exact hopen

/-- The machine stops at the first tag that does not end. -/
theorem checkFrom_untilUnterminated :
    checkFrom opened (untilUnterminated tags) = checkFrom opened tags := by
  induction tags generalizing opened with
  | nil => rfl
  | cons t tags ih =>
    obtain ⟨tag, line⟩ := t
    cases tag with
    | unterminated => cases opened <;> rfl
    | leaf => simp [untilUnterminated, checkFrom_leaf, ih]
    | opening name => simp [untilUnterminated, checkFrom_opening, ih]
    | closing name =>
      cases opened with
      | nil => rfl
      | cons block opened => simp [untilUnterminated, checkFrom_closing, ih]

/-- Every source has tags, and for its tags, however they are read, it is accepted exactly when each of
them ends and they are well nested; otherwise the leftmost violation is reported. -/
theorem check_iff_wellNested (source : String) :
    (∃ tags, Reads [] source.toList tags) ∧ ∀ tags, Reads [] source.toList tags →
      (check source = .ok () ↔ (∀ t ∈ tags, t.tag ≠ .unterminated) ∧ WellNested tags) ∧
      ∀ fault, check source = .error fault ↔ FirstFault tags fault := by
  refine ⟨exists_reads [] source.toList, fun tags htags => ?_⟩
  have hcheck : check source = checkFrom [] tags := by
    rw [check, scan_of_reads htags, checkFrom_untilUnterminated]
  rw [hcheck]
  refine ⟨?_, fun fault => checkFrom_eq_error_iff⟩
  rw [checkFrom_eq_ok_iff]
  exact ⟨fun h => ⟨h.terminated, h⟩, fun h => h.2⟩

end PromptTemplates.Nesting
