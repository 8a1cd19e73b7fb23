import PromptTemplates.Proofs.Text.FirstOccurrence

/-!
# Trimming

A text is blanks, a text without blanks at its ends, and blanks again. Trimming finds the middle part,
which these conditions determine.
-/

namespace PromptTemplates.Text

/-- All characters of a text are blank. -/
def AllBlank (s : List Char) : Prop := ∀ c ∈ s, isBlank c = true

/-- A text neither begins nor ends with a blank. -/
structure IsTrimmed (s : List Char) : Prop where
  head : ∀ c ∈ s.head?, isBlank c = false
  last : ∀ c ∈ s.getLast?, isBlank c = false

variable {p : Char → Bool} {s t front back : List Char}

theorem allBlank_nil : AllBlank [] := fun _ hc => absurd hc List.not_mem_nil

theorem allBlank_of_all (h : s.all isBlank = true) : AllBlank s := List.all_eq_true.mp h

theorem AllBlank.append (h : AllBlank s) (h' : AllBlank t) : AllBlank (s ++ t) := fun c hc =>
  (List.mem_append.mp hc).elim (h c) (h' c)

theorem dropEndWhile_cons {c : Char} : dropEndWhile p (c :: s) =
    if (dropEndWhile p s).isEmpty && p c then [] else c :: dropEndWhile p s := rfl

theorem exists_dropEndWhile_append (p : Char → Bool) (s : List Char) :
    ∃ back, s = dropEndWhile p s ++ back ∧ ∀ c ∈ back, p c = true := by
  induction s with
  | nil => exact ⟨[], rfl, by simp⟩
  | cons c s ih =>
    obtain ⟨back, hs, hback⟩ := ih
    rw [dropEndWhile_cons]
    by_cases hdrop : ((dropEndWhile p s).isEmpty && p c) = true
    · rw [if_pos hdrop]
      rw [Bool.and_eq_true, List.isEmpty_iff] at hdrop
      rw [hdrop.1, List.nil_append] at hs
      refine ⟨c :: s, rfl, ?_⟩
      rw [hs]
      simpa using ⟨hdrop.2, hback⟩
    · rw [if_neg hdrop]
      exact ⟨back, by rw [List.cons_append, ← hs], hback⟩

theorem getLast?_dropEndWhile (p : Char → Bool) (s : List Char) :
    ∀ c ∈ (dropEndWhile p s).getLast?, p c = false := by
  induction s with
  | nil => simp [dropEndWhile]
  | cons d s ih =>
    rw [dropEndWhile_cons]
    split
    · simp
    · next hkeep =>
      cases hrest : dropEndWhile p s with
      | nil => simpa [hrest] using hkeep
      | cons e rest =>
        rw [hrest] at ih
        simpa using ih

theorem dropEndWhile_append_stop (hback : ∀ c ∈ back, p c = true)
    (hlast : ∀ c ∈ s.getLast?, p c = false) : dropEndWhile p (s ++ back) = s := by
  induction s with
  | nil =>
    induction back with
    | nil => rfl
    | cons c back ih =>
      have hrest : dropEndWhile p back = [] :=
        ih fun d hd => hback d (List.mem_cons_of_mem c hd)
      rw [List.nil_append, dropEndWhile_cons, hrest, hback c List.mem_cons_self]
      rfl
  | cons c s ih =>
    rw [List.cons_append, dropEndWhile_cons]
    cases s with
    | nil =>
      rw [ih (by simp), hlast c rfl]
      simp
    | cons d s =>
      rw [ih (by simpa using hlast)]
      simp

/-- Trimming finds the middle part of a text, which does not begin or end with what is dropped. -/
theorem trimWhile_append (hfront : ∀ c ∈ front, p c = true) (hback : ∀ c ∈ back, p c = true)
    (hhead : ∀ c ∈ t.head?, p c = false) (hlast : ∀ c ∈ t.getLast?, p c = false) :
    trimWhile p (front ++ t ++ back) = t := by
  unfold trimWhile
  cases t with
  | nil =>
    have hall : ∀ c ∈ front ++ back, p c = true := fun c hc =>
      (List.mem_append.mp hc).elim (hfront c) (hback c)
    have hdrop : (front ++ back ++ []).dropWhile p = [] := dropWhile_append_stop hall (by simp)
    rw [List.append_nil] at hdrop
    rw [List.append_nil, hdrop]
    rfl
  | cons c t =>
    rw [List.append_assoc, dropWhile_append_stop hfront (by simpa using hhead)]
    exact dropEndWhile_append_stop hback hlast

theorem trimChars_append (hfront : AllBlank front) (hback : AllBlank back) (h : IsTrimmed t) :
    trimChars (front ++ t ++ back) = t := trimWhile_append hfront hback h.head h.last

theorem isTrimmed_trimChars (s : List Char) : IsTrimmed (trimChars s) := by
  refine ⟨fun c hc => ?_, getLast?_dropEndWhile isBlank _⟩
  obtain ⟨back, hback, -⟩ := exists_dropEndWhile_append isBlank (s.dropWhile isBlank)
  have hhead : (s.dropWhile isBlank).head? = some c := by
    rw [hback, List.head?_append, show (dropEndWhile isBlank (s.dropWhile isBlank)).head? = some c
      from hc]
    rfl
  have := List.head?_dropWhile_not isBlank s
  rw [hhead] at this
  simpa using this

theorem exists_trimChars_append (s : List Char) : ∃ front back, s = front ++ trimChars s ++ back ∧
    AllBlank front ∧ AllBlank back := by
  obtain ⟨back, hs, hback⟩ := exists_dropEndWhile_append isBlank (s.dropWhile isBlank)
  refine ⟨s.takeWhile isBlank, back, ?_, fun c hc => List.mem_takeWhile_imp hc, hback⟩
  rw [List.append_assoc, trimChars, trimWhile, ← hs, List.takeWhile_append_dropWhile]

theorem trimChars_of_isTrimmed (h : IsTrimmed t) : trimChars t = t := by
  have hmiddle : trimChars ([] ++ t ++ []) = t := trimChars_append allBlank_nil allBlank_nil h
  simpa using hmiddle

theorem trimChars_trimChars (s : List Char) : trimChars (trimChars s) = trimChars s :=
  trimChars_of_isTrimmed (isTrimmed_trimChars s)

theorem trimChars_append_blank (hback : AllBlank back) : trimChars (s ++ back) = trimChars s := by
  obtain ⟨front, back', hs, hfront, hback'⟩ := exists_trimChars_append s
  have hmiddle := trimChars_append hfront (hback'.append hback) (isTrimmed_trimChars s)
  rwa [← List.append_assoc, ← hs] at hmiddle

theorem trimChars_eq_nil_iff : trimChars s = [] ↔ AllBlank s := by
  constructor
  · intro h
    obtain ⟨front, back, hs, hfront, hback⟩ := exists_trimChars_append s
    rw [h, List.append_nil] at hs
    rw [hs]
    exact hfront.append hback
  · intro h
    have hmiddle : trimChars (s ++ [] ++ []) = [] :=
      trimChars_append h allBlank_nil ⟨by simp, by simp⟩
    simpa using hmiddle

/-- A text that is not blank ends with blanks after a character that is not. -/
theorem exists_append_blank (h : ¬ AllBlank s) : ∃ body back, s = body ++ back ∧ body ≠ [] ∧
    (∀ c ∈ body.getLast?, isBlank c = false) ∧ AllBlank back := by
  obtain ⟨back, hs, hback⟩ := exists_dropEndWhile_append isBlank s
  refine ⟨dropEndWhile isBlank s, back, hs, fun hnil => ?_, getLast?_dropEndWhile isBlank s, hback⟩
  rw [hnil, List.nil_append] at hs
  exact h (hs ▸ hback)

/-- The blanks before the trimmed part of a text are determined. -/
theorem front_unique {front' t' back' : List Char} (hfront : AllBlank front)
    (hfront' : AllBlank front') (ht : IsTrimmed t) (ht' : IsTrimmed t') (hne : t ≠ []) (hne' : t' ≠ [])
    (heq : front ++ t ++ back = front' ++ t' ++ back') : front = front' := by
  have hrun : ∀ {u v w : List Char}, AllBlank u → IsTrimmed v → v ≠ [] →
      (u ++ v ++ w).takeWhile isBlank = u := by
    intro u v w hu hv hnil
    obtain ⟨c, v, rfl⟩ := List.exists_cons_of_ne_nil hnil
    rw [List.append_assoc, takeWhile_append_stop hu (by simpa using hv.head)]
  rw [← hrun hfront ht hne, heq, hrun hfront' ht' hne']

end PromptTemplates.Text
