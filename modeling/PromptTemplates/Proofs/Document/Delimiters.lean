import PromptTemplates.Document.Section
import PromptTemplates.Proofs.Text.Trimming

/-!
# Delimiters in a text

The delimiters of a text stand at its starts of lines, and no two of them overlap. Cutting a text at its
delimiters is described without a scan, and cutting a joined text is reduced to cutting its parts.
-/

namespace PromptTemplates.Section

open Text

/-- A title that a delimiter can carry. -/
def IsTitle (title : List Char) : Prop := title ≠ [] ∧ ∀ c ∈ title, isAsciiWordChar c = true

/-- The delimiter that carries a title. -/
def delimiter (title : List Char) : List Char :=
  ['=', '=', '=', ' '] ++ title ++ [' ', '=', '=', '=', '\n', '\n']

/-- Whether a line begins after the given text. `atStart` says whether a line begins before it. -/
def beginsLine (atStart : Bool) (before : List Char) : Bool :=
  match before.getLast? with
  | none => atStart
  | some c => c == '\n'

/-- A delimiter of a text, and the texts before and after it. -/
structure DelimiterAt (atStart : Bool) (s before title after : List Char) : Prop where
  eq_append : s = before ++ delimiter title ++ after
  isTitle : IsTitle title
  atLineStart : beginsLine atStart before = true

/-- A text holds a delimiter. -/
def HoldsDelimiter (atStart : Bool) (s : List Char) : Prop :=
  ∃ before title after, DelimiterAt atStart s before title after

/-- The text before the first delimiter of a text, and each title with the text up to the next
delimiter. -/
inductive Cuts : (atStart : Bool) → (s front : List Char) → List (List Char × List Char) → Prop
  | whole {atStart s} : ¬ HoldsDelimiter atStart s → Cuts atStart s s []
  | next {atStart s front title rest content pieces} : DelimiterAt atStart s front title rest →
      ¬ HoldsDelimiter atStart front → Cuts true rest content pieces →
      Cuts atStart s front ((title, content) :: pieces)

variable {atStart : Bool} {c : Char} {s t cs before front title rest after content : List Char}
  {pieces pieces' : List (List Char × List Char)}

/-! ## Starts of lines -/

@[simp] theorem beginsLine_nil : beginsLine atStart [] = atStart := rfl

@[simp] theorem beginsLine_cons : beginsLine atStart (c :: cs) = beginsLine (c == '\n') cs := by
  cases hlast : cs.getLast? <;> simp [beginsLine, List.getLast?_cons, hlast]

@[simp] theorem beginsLine_append : beginsLine atStart (s ++ t) = beginsLine (beginsLine atStart s) t := by
  induction s generalizing atStart with
  | nil => rfl
  | cons c s ih => rw [List.cons_append, beginsLine_cons, ih, beginsLine_cons]

@[simp] theorem beginsLine_delimiter : beginsLine atStart (delimiter title) = true := by
  simp [delimiter]

/-! ## The text of a delimiter -/

theorem newline_not_mem_title (h : IsTitle title) : '\n' ∉ title := fun hmem =>
  absurd (h.2 _ hmem) (by decide)

theorem isTitle_of_delimiter? (h : delimiter? s = some (title, rest)) : IsTitle title := by
  simp only [delimiter?, Option.bind_eq_bind, Option.bind_eq_some_iff] at h
  obtain ⟨t, -, r, -, he⟩ := h
  split at he
  · cases he
  · next hne =>
    cases he
    exact ⟨by simpa using hne, fun c hc => List.mem_takeWhile_imp hc⟩

theorem delimiter?_delimiter (h : IsTitle title) :
    delimiter? (delimiter title ++ rest) = some (title, rest) := by
  obtain ⟨hne, hword⟩ := h
  have hspace : ∀ c ∈ ([' ', '=', '=', '=', '\n', '\n'] ++ rest).head?, isAsciiWordChar c = false := by
    simp only [List.cons_append, List.head?_cons, Option.mem_def, Option.some.injEq]
    rintro c rfl
    decide
  have hopen : after? ['=', '=', '=', ' '] (delimiter title ++ rest) =
      some (title ++ ([' ', '=', '=', '=', '\n', '\n'] ++ rest)) :=
    after?_eq_some_iff.mpr (by simp [delimiter])
  have hclose : after? [' ', '=', '=', '=', '\n', '\n'] ([' ', '=', '=', '=', '\n', '\n'] ++ rest) =
      some rest := after?_eq_some_iff.mpr rfl
  simp only [delimiter?, Option.bind_eq_bind, hopen, Option.bind_some,
    takeWhile_append_stop hword hspace, dropWhile_append_stop hword hspace, hclose]
  simp [hne]

theorem delimiter?_eq_some_iff :
    delimiter? s = some (title, rest) ↔ IsTitle title ∧ s = delimiter title ++ rest := by
  constructor
  · intro h
    exact ⟨isTitle_of_delimiter? h, append_of_delimiter? h⟩
  · rintro ⟨htitle, rfl⟩
    exact delimiter?_delimiter htitle

theorem delimiter?_append {p : List Char × List Char} (h : delimiter? s = some p) :
    delimiter? (s ++ t) = some (p.1, p.2 ++ t) := by
  obtain ⟨htitle, heq⟩ := delimiter?_eq_some_iff.mp h
  exact delimiter?_eq_some_iff.mpr ⟨htitle, by rw [heq, List.append_assoc]⟩

/-- A line begins inside a delimiter only before its last character. -/
theorem newline_in_delimiter (h : IsTitle title) (heq : delimiter title = front ++ '\n' :: rest) :
    rest = ['\n'] ∨ rest = [] := by
  have hline : '\n' ∉ ['=', '=', '=', ' '] ++ title ++ [' ', '=', '=', '='] := by
    simpa using newline_not_mem_title h
  have heq' : ['=', '=', '=', ' '] ++ title ++ [' ', '=', '=', '='] ++ ['\n', '\n'] =
      front ++ '\n' :: rest := by simpa [delimiter] using heq
  rcases List.append_eq_append_iff.mp heq' with ⟨gap, -, hgap⟩ | ⟨gap, hgap, hrest⟩
  · cases gap with
    | nil => simp_all
    | cons d gap => cases gap <;> simp_all
  · cases gap with
    | nil => simp_all
    | cons d gap =>
      rw [List.cons_append, List.cons.injEq] at hrest
      exact absurd (by rw [hgap, ← hrest.1]; simp) hline

theorem getLast?_delimiter : (delimiter title).getLast? = some '\n' := by
  rw [delimiter, List.getLast?_append]
  rfl

theorem head?_delimiter_append : (delimiter title ++ rest).head? = some '=' := rfl

/-- No delimiter reaches across a start of line at which another one begins. -/
theorem delimiter_across (hfront : beginsLine false front = true) (htitle : IsTitle title)
    (heq : front ++ t = delimiter title ++ rest) (ht : t.head? = some '=') :
    ∃ after, front = delimiter title ++ after ∧ rest = after ++ t := by
  rcases List.append_eq_append_iff.mp heq with ⟨gap, hgap, hrest⟩ | ⟨gap, hgap, hrest⟩
  · cases gap with
    | nil => exact ⟨[], by simpa using hgap.symm, by simpa using hrest.symm⟩
    | cons d gap =>
      -- the delimiter would go on with an equals sign after a line end of its own
      obtain rfl : d = '=' := by simpa [hrest] using ht
      cases hlast : front.getLast? with
      | none => simp [beginsLine, hlast] at hfront
      | some e =>
        obtain ⟨u, rfl⟩ := List.getLast?_eq_some_iff.mp hlast
        obtain rfl : e = '\n' := by simpa using hfront
        rcases newline_in_delimiter htitle (by simpa using hgap) with h | h <;> simp at h
  · exact ⟨gap, hgap, hrest⟩

/-! ## Texts that hold a delimiter -/

theorem not_holdsDelimiter_nil : ¬ HoldsDelimiter atStart [] := by
  rintro ⟨before, title, after, heq, -, -⟩
  simp [delimiter] at heq

theorem holdsDelimiter_cons_iff : HoldsDelimiter atStart (c :: cs) ↔
    (atStart = true ∧ delimiter? (c :: cs) ≠ none) ∨ HoldsDelimiter (c == '\n') cs := by
  constructor
  · rintro ⟨before, title, after, heq, htitle, hline⟩
    cases before with
    | nil =>
      have hsome : delimiter? (c :: cs) = some (title, after) :=
        delimiter?_eq_some_iff.mpr ⟨htitle, heq⟩
      exact .inl ⟨hline, by simp [hsome]⟩
    | cons d before =>
      obtain ⟨rfl, heq⟩ := List.cons.inj heq
      exact .inr ⟨before, title, after, ⟨by simpa using heq, htitle, by simpa using hline⟩⟩
  · rintro (⟨rfl, hsome⟩ | ⟨before, title, after, heq, htitle, hline⟩)
    · obtain ⟨⟨title, rest⟩, hsome⟩ := Option.ne_none_iff_exists'.mp hsome
      obtain ⟨htitle, heq⟩ := delimiter?_eq_some_iff.mp hsome
      exact ⟨[], title, rest, heq, htitle, rfl⟩
    · exact ⟨c :: before, title, after, by simp [heq], htitle, by simpa using hline⟩

/-- What follows a start of line does not make a delimiter out of a text that holds none. -/
theorem delimiter?_append_eq_none (hquiet : ¬ HoldsDelimiter true s)
    (hline : beginsLine false s = true) (ht : t.head? = some '=') : delimiter? (s ++ t) = none := by
  cases hread : delimiter? (s ++ t) with
  | none => rfl
  | some p =>
    obtain ⟨htitle, heq⟩ := delimiter?_eq_some_iff.mp hread
    obtain ⟨after, hafter, -⟩ := delimiter_across hline htitle heq ht
    exact absurd ⟨[], p.1, after, hafter, htitle, rfl⟩ hquiet

/-! ## Cutting at the delimiters -/

theorem cut_nil : cut atStart [] = ([], []) := by rw [cut]

theorem cut_of_delimiter? (h : delimiter? s = some (title, rest)) :
    cut true s = ([], (title, (cut true rest).1) :: (cut true rest).2) := by
  cases s with
  | nil => simp [delimiter?, after?] at h
  | cons c cs =>
    rw [cut]
    split
    · next title' rest' h' =>
      rw [if_pos rfl, h] at h'
      cases h'
      rfl
    · next h' =>
      rw [if_pos rfl, h] at h'
      cases h'

theorem cut_cons (h : atStart = true → delimiter? (c :: cs) = none) :
    cut atStart (c :: cs) = (c :: (cut (c == '\n') cs).1, (cut (c == '\n') cs).2) := by
  have hnone : (if atStart then delimiter? (c :: cs) else none) = none := by
    cases atStart with
    | true => exact h rfl
    | false => rfl
  rw [cut]
  split
  · next h' =>
    rw [hnone] at h'
    cases h'
  · rfl

theorem cut_of_not_holdsDelimiter (h : ¬ HoldsDelimiter atStart s) : cut atStart s = (s, []) := by
  induction s generalizing atStart with
  | nil => exact cut_nil
  | cons c cs ih =>
    rw [holdsDelimiter_cons_iff, not_or, not_and, Classical.not_not] at h
    rw [cut_cons h.1, ih h.2]

theorem cut_of_delimiterAt (h : DelimiterAt atStart s front title rest)
    (hquiet : ¬ HoldsDelimiter atStart front) :
    cut atStart s = (front, (title, (cut true rest).1) :: (cut true rest).2) := by
  obtain ⟨rfl, htitle, hline⟩ := h
  induction front generalizing atStart with
  | nil =>
    obtain rfl : atStart = true := hline
    exact cut_of_delimiter? (delimiter?_eq_some_iff.mpr ⟨htitle, rfl⟩)
  | cons c front ih =>
    -- nor does a delimiter begin here that reaches beyond `front`
    have hnone : atStart = true → delimiter? (c :: front ++ (delimiter title ++ rest)) = none := by
      rintro rfl
      exact delimiter?_append_eq_none hquiet (by simpa using hline) head?_delimiter_append
    rw [holdsDelimiter_cons_iff, not_or] at hquiet
    have hrest := ih hquiet.2 (by simpa using hline)
    rw [List.append_assoc] at hrest ⊢
    simp only [List.cons_append] at hnone
    rw [List.cons_append, cut_cons hnone, hrest]

theorem Cuts.cut_eq (h : Cuts atStart s front pieces) : cut atStart s = (front, pieces) := by
  induction h with
  | whole hquiet => exact cut_of_not_holdsDelimiter hquiet
  | next hat hquiet _ ih => rw [cut_of_delimiterAt hat hquiet, ih]

/-- A character at which no delimiter begins belongs to the text before the first delimiter. -/
theorem Cuts.cons (h : Cuts (c == '\n') cs front pieces)
    (hnone : atStart = true → delimiter? (c :: cs) = none) :
    Cuts atStart (c :: cs) (c :: front) pieces := by
  cases h with
  | whole hquiet =>
    refine .whole ?_
    rw [holdsDelimiter_cons_iff, not_or, not_and, Classical.not_not]
    exact ⟨hnone, hquiet⟩
  | next hat hquiet hrest =>
    obtain ⟨rfl, htitle, hline⟩ := hat
    refine .next ⟨by simp, htitle, by simpa using hline⟩ ?_ hrest
    rw [holdsDelimiter_cons_iff, not_or, not_and]
    refine ⟨fun hstart hsome => ?_, hquiet⟩
    obtain ⟨p, hsome⟩ := Option.ne_none_iff_exists'.mp hsome
    have hlong := hnone hstart
    rw [List.append_assoc, ← List.cons_append, delimiter?_append hsome] at hlong
    cases hlong

theorem cuts_cut (atStart : Bool) (s : List Char) :
    Cuts atStart s (cut atStart s).1 (cut atStart s).2 := by
  induction hlength : s.length using Nat.strong_induction_on generalizing atStart s with
  | _ n ih =>
    subst hlength
    cases s with
    | nil =>
      rw [cut_nil]
      exact .whole not_holdsDelimiter_nil
    | cons c cs =>
      by_cases hnone : atStart = true → delimiter? (c :: cs) = none
      · rw [cut_cons hnone]
        exact (ih cs.length (by simp) (c == '\n') cs rfl).cons hnone
      · rw [Classical.not_imp] at hnone
        obtain ⟨rfl, hsome⟩ := hnone
        obtain ⟨⟨title, rest⟩, hsome⟩ := Option.ne_none_iff_exists'.mp hsome
        obtain ⟨htitle, heq⟩ := delimiter?_eq_some_iff.mp hsome
        rw [cut_of_delimiter? hsome]
        exact .next ⟨heq, htitle, rfl⟩ not_holdsDelimiter_nil
          (ih rest.length (length_lt_of_delimiter? hsome) true rest rfl)

/-- Cutting finds the parts of a text, which its delimiters determine. -/
theorem cuts_iff : Cuts atStart s front pieces ↔ cut atStart s = (front, pieces) := by
  constructor
  · exact Cuts.cut_eq
  · intro h
    have := cuts_cut atStart s
    rwa [h] at this

/-! ## The parts of a text -/

theorem Cuts.unique {front' : List Char} (h : Cuts atStart s front pieces)
    (h' : Cuts atStart s front' pieces') : front = front' ∧ pieces = pieces' := by
  rw [cuts_iff] at h h'
  rw [h, Prod.mk.injEq] at h'
  exact h'

/-- A text that begins with a delimiter can be cut apart from a text that ends before a line. -/
theorem Cuts.append (h : Cuts atStart s front pieces) (hline : beginsLine atStart s = true)
    (h' : Cuts true t [] pieces') (hpieces' : pieces' ≠ []) :
    Cuts atStart (s ++ t) front (pieces ++ pieces') := by
  induction h with
  | whole hquiet =>
    cases h' with
    | whole => exact absurd rfl hpieces'
    | next hat _ hrest =>
      obtain ⟨rfl, htitle, -⟩ := hat
      exact .next ⟨by simp, htitle, hline⟩ hquiet hrest
  | next hat hquiet _ ih =>
    obtain ⟨rfl, htitle, hfront⟩ := hat
    exact .next ⟨by simp, htitle, hfront⟩ hquiet (ih (by simpa using hline))

/-- The last part of a text reaches to its end. -/
theorem Cuts.exists_of_getLast? {p : List Char × List Char} (h : Cuts atStart s front pieces)
    (hp : pieces.getLast? = some p) : ∃ before, s = before ++ delimiter p.1 ++ p.2 := by
  induction h with
  | whole => simp at hp
  | @next atStart s front title rest content pieces hat _ hrest ih =>
    obtain ⟨rfl, -, -⟩ := hat
    cases hrest with
    | whole =>
      obtain rfl : (title, rest) = p := by simpa using hp
      exact ⟨front, rfl⟩
    | next hat' hquiet' hrest' =>
      obtain ⟨before, hrest⟩ := ih (by simpa using hp)
      exact ⟨front ++ delimiter title ++ before, by rw [hrest]; simp⟩

theorem Cuts.pieces_eq_nil_iff (h : Cuts atStart s front pieces) :
    pieces = [] ↔ ¬ HoldsDelimiter atStart s := by
  constructor
  · rintro rfl
    cases h with
    | whole hquiet => exact hquiet
  · intro hquiet
    exact (h.unique (.whole hquiet)).2

/-- A delimiter before a text begins a section with the text up to the next delimiter. -/
theorem Cuts.headed (h : Cuts true s front pieces) (htitle : IsTitle title) :
    Cuts true (delimiter title ++ s) [] ((title, front) :: pieces) :=
  .next ⟨rfl, htitle, rfl⟩ not_holdsDelimiter_nil h

/-- Each delimiter of a text begins a part of its own, and what stands before and after it is cut by
itself. -/
theorem Cuts.exists_of_delimiterAt (h : Cuts atStart s front pieces)
    (hat : DelimiterAt atStart s before title after) : ∃ earlier content later,
      pieces = earlier ++ (title, content) :: later ∧ Cuts atStart before front earlier ∧
        Cuts true after content later := by
  obtain ⟨rfl, htitle, hline⟩ := hat
  have hbefore := cuts_cut atStart before
  have hafter := cuts_cut true after
  have hall := hbefore.append hline (hafter.headed htitle) (List.cons_ne_nil _ _)
  rw [← List.append_assoc] at hall
  obtain ⟨rfl, rfl⟩ := h.unique hall
  exact ⟨_, _, _, rfl, hbefore, hafter⟩

/-! ## The sections of a text -/

/-- The section of a part of a text. -/
def ofPart (p : List Char × List Char) : Section where
  content := String.ofList (trimChars p.2)
  title := some (String.ofList p.1)

theorem ofText_of_cuts {text : String} (h : Cuts true (trimChars text.toList) front pieces)
    (hpieces : pieces ≠ []) : ofText text = pieces.map ofPart := by
  simp only [ofText, h.cut_eq]
  cases pieces with
  | nil => exact absurd rfl hpieces
  | cons p pieces => rfl

theorem ofText_of_not_holdsDelimiter {text : String}
    (h : ¬ HoldsDelimiter true (trimChars text.toList)) : ofText text = [{ content := trim text }] := by
  simp only [ofText, cut_of_not_holdsDelimiter h]
  rfl

/-- A text that begins with an equals sign is trimmed if it does not end with a blank. -/
theorem isTrimmed_of_head?_eq (h : s.head? = some '=') (hlast : ∀ c ∈ s.getLast?, isBlank c = false) :
    IsTrimmed s := by
  refine ⟨fun c hc => ?_, hlast⟩
  rw [h, Option.mem_def, Option.some.injEq] at hc
  rw [← hc]
  decide

/-- More than blanks follows a delimiter in a trimmed text. -/
theorem not_allBlank_of_isTrimmed (h : IsTrimmed (before ++ delimiter title ++ after)) :
    ¬ AllBlank after := by
  intro hblank
  cases hlast : after.getLast? with
  | none =>
    have := h.last '\n' (by simp [List.getLast?_append, hlast, getLast?_delimiter])
    exact absurd this (by decide)
  | some c =>
    have := h.last c (by simp [List.getLast?_append, hlast])
    rw [hblank c (List.mem_of_getLast? hlast)] at this
    cases this

theorem Cuts.not_allBlank_of_getLast? {p : List Char × List Char} (h : Cuts atStart s front pieces)
    (hs : IsTrimmed s) (hp : pieces.getLast? = some p) : ¬ AllBlank p.2 := by
  obtain ⟨before, rfl⟩ := h.exists_of_getLast? hp
  exact not_allBlank_of_isTrimmed hs

/-- The last section of a text is not empty if it has a title. -/
theorem content_ne_of_getLast?_ofText {text : String} {last : Section}
    (hlast : (ofText text).getLast? = some last) (htitle : last.title.isSome) : last.content ≠ "" := by
  have hcuts := cuts_cut true (trimChars text.toList)
  by_cases hpieces : (cut true (trimChars text.toList)).2 = []
  · rw [ofText_of_not_holdsDelimiter (hcuts.pieces_eq_nil_iff.mp hpieces)] at hlast
    obtain rfl : { content := trim text } = last := by simpa using hlast
    simp at htitle
  · rw [ofText_of_cuts hcuts hpieces, List.getLast?_map, Option.map_eq_some_iff] at hlast
    obtain ⟨p, hp, rfl⟩ := hlast
    have hblank := hcuts.not_allBlank_of_getLast? (isTrimmed_trimChars _) hp
    rw [← trimChars_eq_nil_iff] at hblank
    simpa [ofPart, String.ofList_eq_empty_iff] using hblank

end PromptTemplates.Section
