import Mathlib.Data.List.Basic
import PromptTemplates.Document.Basic
import PromptTemplates.Proofs.Document.Delimiters

/-!
# Delimiters that trimming loses or adds

A text is trimmed before it is cut. A delimiter that only blanks follow loses its line ends and is cut
no more, and a delimiter behind blanks on the first line that is not blank moves to the start of a line
and is cut. Otherwise each delimiter of the text begins a section of its own.
-/

namespace PromptTemplates.Section

open Text

/-- Only blanks follow a delimiter of a text. -/
def EndsInDelimiter (atStart : Bool) (s : List Char) : Prop :=
  ∃ before title after, DelimiterAt atStart s before title after ∧ AllBlank after

/-- Only blanks stand before the text of a delimiter that is not at the start of a line and that more
than blanks follows. -/
def IndentsDelimiter (s : List Char) : Prop :=
  ∃ before title after, s = before ++ delimiter title ++ after ∧ IsTitle title ∧
    AllBlank before ∧ beginsLine true before = false ∧ ¬ AllBlank after

/-- The sections with a title. -/
def titled (sections : List Section) : List Section := sections.filter fun s => s.title.isSome

variable {atStart : Bool} {c : Char} {s t cs front back title rest content : List Char}
  {pieces : List (List Char × List Char)}

/-! ## Blanks around a text -/

theorem delimiter?_eq_none_of_isBlank (h : isBlank c = true) : delimiter? (c :: cs) = none := by
  cases hread : delimiter? (c :: cs) with
  | none => rfl
  | some p =>
    have hhead := congrArg List.head? (delimiter?_eq_some_iff.mp hread).2
    obtain rfl : c = '=' := by simpa [delimiter] using hhead
    exact absurd h (by decide)

/-- Blanks before a text belong to the text before its first delimiter. -/
theorem Cuts.blank_append (h : Cuts (beginsLine atStart back) s front pieces) (hback : AllBlank back) :
    Cuts atStart (back ++ s) (back ++ front) pieces := by
  induction back generalizing atStart with
  | nil => exact h
  | cons c back ih =>
    rw [beginsLine_cons] at h
    exact (ih h fun d hd => hback d (List.mem_cons_of_mem c hd)).cons fun _ =>
      delimiter?_eq_none_of_isBlank (hback c List.mem_cons_self)

theorem not_holdsDelimiter_of_allBlank (h : AllBlank s) : ¬ HoldsDelimiter atStart s := by
  rintro ⟨before, title, after, rfl, -, -⟩
  exact absurd (h '=' (by simp [delimiter])) (by decide)

theorem EndsInDelimiter.append (h : EndsInDelimiter (beginsLine atStart front) s) :
    EndsInDelimiter atStart (front ++ s) := by
  obtain ⟨before, title, after, ⟨rfl, htitle, hline⟩, hafter⟩ := h
  exact ⟨front ++ before, title, after, ⟨by simp, htitle, by simpa using hline⟩, hafter⟩

/-- Blanks after a text belong to its last part, unless they complete a delimiter. -/
theorem Cuts.append_blank (h : Cuts atStart s front pieces) (hback : AllBlank back)
    (hend : ¬ EndsInDelimiter atStart (s ++ back)) : ∃ front' pieces',
      Cuts atStart (s ++ back) front' pieces' ∧ trimChars front' = trimChars front ∧
        pieces'.map ofPart = pieces.map ofPart := by
  induction h with
  | @whole atStart s hquiet =>
    refine ⟨s ++ back, [], .whole ?_, trimChars_append_blank hback, rfl⟩
    rintro ⟨before, title, after, heq, htitle, hline⟩
    rcases List.append_eq_append_iff.mp heq with ⟨gap, hgap, hafter⟩ | ⟨gap, hgap, hafter⟩
    · -- the delimiter reaches into the blanks, so that only blanks follow it
      refine hend ⟨before, title, after, ⟨heq, htitle, hline⟩, fun c hc => hback c ?_⟩
      rw [hafter]
      exact List.mem_append_right gap hc
    · exact hquiet ⟨before, title, gap, hgap, htitle, hline⟩
  | @next atStart s front title rest content pieces hat hquiet _ ih =>
    obtain ⟨rfl, htitle, hline⟩ := hat
    obtain ⟨content', pieces', hcuts, hcontent, hpieces⟩ := ih fun hrest => hend <| by
      rw [List.append_assoc]
      exact EndsInDelimiter.append (by simpa using hrest)
    refine ⟨front, (title, content') :: pieces', .next ⟨by simp, htitle, hline⟩ hquiet hcuts, rfl, ?_⟩
    rw [List.map_cons, List.map_cons, hpieces, ofPart, ofPart, hcontent]

/-! ## The first line of a text -/

theorem cut_eq_of_delimiter?_eq_none (h : delimiter? s = none) : cut true s = cut false s := by
  cases s with
  | nil => rw [cut_nil, cut_nil]
  | cons c cs => rw [cut_cons fun _ => h, cut_cons fun _ => h]

/-- A delimiter that is not at the start of a line belongs to the text before the next one. -/
theorem Cuts.behind_delimiter (h : Cuts true rest content pieces) (htitle : IsTitle title) :
    Cuts false (delimiter title ++ rest) (delimiter title ++ content) pieces := by
  have hquiet : ∀ s, ¬ HoldsDelimiter true s → ¬ HoldsDelimiter false (delimiter title ++ s) := by
    rintro s hs ⟨before, title', after, heq, htitle', hline⟩
    have heq' : before ++ (delimiter title' ++ after) = delimiter title ++ s := by
      rw [heq, List.append_assoc]
    obtain ⟨gap, rfl, hrest⟩ := delimiter_across hline htitle heq' head?_delimiter_append
    exact hs ⟨gap, title', after, by rw [hrest, List.append_assoc], htitle', by simpa using hline⟩
  cases h with
  | whole hrest => exact .whole (hquiet _ hrest)
  | next hat hcontent hcuts =>
    obtain ⟨rfl, htitle', hline⟩ := hat
    exact .next ⟨by simp, htitle', by simpa using hline⟩ (hquiet _ hcontent) hcuts

/-- A text indents a delimiter when its trimmed part begins with one and not with a line. -/
theorem indentsDelimiter_iff (hfront : AllBlank front) (hback : AllBlank back) (ht : IsTrimmed t) :
    IndentsDelimiter (front ++ t ++ back) ↔
      beginsLine true front = false ∧ delimiter? t ≠ none := by
  constructor
  · rintro ⟨before, title, after, heq, htitle, hbefore, hline, hafter⟩
    obtain ⟨body, blanks, rfl, hbody, hlast, hblanks⟩ := exists_append_blank hafter
    have hmiddle : IsTrimmed (delimiter title ++ body) := by
      refine isTrimmed_of_head?_eq head?_delimiter_append ?_
      rwa [List.getLast?_append_of_ne_nil _ hbody]
    have heq' : front ++ t ++ back = before ++ (delimiter title ++ body) ++ blanks := by
      rw [heq]
      simp
    have hsame : t = delimiter title ++ body := by
      rw [← trimChars_append hfront hback ht, heq', trimChars_append hbefore hblanks hmiddle]
    have hstart : front = before :=
      front_unique hfront hbefore ht hmiddle (by simp [hsame, hbody]) (by simp [hbody]) heq'
    exact ⟨hstart ▸ hline, by simp [delimiter?_eq_some_iff.mpr ⟨htitle, hsame⟩]⟩
  · rintro ⟨hline, hsome⟩
    obtain ⟨⟨title, rest⟩, hsome⟩ := Option.ne_none_iff_exists'.mp hsome
    obtain ⟨htitle, rfl⟩ := delimiter?_eq_some_iff.mp hsome
    have hrest : ¬ AllBlank rest := not_allBlank_of_isTrimmed (show IsTrimmed ([] ++ _ ++ _) from ht)
    refine ⟨front, title, rest ++ back, by simp, htitle, hfront, hline, fun hblank => ?_⟩
    exact hrest fun c hc => hblank c (List.mem_append_left back hc)

/-! ## The titled sections of a text -/

theorem titled_ofText (text : String) :
    titled (ofText text) = (cut true (trimChars text.toList)).2.map ofPart := by
  have hcuts := cuts_cut true (trimChars text.toList)
  by_cases hpieces : (cut true (trimChars text.toList)).2 = []
  · rw [ofText_of_not_holdsDelimiter (hcuts.pieces_eq_nil_iff.mp hpieces), hpieces]
    rfl
  · rw [ofText_of_cuts hcuts hpieces, titled, List.filter_eq_self]
    intro s hs
    obtain ⟨p, -, rfl⟩ := List.mem_map.mp hs
    rfl

/-- A delimiter that only blanks follow is not among those of the trimmed text. -/
theorem titled_ofText_ne_of_endsInDelimiter {text : String} (h : Cuts true text.toList front pieces)
    (hend : EndsInDelimiter true text.toList) : titled (ofText text) ≠ pieces.map ofPart := by
  obtain ⟨before, title, after, hat, hafter⟩ := hend
  obtain ⟨earlier, content, later, rfl, -, hlast⟩ := h.exists_of_delimiterAt hat
  obtain ⟨rfl, rfl⟩ := hlast.unique (.whole (not_holdsDelimiter_of_allBlank hafter))
  rw [titled_ofText]
  intro hsame
  have hgetLast := congrArg List.getLast? hsame
  rw [List.map_append, List.getLast?_map, List.map_cons, List.map_nil, List.getLast?_concat,
    Option.map_eq_some_iff] at hgetLast
  obtain ⟨p, hp, hpart⟩ := hgetLast
  have hblank : trimChars p.2 = [] := by
    have hcontent := congrArg Section.content hpart
    rw [ofPart, ofPart, String.ofList_inj] at hcontent
    exact hcontent.trans (trimChars_eq_nil_iff.mpr hafter)
  exact (cuts_cut true _).not_allBlank_of_getLast? (isTrimmed_trimChars _) hp
    (trimChars_eq_nil_iff.mp hblank)

/-- At the start of a line a text is cut at one delimiter more exactly when it begins with one. -/
theorem map_ofPart_cut_eq_iff (s : List Char) :
    (cut true s).2.map ofPart = (cut false s).2.map ofPart ↔ delimiter? s = none := by
  constructor
  · intro hsame
    cases hread : delimiter? s with
    | none => rfl
    | some p =>
      obtain ⟨htitle, rfl⟩ := delimiter?_eq_some_iff.mp hread
      have hlength := congrArg List.length hsame
      rw [cut_of_delimiter? hread, ((cuts_cut true p.2).behind_delimiter htitle).cut_eq] at hlength
      simp at hlength
  · intro hnone
    rw [cut_eq_of_delimiter?_eq_none hnone]

/-- The titled sections of a text, in order, with their contents, are those that its delimiters announce
exactly when the text neither ends in a delimiter nor indents one. Trimming a text beforehand changes
nothing. -/
theorem titled_sections_eq_iff (t : HeadedText) :
    (Document.ofHeaded t).sections = ofText t.body ∧
    ∃ front pieces, Cuts true t.body.toList front pieces ∧
      (titled (ofText t.body) = pieces.map ofPart ↔
        ¬ EndsInDelimiter true t.body.toList ∧ ¬ IndentsDelimiter t.body.toList) := by
  refine ⟨?_, _, _, cuts_cut true t.body.toList, ?_⟩
  · simp [Document.ofHeaded, ofText, trim, trimChars_trimChars]
  by_cases hend : EndsInDelimiter true t.body.toList
  · exact iff_of_false (titled_ofText_ne_of_endsInDelimiter (cuts_cut true _) hend)
      fun h => h.1 hend
  · obtain ⟨blanks, back, hbody, hblanks, hback⟩ := exists_trimChars_append t.body.toList
    have htrimmed := isTrimmed_trimChars t.body.toList
    have hindents := indentsDelimiter_iff hblanks hback htrimmed
    rw [← hbody] at hindents
    rw [titled_ofText]
    generalize trimChars t.body.toList = middle at hbody htrimmed hindents ⊢
    have hquiet : ¬ EndsInDelimiter (beginsLine true blanks) (middle ++ back) := fun h => hend <| by
      rw [hbody, List.append_assoc]
      exact h.append
    obtain ⟨front', pieces', hcuts, -, hpieces⟩ :=
      (cuts_cut (beginsLine true blanks) middle).append_blank hback hquiet
    have hall := hcuts.blank_append hblanks
    rw [← List.append_assoc, ← hbody] at hall
    rw [hall.cut_eq, hpieces, and_iff_right hend, hindents]
    cases beginsLine true blanks with
    | true => simp
    | false => simp [map_ofPart_cut_eq_iff]

/-- A text that ends in its second delimiter has only one section. -/
theorem ofText_of_empty_last :
    Cuts true "=== A ===\n\nhi\n\n=== B ===\n\n".toList []
      [("A".toList, "hi\n\n".toList), ("B".toList, [])] ∧
    ofText "=== A ===\n\nhi\n\n=== B ===\n\n" = [⟨"hi\n\n=== B ===", some "A"⟩] :=
  ⟨cuts_iff.mpr (by decide +kernel), by decide +kernel⟩

end PromptTemplates.Section
