import PromptTemplates.Proofs.Document.Delimiters

/-!
# The passages of a text

A trimmed text is what stands before its first delimiter and then a passage for each section: the
delimiter, blanks, the content and blanks again. The sections of a text are read off its passages, and
however it is laid out in passages, their titles and contents are the same. So nothing behind the first
delimiter is lost, repeated, moved or given another title.
-/

namespace PromptTemplates.Section

open Text

/-- A section as it stands in a text. What follows the delimiter begins a line, and it holds no further
delimiter. -/
structure Passage where
  title : List Char
  lead : List Char
  content : List Char
  trail : List Char
  isTitle : IsTitle title
  allBlank_lead : AllBlank lead
  isTrimmed : IsTrimmed content
  allBlank_trail : AllBlank trail
  quiet : ¬ HoldsDelimiter true (lead ++ content ++ trail)

namespace Passage

/-- What stands between the delimiter of a passage and its end. -/
def body (p : Passage) : List Char := p.lead ++ p.content ++ p.trail

/-- The text of a passage. -/
def text (p : Passage) : List Char := delimiter p.title ++ p.body

/-- The section that a passage holds. -/
def toSection (p : Passage) : Section where
  content := String.ofList p.content
  title := some (String.ofList p.title)

/-- The title of a passage, and its content with the blanks around it. -/
def toPiece (p : Passage) : List Char × List Char := (p.title, p.body)

theorem ofPart_toPiece (p : Passage) : ofPart p.toPiece = p.toSection := by
  have hcontent : trimChars p.body = p.content :=
    trimChars_append p.allBlank_lead p.allBlank_trail p.isTrimmed
  rw [ofPart, toSection, toPiece, hcontent]

/-- Whatever stands behind a delimiter is the body of a passage, if it holds no delimiter itself. -/
theorem exists_toPiece_eq {title content : List Char} (htitle : IsTitle title)
    (hquiet : ¬ HoldsDelimiter true content) : ∃ p : Passage, p.toPiece = (title, content) := by
  obtain ⟨lead, trail, hcontent, hlead, htrail⟩ := exists_trimChars_append content
  refine ⟨⟨title, lead, trimChars content, trail, htitle, hlead, isTrimmed_trimChars content, htrail,
    hcontent ▸ hquiet⟩, ?_⟩
  exact congrArg (Prod.mk title) hcontent.symm

end Passage

/-- A text is laid out in a text before the first delimiter and passages, each of which begins a line. -/
structure LaidOut (atStart : Bool) (s front : List Char) (passages : List Passage) : Prop where
  eq_append : s = front ++ passages.flatMap Passage.text
  quiet : ¬ HoldsDelimiter atStart front
  atLineStart : ∀ earlier p later, passages = earlier ++ p :: later →
    beginsLine atStart (front ++ earlier.flatMap Passage.text) = true

variable {atStart : Bool} {s front : List Char} {p : Passage} {passages : List Passage}
  {pieces : List (List Char × List Char)}

/-! ## Passages one after another -/

theorem laidOut_nil : LaidOut atStart s front [] ↔ s = front ∧ ¬ HoldsDelimiter atStart front := by
  constructor
  · rintro ⟨heq, hquiet, -⟩
    exact ⟨by simpa using heq, hquiet⟩
  · rintro ⟨rfl, hquiet⟩
    exact ⟨by simp, hquiet, by simp⟩

/-- Behind the delimiter of the first passage the text is laid out in the others, with the body of the
first passage before them. -/
theorem laidOut_cons : LaidOut atStart s front (p :: passages) ↔
    ∃ rest, DelimiterAt atStart s front p.title rest ∧ ¬ HoldsDelimiter atStart front ∧
      LaidOut true rest p.body passages := by
  constructor
  · rintro ⟨heq, hquiet, hline⟩
    refine ⟨p.body ++ passages.flatMap Passage.text, ⟨?_, p.isTitle, ?_⟩, hquiet, rfl, p.quiet, ?_⟩
    · simp [heq, Passage.text]
    · simpa using hline [] p passages rfl
    · intro earlier q later hpassages
      have := hline (p :: earlier) q later (by rw [hpassages, List.cons_append])
      simpa [Passage.text] using this
  · rintro ⟨rest, ⟨rfl, -, hfront⟩, hquiet, rfl, -, hline⟩
    refine ⟨by simp [Passage.text], hquiet, ?_⟩
    intro earlier q later hpassages
    cases earlier with
    | nil => simpa using hfront
    | cons first earlier =>
      obtain ⟨rfl, hrest⟩ := List.cons.inj hpassages
      simpa [Passage.text] using hline earlier q later hrest

/-- The passages of a text are the parts that it is cut into. -/
theorem LaidOut.cuts (h : LaidOut atStart s front passages) :
    Cuts atStart s front (passages.map Passage.toPiece) := by
  induction passages generalizing atStart s front with
  | nil =>
    obtain ⟨rfl, hquiet⟩ := laidOut_nil.mp h
    exact .whole hquiet
  | cons p passages ih =>
    obtain ⟨rest, hat, hquiet, hrest⟩ := laidOut_cons.mp h
    exact .next hat hquiet (ih hrest)

/-- The parts that a text is cut into are passages. -/
theorem Cuts.exists_laidOut (h : Cuts atStart s front pieces) :
    ∃ passages, LaidOut atStart s front passages ∧ passages.map Passage.toPiece = pieces := by
  induction h with
  | whole hquiet => exact ⟨[], laidOut_nil.mpr ⟨rfl, hquiet⟩, rfl⟩
  | @next atStart s front title rest content pieces hat hquiet _ ih =>
    obtain ⟨passages, hrest, rfl⟩ := ih
    obtain ⟨p, hp⟩ := Passage.exists_toPiece_eq hat.isTitle hrest.quiet
    obtain ⟨rfl, rfl⟩ := Prod.mk.inj hp
    exact ⟨p :: passages, laidOut_cons.mpr ⟨rest, hat, hquiet, hrest⟩, rfl⟩

theorem LaidOut.map_toSection_eq (h : LaidOut atStart s front passages) :
    passages.map Passage.toSection = (cut atStart s).2.map ofPart := by
  rw [h.cuts.cut_eq, List.map_map]
  exact List.map_congr_left fun p _ => p.ofPart_toPiece.symm

/-! ## The sections of a text -/

/-- A text without delimiters is one section without a title. The sections of any other text are those
that its passages hold, and it cannot be laid out in passages that hold other sections. -/
theorem ofText_laidOut (text : String) :
    (¬ HoldsDelimiter true (trimChars text.toList) ∧ ofText text = [{ content := trim text }]) ∨
      (HoldsDelimiter true (trimChars text.toList) ∧
        ∀ sections, ofText text = sections ↔ ∃ front passages,
          LaidOut true (trimChars text.toList) front passages ∧
            passages.map Passage.toSection = sections) := by
  by_cases hholds : HoldsDelimiter true (trimChars text.toList)
  · have hcuts := cuts_cut true (trimChars text.toList)
    have hpieces : (cut true (trimChars text.toList)).2 ≠ [] := by
      rw [Ne, hcuts.pieces_eq_nil_iff, Classical.not_not]
      exact hholds
    refine .inr ⟨hholds, fun sections => ?_⟩
    rw [ofText_of_cuts hcuts hpieces]
    constructor
    · rintro rfl
      obtain ⟨passages, hlaid, -⟩ := hcuts.exists_laidOut
      exact ⟨_, passages, hlaid, hlaid.map_toSection_eq⟩
    · rintro ⟨front, passages, hlaid, rfl⟩
      exact hlaid.map_toSection_eq.symm
  · exact .inl ⟨hholds, ofText_of_not_holdsDelimiter hholds⟩

end PromptTemplates.Section
