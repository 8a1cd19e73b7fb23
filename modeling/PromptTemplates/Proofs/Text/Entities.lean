import PromptTemplates.Text.Entity

/-!
# Reading entities back

The text of an element and the value of an attribute hold no character that ends them, and reading their
entities back gives the text that was escaped.
-/

namespace PromptTemplates.Text

/-- Reads the entities that markup is written with. All other characters stand for themselves. -/
def readEntities : List Char → List Char
  | '&' :: 'a' :: 'm' :: 'p' :: ';' :: rest => '&' :: readEntities rest
  | '&' :: 'l' :: 't' :: ';' :: rest => '<' :: readEntities rest
  | '&' :: 'g' :: 't' :: ';' :: rest => '>' :: readEntities rest
  | '&' :: '#' :: '3' :: '4' :: ';' :: rest => '"' :: readEntities rest
  | c :: rest => c :: readEntities rest
  | [] => []

theorem readEntities_cons {c : Char} (h : c ≠ '&') (rest : List Char) :
    readEntities (c :: rest) = c :: readEntities rest := by
  rw [readEntities]
  all_goals
    rintro _ rfl
    exact absurd rfl h

/-- The characters that element text is written with in place of the character itself. -/
theorem escapeTextChar_cases (c : Char) :
    (c = '&' ∧ escapeTextChar c = "&amp;".toList) ∨ (c = '<' ∧ escapeTextChar c = "&lt;".toList) ∨
      (c = '>' ∧ escapeTextChar c = "&gt;".toList) ∨
      (c ≠ '&' ∧ c ≠ '<' ∧ c ≠ '>' ∧ escapeTextChar c = [c]) := by
  unfold escapeTextChar
  split <;> simp_all

theorem escapeAttributeChar_cases (c : Char) :
    (c = '"' ∧ escapeAttributeChar c = "&#34;".toList) ∨
      (c ≠ '"' ∧ escapeAttributeChar c = escapeTextChar c) := by
  unfold escapeAttributeChar
  split <;> simp_all

theorem readEntities_escapeTextChar (c : Char) (rest : List Char) :
    readEntities (escapeTextChar c ++ rest) = c :: readEntities rest := by
  rcases escapeTextChar_cases c with ⟨rfl, h⟩ | ⟨rfl, h⟩ | ⟨rfl, h⟩ | ⟨hamp, -, -, h⟩
  · rfl
  · rfl
  · rfl
  · rw [h]
    exact readEntities_cons hamp rest

theorem readEntities_escapeAttributeChar (c : Char) (rest : List Char) :
    readEntities (escapeAttributeChar c ++ rest) = c :: readEntities rest := by
  rcases escapeAttributeChar_cases c with ⟨rfl, -⟩ | ⟨-, h⟩
  · rfl
  · rw [h]
    exact readEntities_escapeTextChar c rest

/-- A text that is escaped character by character is read back as it was. -/
theorem readEntities_flatMap {escape : Char → List Char}
    (h : ∀ c rest, readEntities (escape c ++ rest) = c :: readEntities rest) (s : List Char) :
    readEntities (s.flatMap escape) = s := by
  induction s with
  | nil => rfl
  | cons c s ih => rw [List.flatMap_cons, h, ih]

theorem readEntities_escapeText (s : String) : readEntities (escapeText s).toList = s.toList := by
  rw [escapeText, String.toList_ofList]
  exact readEntities_flatMap readEntities_escapeTextChar s.toList

theorem readEntities_escapeAttribute (s : String) :
    readEntities (escapeAttribute s).toList = s.toList := by
  rw [escapeAttribute, String.toList_ofList]
  exact readEntities_flatMap readEntities_escapeAttributeChar s.toList

/-- The characters of the entities in escaped text. -/
def entityChars : List Char := "&ampltg;".toList

/-- A character of escaped text stands for itself or belongs to an entity. -/
theorem mem_escapeTextChar {c d : Char} (h : d ∈ escapeTextChar c) :
    (d = c ∧ c ≠ '<' ∧ c ≠ '>') ∨ d ∈ entityChars := by
  have hentity : ∀ {s : List Char}, s.all entityChars.contains = true → d ∈ s → d ∈ entityChars :=
    fun hs hd => List.contains_iff_mem.mp (List.all_eq_true.mp hs d hd)
  rcases escapeTextChar_cases c with ⟨-, hc⟩ | ⟨-, hc⟩ | ⟨-, hc⟩ | ⟨-, hlt, hgt, hc⟩
  · rw [hc] at h
    exact .inr (hentity (by decide) h)
  · rw [hc] at h
    exact .inr (hentity (by decide) h)
  · rw [hc] at h
    exact .inr (hentity (by decide) h)
  · rw [hc, List.mem_singleton] at h
    exact .inl ⟨h, hlt, hgt⟩

/-- The text of an element holds no angle brackets. -/
theorem ne_of_mem_escapeText {s : String} {d : Char} (h : d ∈ (escapeText s).toList) :
    d ≠ '<' ∧ d ≠ '>' := by
  have hless : '<' ∉ entityChars := by decide
  have hgreater : '>' ∉ entityChars := by decide
  rw [escapeText, String.toList_ofList] at h
  obtain ⟨c, -, hd⟩ := List.mem_flatMap.mp h
  rcases mem_escapeTextChar hd with ⟨rfl, hlt, hgt⟩ | hd
  · exact ⟨hlt, hgt⟩
  · exact ⟨fun heq => hless (heq ▸ hd), fun heq => hgreater (heq ▸ hd)⟩

/-- The value of an attribute holds no quote. -/
theorem ne_of_mem_escapeAttribute {s : String} {d : Char} (h : d ∈ (escapeAttribute s).toList) :
    d ≠ '"' := by
  have hnone : '"' ∉ entityChars ++ "&#34;".toList := by decide
  have hentities : ∀ d ∈ entityChars ++ "&#34;".toList, d ≠ '"' := fun d hd heq => hnone (heq ▸ hd)
  rw [escapeAttribute, String.toList_ofList] at h
  obtain ⟨c, -, hd⟩ := List.mem_flatMap.mp h
  rcases escapeAttributeChar_cases c with ⟨-, hc⟩ | ⟨hquote, hc⟩
  · rw [hc] at hd
    exact hentities d (List.mem_append_right _ hd)
  · rw [hc] at hd
    rcases mem_escapeTextChar hd with ⟨rfl, -⟩ | hd
    · exact hquote
    · exact hentities d (List.mem_append_left _ hd)

end PromptTemplates.Text
