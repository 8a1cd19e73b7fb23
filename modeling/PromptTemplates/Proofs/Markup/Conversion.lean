import PromptTemplates.Proofs.Markup.Parts

/-!
# Converting markup

A pair stands for an element, and it is turned into one either at once, with all the pairs in it, or not
before it is written. Conversion changes neither what is written of a value nor whether the value counts
as true, so it does not matter how many pairs have been converted when an element is written.
-/

namespace PromptTemplates.Markup

/-- An attribute of an element as it is written, with the blank before it. An attribute that does not
count as true is passed over, and a pair is converted first. -/
def attributeLate (entry : Value × Value) : Option String :=
  if entry.2.isTruthy then some (writeAttribute entry.1.plainText (convert entry.2).text) else none

/-- The content of an element as it is written, a pair being converted first. -/
def contentLate (content : Value) : Option String :=
  match convert content with
  | .element tag attributes inner => some (Value.element tag attributes inner).text
  | v => plainContent v

/-- An element whose pairs are converted only when they are written. -/
def writeLate (tag : String) (attributes : List (Value × Value)) (content : Value) : String :=
  wrap tag (String.join (attributes.filterMap attributeLate)) (contentLate content)

/-- Attributes with their pairs converted. -/
def convertEntries (attributes : List (Value × Value)) : List (Value × Value) :=
  attributes.map fun entry => (entry.1, convert entry.2)

variable {v : Value}

/-! ## Converting -/

theorem convertAttributes_cons (entry : Value × Value) (rest : List (Value × Value)) :
    convertAttributes (entry :: rest) =
      if isTextKey entry.1 then convertAttributes rest
      else (entry.1, convert entry.2) :: convertAttributes rest := rfl

theorem convertText_cons (entry : Value × Value) (rest : List (Value × Value)) :
    convertText (entry :: rest) =
      if isTextKey entry.1 then convert entry.2 else convertText rest := rfl

theorem convertAttributes_eq (props : List (Value × Value)) :
    convertAttributes props = convertEntries (parts?.attributesOf props) := by
  induction props with
  | nil => rfl
  | cons entry rest ih =>
    unfold parts?.attributesOf convertEntries at *
    cases hkey : isTextKey entry.1 <;> simp [convertAttributes_cons, hkey, ih]

theorem convertText_eq (props : List (Value × Value)) :
    convertText props = convert (parts?.contentOf props) := by
  induction props with
  | nil => rfl
  | cons entry rest ih =>
    unfold parts?.contentOf at *
    cases hkey : isTextKey entry.1 <;> simp [convertText_cons, hkey, ih, Value.ofOption]

theorem convert_list (tag : String) (props : List (Value × Value)) :
    convert (.list [.str tag, .map props]) =
      .element tag (convertEntries (parts?.attributesOf props)) (convert (parts?.contentOf props)) := by
  rw [← convertAttributes_eq, ← convertText_eq]
  rfl

theorem convert_tuple (tag : String) (props : List (Value × Value)) :
    convert (.tuple [.str tag, .map props]) =
      .element tag (convertEntries (parts?.attributesOf props)) (convert (parts?.contentOf props)) := by
  rw [← convertAttributes_eq, ← convertText_eq]
  rfl

/-- A value stays as it is, or it becomes an element of its converted parts. -/
theorem convert_cases (v : Value) : convert v = v ∨ ∃ tag attributes content,
    parts? v = some (tag, attributes, content) ∧
      convert v = .element tag (convertEntries attributes) (convert content) := by
  fun_cases convert v with
  | case1 tag props => exact .inr ⟨_, _, _, rfl, convert_list tag props⟩
  | case2 tag props => exact .inr ⟨_, _, _, rfl, convert_tuple tag props⟩
  | case3 v hlist htuple => exact .inl rfl

/-- No pair is left by conversion. -/
theorem convert_ne_pair (v : Value) (tag : String) (props : List (Value × Value)) :
    convert v ≠ .list [.str tag, .map props] ∧ convert v ≠ .tuple [.str tag, .map props] := by
  rcases convert_cases v with hself | ⟨tag', attributes, content, -, h⟩
  · rw [hself]
    constructor
    · rintro rfl
      rw [convert_list] at hself
      cases hself
    · rintro rfl
      rw [convert_tuple] at hself
      cases hself
  · rw [h]
    exact ⟨Value.noConfusion, Value.noConfusion⟩

theorem isTruthy_convert (v : Value) : (convert v).isTruthy = v.isTruthy := by
  rcases convert_cases v with h | ⟨tag, attributes, content, hparts, h⟩
  · rw [h]
  · have htruthy : v.isTruthy = true := isTruthy_of_parts? (by simp [hparts])
    rw [h, htruthy]
    rfl

/-! ## Writing what has been converted -/

/-- Only what has a written form is converted. -/
theorem convert_of_render?_eq_none (h : render? v = none) : convert v = v := by
  rcases convert_cases v with hself | ⟨tag, attributes, content, hparts, -⟩
  · exact hself
  · rw [render?_eq_none_iff, hparts] at h
    cases h

theorem attributeText_convert (h : render? (convert v) = render? v) :
    attributeText (convert v) = attributeText v := by
  unfold attributeText
  cases hrender : render? v with
  | none => rw [convert_of_render?_eq_none hrender, hrender]
  | some text => rw [h, hrender, Option.getD_some, Option.getD_some]

theorem writeContent_convert (h : render? (convert v) = render? v) :
    writeContent (convert v) = writeContent v := by
  unfold writeContent
  cases hrender : render? v with
  | none => rw [convert_of_render?_eq_none hrender, hrender]
  | some text => rw [h, hrender]

theorem shown_convertEntries {attributes : List (Value × Value)}
    (h : ∀ entry ∈ attributes, render? (convert entry.2) = render? entry.2) :
    shown (convertEntries attributes) = shown attributes := by
  induction attributes with
  | nil => rfl
  | cons entry rest ih =>
    obtain ⟨hentry, hrest⟩ := List.forall_mem_cons.mp h
    have hrest := ih hrest
    unfold shown convertEntries at *
    rw [List.map_cons, List.filter_cons, List.filter_cons, isTruthy_convert]
    cases htruthy : entry.2.isTruthy with
    | true => simp [hrest, attributeText_convert hentry]
    | false => simpa using hrest

/-- A value is written the same whether it has been converted or not. -/
theorem render?_convert (v : Value) : render? (convert v) = render? v := by
  rcases convert_cases v with h | ⟨tag, attributes, content, hparts, h⟩
  · rw [h]
  · have hattributes : ∀ entry ∈ attributes, render? (convert entry.2) = render? entry.2 := by
      intro entry hentry
      have hlt := sizeOf_attribute_lt hparts hentry
      exact render?_convert entry.2
    have hlt := sizeOf_content_lt hparts
    have hcontent := render?_convert content
    rw [h, render?_eq, render?_eq v, hparts]
    simp [parts?, shown_convertEntries hattributes, writeContent_convert hcontent]
termination_by sizeOf v

/-! ## Conversion before and after -/

/-- After conversion only elements have a written form. -/
theorem render?_convert_eq_none
    (h : ∀ tag attributes content, convert v ≠ .element tag attributes content) :
    render? (convert v) = none := by
  rw [render?_eq_none_iff]
  cases hparts : parts? (convert v) with
  | none => rfl
  | some parts =>
    obtain ⟨tag, attributes, content⟩ := parts
    rcases eq_of_parts? hparts with helement | ⟨props, hlist | htuple, -, -⟩
    · exact absurd helement (h tag attributes content)
    · exact absurd hlist (convert_ne_pair v tag props).1
    · exact absurd htuple (convert_ne_pair v tag props).2

theorem render?_element_eq (tag : String) (attributes : List (Value × Value)) (content : Value) :
    render? (.element tag attributes content) = some (Value.element tag attributes content).text := rfl

/-- Once it is converted, a value has the text that is written of it. -/
theorem text_convert (v : Value) : (convert v).text = attributeText v := by
  rw [← attributeText_convert (render?_convert v), attributeText]
  cases hconvert : convert v with
  | element tag attributes content => rw [render?_element_eq, Option.getD_some]
  | _ =>
    have hnone := render?_convert_eq_none (v := v) (by simp [hconvert])
    rw [hconvert] at hnone
    rw [hnone, Option.getD_none]
    rfl

theorem filterMap_attributeLate (attributes : List (Value × Value)) :
    String.join (attributes.filterMap attributeLate) = writeAttributes (shown attributes) := by
  induction attributes with
  | nil => rfl
  | cons entry rest ih =>
    unfold writeAttributes shown at *
    cases htruthy : entry.2.isTruthy with
    | true => simp [attributeLate, htruthy, text_convert, String.join_cons, ih]
    | false => simp [attributeLate, htruthy, ih]

theorem contentLate_eq (content : Value) : contentLate content = writeContent content := by
  rw [← writeContent_convert (render?_convert content), contentLate, writeContent]
  cases hconvert : convert content with
  | element tag attributes inner => rw [render?_element_eq]
  | _ =>
    have hnone := render?_convert_eq_none (v := content) (by simp [hconvert])
    rw [hconvert] at hnone
    rw [hnone]

/-- An element is written as if the pairs in it were converted only then. -/
theorem render?_element (tag : String) (attributes : List (Value × Value)) (content : Value) :
    render? (.element tag attributes content) = some (writeLate tag attributes content) := by
  rw [render?_eq, writeLate, filterMap_attributeLate, contentLate_eq]
  rfl

/-- A pair is written the same whether it is converted with all the pairs in it, or is taken for an
element whose parts stay as they are until they are written. This is the text that it puts out. -/
theorem written_early_or_late (tag : String) (props : List (Value × Value)) :
    let text := writeLate tag (parts?.attributesOf props) (parts?.contentOf props)
    render? (.element tag (parts?.attributesOf props) (parts?.contentOf props)) = some text ∧
      render? (convert (.list [.str tag, .map props])) = some text ∧
      render? (convert (.tuple [.str tag, .map props])) = some text ∧
      toOutput (.list [.str tag, .map props]) = .safe [text] ∧
      toOutput (.tuple [.str tag, .map props]) = .safe [text] := by
  intro text
  have hlate : render? (.element tag (parts?.attributesOf props) (parts?.contentOf props)) = some text :=
    render?_element tag (parts?.attributesOf props) (parts?.contentOf props)
  have hlist : render? (convert (.list [.str tag, .map props])) = some text := by
    rw [render?_convert, ← hlate, render?_eq, render?_eq]
    rfl
  have htuple : render? (convert (.tuple [.str tag, .map props])) = some text := by
    rw [render?_convert, ← hlate, render?_eq, render?_eq]
    rfl
  refine ⟨hlate, hlist, htuple, ?_, ?_⟩
  · simp [toOutput, hlist]
  · simp [toOutput, htuple]

end PromptTemplates.Markup
