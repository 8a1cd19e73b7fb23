import PromptTemplates.Markup

/-!
# The parts of markup

An element has a tag, attributes and a content, and a pair stands for the element whose content is its
entry `text`. The written form of either is put together from the same parts in the same way.
-/

namespace PromptTemplates.Markup

/-- The tag, the attributes and the content of an element or a pair. -/
def parts? : Value → Option (String × List (Value × Value) × Value)
  | .element tag attributes content => some (tag, attributes, content)
  | .list [.str tag, .map props] => some (tag, attributesOf props, contentOf props)
  | .tuple [.str tag, .map props] => some (tag, attributesOf props, contentOf props)
  | _ => none
where
  attributesOf (props : List (Value × Value)) := props.filter fun entry => !isTextKey entry.1
  contentOf (props : List (Value × Value)) :=
    Value.ofOption ((props.find? fun entry => isTextKey entry.1).map (·.2))

/-- The text of an attribute: the written form of an element or a pair, and the text of any other
value. -/
def attributeText (v : Value) : String := (render? v).getD v.plainText

/-- The attributes that are written, which are those that count as true, with their texts. -/
def shown (attributes : List (Value × Value)) : List (String × String) :=
  (attributes.filter fun entry => entry.2.isTruthy).map fun entry =>
    (entry.1.plainText, attributeText entry.2)

/-- Attributes, one after the other. -/
def writeAttributes (attributes : List (String × String)) : String :=
  String.join (attributes.map fun (name, text) => writeAttribute name text)

/-- The written content of an element. -/
def writeContent (v : Value) : Option String :=
  match render? v with
  | some inner => some inner
  | none => plainContent v

/-- The parts are those of an element, or of a pair. -/
theorem eq_of_parts? {v content : Value} {tag : String} {attributes : List (Value × Value)}
    (h : parts? v = some (tag, attributes, content)) :
    v = .element tag attributes content ∨
      ∃ props, (v = .list [.str tag, .map props] ∨ v = .tuple [.str tag, .map props]) ∧
        attributes = parts?.attributesOf props ∧ content = parts?.contentOf props := by
  unfold parts? at h
  split at h
  · cases h
    exact .inl rfl
  · cases h
    exact .inr ⟨_, .inl rfl, rfl, rfl⟩
  · cases h
    exact .inr ⟨_, .inr rfl, rfl, rfl⟩
  · cases h

theorem render?_eq_none_iff {v : Value} : render? v = none ↔ parts? v = none := by
  fun_cases render? v with
  | case1 tag attributes content => simp [parts?]
  | case2 tag props => simp [parts?]
  | case3 tag props => simp [parts?]
  | case4 v helement hlist htuple =>
    refine iff_of_true rfl ?_
    unfold parts?
    split
    · exact absurd rfl (helement _ _ _)
    · exact absurd rfl (hlist _ _)
    · exact absurd rfl (htuple _ _)
    · rfl

/-- Only elements and pairs have a written form. -/
theorem isSome_parts?_of_render? {v : Value} {text : String} (h : render? v = some text) :
    (parts? v).isSome := by
  rw [Option.isSome_iff_ne_none, Ne, ← render?_eq_none_iff, h]
  simp

/-- Elements and pairs count as true. -/
theorem isTruthy_of_parts? {v : Value} (h : (parts? v).isSome) : v.isTruthy = true := by
  obtain ⟨⟨tag, attributes, content⟩, h⟩ := Option.isSome_iff_exists.mp h
  rcases eq_of_parts? h with rfl | ⟨props, rfl | rfl, -, -⟩ <;> rfl

/-- One attribute after the other is written, but for the content of a pair. -/
theorem renderAttributes_cons (ofPair : Bool) (entry : Value × Value) (rest : List (Value × Value)) :
    renderAttributes ofPair (entry :: rest) =
      if ofPair && isTextKey entry.1 then renderAttributes ofPair rest
      else (if entry.2.isTruthy then writeAttribute entry.1.plainText (attributeText entry.2) else "") ++
        renderAttributes ofPair rest := by
  obtain ⟨name, value⟩ := entry
  rw [renderAttributes, attributeText]
  cases hrender : render? value with
  | none => rfl
  | some inner =>
    have htruthy : value.isTruthy = true := isTruthy_of_parts? (isSome_parts?_of_render? hrender)
    simp [htruthy]

theorem renderAttributes_eq (attributes : List (Value × Value)) :
    renderAttributes false attributes = writeAttributes (shown attributes) := by
  induction attributes with
  | nil => rfl
  | cons entry rest ih =>
    rw [renderAttributes_cons, ih]
    cases htruthy : entry.2.isTruthy with
    | true => simp [writeAttributes, shown, htruthy, String.join_cons]
    | false => simp [shown, htruthy]

/-- Of a pair, the attributes are written that are not its content. -/
theorem renderAttributes_pair (props : List (Value × Value)) :
    renderAttributes true props = renderAttributes false (parts?.attributesOf props) := by
  induction props with
  | nil => rfl
  | cons entry rest ih =>
    unfold parts?.attributesOf at *
    cases hkey : isTextKey entry.1 with
    | true => simp [renderAttributes_cons, hkey, ih]
    | false => simp [renderAttributes_cons, hkey, ih]

theorem renderText_cons (entry : Value × Value) (rest : List (Value × Value)) :
    renderText (entry :: rest) =
      if isTextKey entry.1 then writeContent entry.2 else renderText rest := rfl

theorem renderText_pair (props : List (Value × Value)) :
    renderText props = writeContent (parts?.contentOf props) := by
  induction props with
  | nil => rfl
  | cons entry rest ih =>
    unfold parts?.contentOf at *
    rw [renderText_cons, List.find?_cons]
    cases hkey : isTextKey entry.1 with
    | true => rfl
    | false => exact ih

/-- The written form of an element or a pair, from its parts. -/
theorem render?_eq (v : Value) : render? v = (parts? v).map fun (tag, attributes, content) =>
    wrap tag (writeAttributes (shown attributes)) (writeContent content) := by
  cases hparts : parts? v with
  | none => exact render?_eq_none_iff.mpr hparts
  | some parts =>
    obtain ⟨tag, attributes, content⟩ := parts
    change _ = some (wrap tag (writeAttributes (shown attributes)) (writeContent content))
    rw [← renderAttributes_eq]
    rcases eq_of_parts? hparts with rfl | ⟨props, rfl | rfl, rfl, rfl⟩
    · rfl
    · rw [← renderAttributes_pair, ← renderText_pair]
      rfl
    · rw [← renderAttributes_pair, ← renderText_pair]
      rfl

theorem sizeOf_lt_of_mem {entry : Value × Value} {entries : List (Value × Value)} (h : entry ∈ entries) :
    sizeOf entry.2 < sizeOf entries := by
  have hentry := List.sizeOf_lt_of_mem h
  have hvalue : sizeOf entry = 1 + sizeOf entry.1 + sizeOf entry.2 := rfl
  omega

theorem sizeOf_contentOf_le (props : List (Value × Value)) :
    sizeOf (parts?.contentOf props) ≤ sizeOf props := by
  unfold parts?.contentOf
  cases hfind : props.find? fun entry => isTextKey entry.1 with
  | none =>
    cases props with
    | nil => simp [Value.ofOption]
    | cons entry rest => simp [Value.ofOption]; omega
  | some entry => exact Nat.le_of_lt (sizeOf_lt_of_mem (List.mem_of_find?_eq_some hfind))

/-- The content of an element or a pair is smaller than the whole. -/
theorem sizeOf_content_lt {v : Value} {tag : String} {attributes : List (Value × Value)}
    {content : Value} (h : parts? v = some (tag, attributes, content)) :
    sizeOf content < sizeOf v := by
  rcases eq_of_parts? h with rfl | ⟨props, rfl | rfl, -, rfl⟩
  · rw [Value.element.sizeOf_spec]
    omega
  · have := sizeOf_contentOf_le props
    simp
    omega
  · have := sizeOf_contentOf_le props
    simp
    omega

/-- What an element or a pair holds as an attribute is smaller than the whole. -/
theorem sizeOf_attribute_lt {v : Value} {tag : String} {attributes : List (Value × Value)}
    {content : Value} (h : parts? v = some (tag, attributes, content)) {entry : Value × Value}
    (hentry : entry ∈ attributes) : sizeOf entry.2 < sizeOf v := by
  rcases eq_of_parts? h with rfl | ⟨props, rfl | rfl, rfl, -⟩
  · have := sizeOf_lt_of_mem hentry
    rw [Value.element.sizeOf_spec]
    omega
  · have := sizeOf_lt_of_mem (List.mem_filter.mp hentry).1
    simp
    omega
  · have := sizeOf_lt_of_mem (List.mem_filter.mp hentry).1
    simp
    omega

end PromptTemplates.Markup
