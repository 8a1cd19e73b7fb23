import PromptTemplates.Proofs.Markup.Parts
import PromptTemplates.Proofs.Text.RevertedEntities

/-!
# Markup in a finished text

Reverting the quote-like entities of a finished text leaves the markup in it as it was written. The
entities that markup is written with are not among those that are reverted, and no entity reaches into
an element or out of one.
-/

namespace PromptTemplates.Markup

open Text

/-- No tag and no name of an attribute holds an ampersand, in an element or a pair and in those that it
holds as its content. What is held as an attribute is escaped as a whole, so its names do not matter. -/
inductive IsPlainlyNamed : Value → Prop
  | mk {v content : Value} {tag : String} {attributes : List (Value × Value)} :
      parts? v = some (tag, attributes, content) → '&' ∉ tag.toList →
      (∀ entry ∈ attributes, '&' ∉ entry.1.plainText.toList) →
      ((parts? content).isSome → IsPlainlyNamed content) → IsPlainlyNamed v

/-- A text that is left as it is, whatever follows it. -/
abbrev Survives (s : String) : Prop := UnescapesTo s.toList s.toList

variable {s t tag : String} {attributes : List (String × String)}

/-! ## The parts of an element -/

theorem Survives.append (hs : Survives s) (ht : Survives t) : Survives (s ++ t) := by
  unfold Survives
  rw [String.toList_append]
  exact UnescapesTo.append hs ht

theorem survives_join {parts : List String} (h : ∀ s ∈ parts, Survives s) :
    Survives (String.join parts) := by
  unfold Survives
  rw [String.toList_join]
  exact .flatMap h

theorem survives_escapeText (s : String) : Survives (escapeText s) := by
  unfold Survives
  rw [escapeText, String.toList_ofList]
  exact .flatMap fun c _ => unescapesTo_escapeTextChar c

theorem survives_escapeAttribute (s : String) : Survives (escapeAttribute s) := by
  unfold Survives
  rw [escapeAttribute, String.toList_ofList]
  exact .flatMap fun c _ => unescapesTo_escapeAttributeChar c

theorem survives_of_not_mem (h : '&' ∉ s.toList) : Survives s := UnescapesTo.of_not_mem h

theorem survives_writeAttribute {name : String} (h : '&' ∉ name.toList) (text : String) :
    Survives (writeAttribute name text) := by
  have hblank : Survives " " := survives_of_not_mem (by decide)
  have hopen : Survives "=\"" := survives_of_not_mem (by decide)
  have hclose : Survives "\"" := survives_of_not_mem (by decide)
  have hname := (hblank.append (survives_of_not_mem h)).append hopen
  exact (hname.append (survives_escapeAttribute text)).append hclose

theorem survives_writeAttributes (h : ∀ entry ∈ attributes, '&' ∉ entry.1.toList) :
    Survives (writeAttributes attributes) := by
  refine survives_join fun s hs => ?_
  obtain ⟨entry, hentry, rfl⟩ := List.mem_map.mp hs
  exact survives_writeAttribute (h entry hentry) entry.2

theorem survives_wrap {content : Option String} (htag : '&' ∉ tag.toList) (ht : Survives t)
    (hcontent : ∀ inner ∈ content, Survives inner) : Survives (wrap tag t content) := by
  have hopen : Survives ("<" ++ tag ++ t) :=
    (survives_of_not_mem (s := "<" ++ tag) (by simpa using htag)).append ht
  cases content with
  | none => exact hopen.append (survives_of_not_mem (by decide))
  | some inner =>
    have hend : Survives ("</" ++ tag ++ ">") := survives_of_not_mem (by simpa using htag)
    have hsign : Survives ">" := survives_of_not_mem (by decide)
    have hall := ((hopen.append hsign).append (hcontent inner rfl)).append hend
    simpa [wrap, String.append_assoc] using hall

theorem survives_plainContent (v : Value) : ∀ inner ∈ plainContent v, Survives inner := by
  intro inner hinner
  unfold plainContent at hinner
  split at hinner
  · obtain rfl : escapeText v.plainText = inner := by simpa using hinner
    exact survives_escapeText v.plainText
  · cases hinner

/-! ## Elements in a text -/

theorem IsPlainlyNamed.survives {v : Value} (h : IsPlainlyNamed v) : ∃ text, render? v = some text ∧
    Survives text := by
  induction h with
  | @mk v content tag attributes hparts htag hnames _ ih =>
    have hnames : ∀ entry ∈ shown attributes, '&' ∉ entry.1.toList := by
      intro entry hentry
      obtain ⟨entry, hmem, rfl⟩ := List.mem_map.mp hentry
      exact hnames entry (List.mem_filter.mp hmem).1
    have hcontent : ∀ inner ∈ writeContent content, Survives inner := by
      intro inner hinner
      unfold writeContent at hinner
      cases hrender : render? content with
      | none =>
        rw [hrender] at hinner
        exact survives_plainContent content inner hinner
      | some text =>
        obtain ⟨text, htext, hsurvives⟩ := ih (isSome_parts?_of_render? hrender)
        rw [htext] at hinner
        cases hinner
        exact hsurvives
    rw [render?_eq, hparts]
    exact ⟨_, rfl, survives_wrap htag (survives_writeAttributes hnames) hcontent⟩

theorem head?_wrap (tag attributes : String) (content : Option String) :
    (wrap tag attributes content).toList.head? = some '<' := by
  cases content <;> simp [wrap]

/-- The written form of an element begins with an angle bracket, which no entity holds. -/
theorem not_mem_of_render? {v : Value} {text : String} (h : render? v = some text) (rest : List Char) :
    ∀ c ∈ (text.toList ++ rest).head?, ∀ entry ∈ revertedEntities, c ∉ entry.1 := by
  intro c hc
  rw [render?_eq, Option.map_eq_some_iff] at h
  obtain ⟨⟨tag, attributes, content⟩, -, rfl⟩ := h
  rw [List.head?_append, head?_wrap] at hc
  obtain rfl : '<' = c := by simpa using hc
  decide

/-- Reverting entities leaves an element as it was written, by itself and wherever it stands in a text:
what is before it and after it is reverted as if it stood alone. -/
theorem unescape_render? {v : Value} (h : IsPlainlyNamed v) : ∃ text, render? v = some text ∧
    unescape text = text ∧
    ∀ before after, unescape (before ++ text ++ after) = unescape before ++ text ++ unescape after := by
  obtain ⟨text, hrender, hsurvives⟩ := h.survives
  have halone : unescape text = text := by
    rw [unescape, hsurvives.unescapeFrom_eq, String.ofList_toList]
  refine ⟨text, hrender, halone, fun before after => ?_⟩
  have hsplit := unescapeFrom_append (not_mem_of_render? hrender after.toList)
    (Nat.zero_le before.toList.length)
  rw [hsurvives] at hsplit
  simp [unescape, hsplit, String.append_assoc]

/-- A link with an element in an attribute and a pair inside, the text of either made of quotes and
entities. -/
def quotingLink : Value :=
  .element "a" [(.str "title", .element "b" [] (.str "\"&quot;\""))]
    (.list [.str "i", .map [(.str "text", .str "&#39;")]])

/-- The written form of the link. -/
def quotingText : String :=
  "<a title=\"&lt;b&gt;&#34;&amp;amp;quot;&#34;&lt;/b&gt;\"><i>&amp;#39;</i></a>"

theorem unescape_quotingLink : IsPlainlyNamed quotingLink ∧ render? quotingLink = some quotingText ∧
    unescape quotingText = quotingText ∧
    unescape ("&quot;" ++ quotingText ++ "&#39;") = "\"" ++ quotingText ++ "'" := by
  have hlink : IsPlainlyNamed quotingLink := by
    refine .mk rfl (by decide) (by decide) fun _ => .mk rfl (by decide) ?_ ?_
    · simp [parts?.attributesOf, isTextKey]
    · simp [parts?.contentOf, isTextKey, Value.ofOption, parts?]
  obtain ⟨text, hrender, halone, hamid⟩ := unescape_render? hlink
  have htext : render? quotingLink = some quotingText := by decide
  obtain rfl : text = quotingText := by simpa [hrender] using htext
  have hbefore : unescape "&quot;" = "\"" := by decide
  have hafter : unescape "&#39;" = "'" := by decide
  refine ⟨hlink, hrender, halone, ?_⟩
  rw [hamid, hbefore, hafter]

end PromptTemplates.Markup
