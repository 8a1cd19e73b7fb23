import Mathlib.Data.List.Find
import PromptTemplates.Proofs.Text.Entities
import PromptTemplates.Proofs.Text.FirstOccurrence

/-!
# Entities that are reverted

In a finished text the quote-like entities are turned back into their characters. What an escaped value
becomes is found character by character: the entity of a quote becomes the quote, and the entities of the
ampersand and the angle brackets stay. None of them goes on in what follows it.
-/

namespace PromptTemplates.Text

/-- Before any further text, `s` is turned into `t`. -/
def UnescapesTo (s t : List Char) : Prop :=
  ∀ rest, unescapeFrom 0 (s ++ rest) = t ++ unescapeFrom 0 rest

/-- The entities that are not reverted. -/
def keptEntities : List (List Char) :=
  ["&amp;".toList, "&lt;".toList, "&gt;".toList, "&#34;".toList]

variable {s t u v : List Char} {c d : Char} {n : Nat}

/-! ## What stands at the beginning of a text -/

/-- Only an ampersand begins an entity. -/
theorem entityAt?_cons_of_ne (h : c ≠ '&') (rest : List Char) : entityAt? (c :: rest) = none := by
  have hamp : '&' ≠ c := h.symm
  simp [entityAt?, revertedEntities, startsWith, after?, hamp]

/-- A reverted entity at the beginning of a text is one of the table, and it is part of the text. -/
theorem exists_of_entityAt? (h : entityAt? s = some (d, n)) :
    ∃ entity rest, (entity, d) ∈ revertedEntities ∧ s = entity ++ rest ∧ n = entity.length := by
  obtain ⟨entry, hentry, heq⟩ := Option.map_eq_some_iff.mp h
  obtain ⟨rest, hrest⟩ := startsWith_iff.mp (by simpa using List.find?_some hentry)
  cases heq
  exact ⟨entry.1, rest, List.mem_of_find?_eq_some hentry, hrest, rfl⟩

theorem entityAt?_append (hv : ∀ c ∈ v.head?, ∀ entry ∈ revertedEntities, c ∉ entry.1) :
    entityAt? (u ++ v) = entityAt? u := by
  have hsame : ∀ entry ∈ revertedEntities, startsWith entry.1 (u ++ v) = startsWith entry.1 u := by
    intro entry hentry
    exact startsWith_append fun c hc => hv c hc entry hentry
  unfold entityAt?
  rw [List.find?_congr hsame]

/-! ## Texts that are put together -/

/-- A text is reverted apart from what follows it, if that begins with a character of no entity. -/
theorem unescapeFrom_append (hv : ∀ c ∈ v.head?, ∀ entry ∈ revertedEntities, c ∉ entry.1)
    (hn : n ≤ u.length) : unescapeFrom n (u ++ v) = unescapeFrom n u ++ unescapeFrom 0 v := by
  induction u generalizing n with
  | nil =>
    obtain rfl : n = 0 := by simpa using hn
    simp
  | cons c u ih =>
    cases n with
    | succ n => exact ih (by simpa using hn)
    | zero =>
      have hentity := entityAt?_append (u := c :: u) hv
      rw [List.cons_append] at hentity
      rw [List.cons_append]
      cases hfound : entityAt? (c :: u) with
      | none =>
        rw [unescapeFrom_of_entityAt?_eq_none (hentity.trans hfound),
          unescapeFrom_of_entityAt?_eq_none hfound, ih (Nat.zero_le _), List.cons_append]
      | some found =>
        obtain ⟨d, n⟩ := found
        obtain ⟨entity, rest, -, hrest, rfl⟩ := exists_of_entityAt? hfound
        have hlength : entity.length ≤ u.length + 1 := by
          have := congrArg List.length hrest
          simp at this
          omega
        rw [unescapeFrom_of_entityAt? (hentity.trans hfound), unescapeFrom_of_entityAt? hfound,
          ih (by omega), List.cons_append]

namespace UnescapesTo

theorem unescapeFrom_eq (h : UnescapesTo s t) : unescapeFrom 0 s = t := by
  simpa using h []

theorem nil : UnescapesTo [] [] := fun _ => rfl

theorem append (h : UnescapesTo s t) (h' : UnescapesTo u v) : UnescapesTo (s ++ u) (t ++ v) := by
  intro rest
  rw [List.append_assoc, h, h', List.append_assoc]

/-- What is written piece by piece is reverted piece by piece. -/
theorem flatMap {α : Type} {l : List α} {f g : α → List Char} (h : ∀ a ∈ l, UnescapesTo (f a) (g a)) :
    UnescapesTo (l.flatMap f) (l.flatMap g) := by
  induction l with
  | nil => exact nil
  | cons a l ih =>
    rw [List.flatMap_cons, List.flatMap_cons]
    exact (h a List.mem_cons_self).append (ih fun b hb => h b (List.mem_cons_of_mem a hb))

theorem char (h : c ≠ '&') : UnescapesTo [c] [c] := by
  intro rest
  exact unescapeFrom_of_entityAt?_eq_none (entityAt?_cons_of_ne h rest)

/-- A text without ampersands stays. -/
theorem of_not_mem (h : '&' ∉ s) : UnescapesTo s s := by
  induction s with
  | nil => exact nil
  | cons c s ih =>
    rw [List.mem_cons, not_or] at h
    exact (char (Ne.symm h.1)).append (ih h.2)

theorem reverted {entity : List Char} (h : (entity, c) ∈ revertedEntities) :
    UnescapesTo entity [c] := by
  have hall : ∀ entry ∈ revertedEntities, UnescapesTo entry.1 [entry.2] := by
    simp only [revertedEntities, List.forall_mem_cons, List.not_mem_nil, false_implies, implies_true,
      and_true]
    exact ⟨fun _ => rfl, fun _ => rfl, fun _ => rfl, fun _ => rfl, fun _ => rfl⟩
  exact hall _ h

theorem kept {entity : List Char} (h : entity ∈ keptEntities) : UnescapesTo entity entity := by
  have hall : ∀ entity ∈ keptEntities, UnescapesTo entity entity := by
    simp only [keptEntities, List.forall_mem_cons, List.not_mem_nil, false_implies, implies_true,
      and_true]
    exact ⟨fun _ => rfl, fun _ => rfl, fun _ => rfl, fun _ => rfl⟩
  exact hall _ h

end UnescapesTo

/-! ## The text of markup -/

theorem unescapesTo_escapeTextChar (c : Char) : UnescapesTo (escapeTextChar c) (escapeTextChar c) := by
  rcases escapeTextChar_cases c with ⟨-, h⟩ | ⟨-, h⟩ | ⟨-, h⟩ | ⟨hamp, -, -, h⟩
  · rw [h]
    exact .kept (by decide)
  · rw [h]
    exact .kept (by decide)
  · rw [h]
    exact .kept (by decide)
  · rw [h]
    exact .char hamp

theorem unescapesTo_escapeAttributeChar (c : Char) :
    UnescapesTo (escapeAttributeChar c) (escapeAttributeChar c) := by
  rcases escapeAttributeChar_cases c with ⟨-, h⟩ | ⟨-, h⟩
  · rw [h]
    exact .kept (by decide)
  · rw [h]
    exact unescapesTo_escapeTextChar c

/-! ## Escaped values -/

/-- How a value is written one character at a time, the equals sign as an entity too. -/
def escapeEqualsChar : Char → List Char
  | '=' => "&#x3D;".toList
  | c => escapeChar c

/-- Escapes a value, and the equals signs in it too. -/
def escapeEquals (s : String) : String := String.ofList (s.toList.flatMap escapeEqualsChar)

/-- An escaped character is an entity that stays, an entity that is reverted, or the character itself. -/
theorem escapeChar_cases (c : Char) :
    (escapeChar c ∈ keptEntities ∧ escapeTextChar c = escapeChar c) ∨
      ((escapeChar c, c) ∈ revertedEntities ∧ escapeTextChar c = [c]) ∨
      (c ≠ '&' ∧ escapeChar c = [c] ∧ escapeTextChar c = [c]) := by
  unfold escapeChar
  split
  · exact .inl (by decide)
  · exact .inr (.inl (by decide))
  · exact .inr (.inl (by decide))
  · exact .inr (.inl (by decide))
  · exact .inl (by decide)
  · exact .inl (by decide)
  · next hamp _ _ _ hless hgreater =>
    refine .inr (.inr ⟨hamp, rfl, ?_⟩)
    unfold escapeTextChar
    split <;> simp_all

theorem unescapesTo_escapeChar (c : Char) : UnescapesTo (escapeChar c) (escapeTextChar c) := by
  rcases escapeChar_cases c with ⟨hkept, htext⟩ | ⟨hreverted, htext⟩ | ⟨hamp, hself, htext⟩
  · rw [htext]
    exact .kept hkept
  · rw [htext]
    exact .reverted hreverted
  · rw [htext, hself]
    exact .char hamp

theorem unescapesTo_escapeEqualsChar (c : Char) :
    UnescapesTo (escapeEqualsChar c) (escapeTextChar c) := by
  unfold escapeEqualsChar
  split
  · exact .reverted (by decide)
  · exact unescapesTo_escapeChar c

/-- A value that is escaped character by character keeps the entities of the ampersand and of the angle
brackets, and gets all other characters back. -/
theorem unescape_flatMap {f : Char → List Char} (h : ∀ c, UnescapesTo (f c) (escapeTextChar c))
    (s : String) : unescape (String.ofList (s.toList.flatMap f)) = escapeText s := by
  have hall : UnescapesTo (s.toList.flatMap f) (s.toList.flatMap escapeTextChar) :=
    .flatMap fun c _ => h c
  rw [unescape, String.toList_ofList, hall.unescapeFrom_eq, escapeText]

@[simp] theorem escapeText_append (s t : String) : escapeText (s ++ t) = escapeText s ++ escapeText t := by
  simp [escapeText]

/-- Reverting an escaped value leaves just its ampersands and angle brackets escaped, whether or not the
equals sign is escaped. So an entity that is written out in the value comes out with its ampersand
escaped once, and not as a character. -/
theorem unescape_escape (s : String) :
    unescape (escapeEquals s) = escapeText s ∧ unescape (escape s) = escapeText s ∧
      ∀ before name after, s = before ++ "&" ++ name ++ after → escapeText name = name →
        unescape (escapeEquals s) = escapeText before ++ "&amp;" ++ name ++ escapeText after := by
  have hall : unescape (escapeEquals s) = escapeText s :=
    unescape_flatMap unescapesTo_escapeEqualsChar s
  refine ⟨hall, unescape_flatMap unescapesTo_escapeChar s, ?_⟩
  intro before name after hs hname
  have hamp : escapeText "&" = "&amp;" := by decide
  rw [hall, hs, escapeText_append, escapeText_append, escapeText_append, hname, hamp]

example : unescape (escapeEquals "a = &quot; < &amp;#39;") = "a = &amp;quot; &lt; &amp;amp;#39;" := by
  decide

end PromptTemplates.Text
