import Mathlib.Data.List.Infix
import PromptTemplates.Proofs.Text.RevertedEntities

/-!
# Cutting a text at its entities

A text is cut into the entities that are reverted and the other characters, and there is one way to do so
that leaves no entity uncut. Reverting the text writes each entity of the cut as its character and keeps
all else where it is. No entity holds a character that one is reverted to, so no new entity comes together
in the result, and reverting the result changes nothing.
-/

namespace PromptTemplates.Text

/-- A piece of a text: an entity that is reverted, or another character. -/
inductive Snippet
  | entity (name : List Char) (char : Char) (mem : (name, char) ∈ revertedEntities)
  | other (c : Char)

namespace Snippet

/-- What a snippet is in the text. -/
def source : Snippet → List Char
  | entity name _ _ => name
  | other c => [c]

/-- What a snippet is in the reverted text. -/
def result : Snippet → Char
  | entity _ char _ => char
  | other c => c

@[simp] theorem flatMap_source_map_other (w : List Char) : (w.map other).flatMap source = w := by
  simp [List.flatMap_map, source]

@[simp] theorem map_result_map_other (w : List Char) : (w.map other).map result = w := by
  rw [List.map_map]
  exact List.map_id w

end Snippet

/-- The text is cut into the snippets, and no entity is left that is spelled by other characters. -/
structure IsCut (s : List Char) (cut : List Snippet) : Prop where
  source_eq : cut.flatMap Snippet.source = s
  leavesNone : ∀ entry ∈ revertedEntities, ¬ entry.1.map Snippet.other <:+: cut

/-- What stays wherever it stands: the entities that are not reverted, and the angle brackets. -/
def keptTexts : List (List Char) := keptEntities ++ [['<'], ['>']]

variable {s u v w name : List Char} {c char : Char} {entry : List Char × Char} {cut cut' : List Snippet}

/-! ## The entities -/

/-- An entity begins with an ampersand and has no other. -/
theorem exists_ampersand_cons (h : (name, char) ∈ revertedEntities) : ∃ w, name = '&' :: w ∧ '&' ∉ w := by
  have hall : ∀ entry ∈ revertedEntities, entry.1 = '&' :: entry.1.tail ∧ '&' ∉ entry.1.tail := by
    decide
  exact ⟨name.tail, hall (name, char) h⟩

/-- No entity holds a character that one is reverted to. -/
theorem char_notMem_entity {other : List Char × Char} (h : entry ∈ revertedEntities)
    (hother : other ∈ revertedEntities) : entry.2 ∉ other.1 := by
  have hall : ∀ entry ∈ revertedEntities, ∀ other ∈ revertedEntities, entry.2 ∉ other.1 := by decide
  exact hall entry h other hother

/-- No entity goes on behind the end of another. -/
theorem entity_eq_of_begins {other : List Char × Char} (h : entry ∈ revertedEntities)
    (hother : other ∈ revertedEntities) (hbegins : entry.1 <+: other.1) : entry = other := by
  have hall : ∀ entry ∈ revertedEntities, ∀ other ∈ revertedEntities, entry.1 <+: other.1 →
      entry = other := by decide
  exact hall entry h other hother hbegins

/-- An entity does not begin with its character. -/
theorem entity_append_ne (mem : (name, char) ∈ revertedEntities) : name ++ u ≠ char :: v := by
  have hnone : char ∉ name := char_notMem_entity mem mem
  obtain ⟨w, rfl, -⟩ := exists_ampersand_cons mem
  intro heq
  obtain ⟨rfl, -⟩ := List.cons.inj heq
  exact hnone List.mem_cons_self

theorem entityAt?_eq_none_iff :
    entityAt? s = none ↔ ∀ entry ∈ revertedEntities, ¬ entry.1 <+: s := by
  unfold entityAt?
  rw [Option.map_eq_none_iff, List.find?_eq_none]
  refine forall₂_congr fun entry _ => not_congr ?_
  rw [startsWith_iff]
  exact exists_congr fun rest => eq_comm

/-! ## Snippets one after another -/

/-- What begins a text and has no ampersand is made of other characters. -/
theorem map_other_prefix_of_source (hamp : '&' ∉ w) (h : w <+: cut.flatMap Snippet.source) :
    w.map Snippet.other <+: cut := by
  induction w generalizing cut with
  | nil => exact List.nil_prefix
  | cons d w ih =>
    obtain ⟨hd, hw⟩ := not_or.mp (mt List.mem_cons.mpr hamp)
    cases cut with
    | nil => simp at h
    | cons snippet cut =>
      rw [List.flatMap_cons] at h
      cases snippet with
      | entity name char mem =>
        obtain ⟨tail, hname, -⟩ := exists_ampersand_cons mem
        rw [Snippet.source, hname, List.cons_append, List.cons_prefix_cons] at h
        exact absurd h.1.symm hd
      | other c =>
        rw [Snippet.source, List.cons_append, List.nil_append, List.cons_prefix_cons] at h
        rw [List.map_cons, List.cons_prefix_cons]
        exact ⟨congrArg Snippet.other h.1, ih hw h.2⟩

/-- What begins a reverted text and has no reverted character is made of other characters. -/
theorem map_other_prefix_of_result (hnone : ∀ entry ∈ revertedEntities, entry.2 ∉ w)
    (h : w <+: cut.map Snippet.result) : w.map Snippet.other <+: cut := by
  induction w generalizing cut with
  | nil => exact List.nil_prefix
  | cons d w ih =>
    cases cut with
    | nil => simp at h
    | cons snippet cut =>
      rw [List.map_cons, List.cons_prefix_cons] at h
      cases snippet with
      | entity name char mem => exact absurd (h.1 ▸ List.mem_cons_self) (hnone (name, char) mem)
      | other c =>
        have hw : ∀ entry ∈ revertedEntities, entry.2 ∉ w := fun entry hentry hmem =>
          hnone entry hentry (List.mem_cons_of_mem d hmem)
        rw [List.map_cons, List.cons_prefix_cons]
        exact ⟨congrArg Snippet.other h.1, ih hw h.2⟩

/-- An entity at the beginning of a text is cut off as a whole or spelled by other characters. -/
theorem map_other_prefix_cons_iff (h : entry ∈ revertedEntities) :
    entry.1.map Snippet.other <+: .other c :: cut ↔ entry.1 <+: c :: cut.flatMap Snippet.source := by
  constructor
  · intro hbegins
    simpa [Snippet.source] using hbegins.flatMap Snippet.source
  · intro hbegins
    obtain ⟨w, hname, hamp⟩ := exists_ampersand_cons h
    rw [hname, List.cons_prefix_cons] at hbegins
    rw [hname, List.map_cons, List.cons_prefix_cons]
    -- Its one ampersand is behind it, so the rest of the entity cannot reach into another one.
    exact ⟨congrArg Snippet.other hbegins.1, map_other_prefix_of_source hamp hbegins.2⟩

theorem isCut_nil : IsCut s [] ↔ s = [] := by
  constructor
  · rintro ⟨hsource, -⟩
    exact hsource.symm
  · rintro rfl
    refine ⟨rfl, fun entry hentry hheld => ?_⟩
    obtain ⟨w, hname, -⟩ := exists_ampersand_cons hentry
    simp [hname] at hheld

theorem isCut_entity {mem : (name, char) ∈ revertedEntities} :
    IsCut s (.entity name char mem :: cut) ↔ ∃ rest, s = name ++ rest ∧ IsCut rest cut := by
  constructor
  · rintro ⟨rfl, hnone⟩
    refine ⟨cut.flatMap Snippet.source, rfl, rfl, fun entry hentry hheld => ?_⟩
    exact hnone entry hentry (List.infix_cons_iff.mpr (.inr hheld))
  · rintro ⟨rest, rfl, rfl, hnone⟩
    refine ⟨rfl, fun entry hentry hheld => ?_⟩
    rcases List.infix_cons_iff.mp hheld with hbegins | hheld
    · obtain ⟨w, hname, -⟩ := exists_ampersand_cons hentry
      simp [hname] at hbegins
    · exact hnone entry hentry hheld

/-- Another character stands where no entity begins. -/
theorem isCut_other : IsCut s (.other c :: cut) ↔
    ∃ rest, s = c :: rest ∧ (∀ entry ∈ revertedEntities, ¬ entry.1 <+: c :: rest) ∧ IsCut rest cut := by
  constructor
  · rintro ⟨rfl, hnone⟩
    refine ⟨cut.flatMap Snippet.source, rfl, fun entry hentry hbegins => ?_, rfl, ?_⟩
    · exact hnone entry hentry ((map_other_prefix_cons_iff hentry).mpr hbegins).isInfix
    · exact fun entry hentry hheld => hnone entry hentry (List.infix_cons_iff.mpr (.inr hheld))
  · rintro ⟨rest, rfl, hclear, rfl, hnone⟩
    refine ⟨rfl, fun entry hentry hheld => ?_⟩
    rcases List.infix_cons_iff.mp hheld with hbegins | hheld
    · exact hclear entry hentry ((map_other_prefix_cons_iff hentry).mp hbegins)
    · exact hnone entry hentry hheld

/-! ## The cut of a text -/

/-- Reverting a text writes the entities of its cut as their characters. -/
theorem IsCut.result_eq (h : IsCut s cut) : cut.map Snippet.result = unescapeFrom 0 s := by
  induction cut generalizing s with
  | nil =>
    rw [isCut_nil.mp h]
    rfl
  | cons snippet cut ih =>
    cases snippet with
    | entity name char mem =>
      obtain ⟨rest, rfl, hrest⟩ := isCut_entity.mp h
      rw [UnescapesTo.reverted mem rest, List.map_cons, ih hrest]
      rfl
    | other c =>
      obtain ⟨rest, rfl, hclear, hrest⟩ := isCut_other.mp h
      rw [unescapeFrom_of_entityAt?_eq_none (entityAt?_eq_none_iff.mpr hclear), List.map_cons, ih hrest]
      rfl

theorem exists_isCut (s : List Char) : ∃ cut, IsCut s cut := by
  match s with
  | [] => exact ⟨[], isCut_nil.mpr rfl⟩
  | c :: rest =>
    cases hfound : entityAt? (c :: rest) with
    | none =>
      obtain ⟨cut, hcut⟩ := exists_isCut rest
      exact ⟨.other c :: cut, isCut_other.mpr ⟨rest, rfl, entityAt?_eq_none_iff.mp hfound, hcut⟩⟩
    | some found =>
      obtain ⟨char, n⟩ := found
      obtain ⟨name, behind, mem, hs, -⟩ := exists_of_entityAt? hfound
      have hshort : behind.length < (c :: rest).length := by
        obtain ⟨w, hname, -⟩ := exists_ampersand_cons mem
        rw [hs, hname, List.length_append, List.length_cons]
        omega
      obtain ⟨cut, hcut⟩ := exists_isCut behind
      exact ⟨.entity name char mem :: cut, isCut_entity.mpr ⟨behind, hs, hcut⟩⟩
termination_by s.length
decreasing_by
  · exact Nat.lt_succ_self _
  · exact hshort

/-- Snippets at the beginning of one text are the same if they are reverted to the same. -/
theorem Snippet.eq_of_result {a b : Snippet} (hsource : a.source ++ u = b.source ++ v)
    (hresult : a.result = b.result) : a = b := by
  cases a with
  | entity name char mem =>
    cases b with
    | entity name' char' mem' =>
      -- Of two entities at the beginning of one text, one begins the other.
      have heq : (name, char) = (name', char') := by
        rcases List.prefix_or_prefix_of_prefix ⟨u, hsource⟩ (List.prefix_append name' v) with h | h
        · exact entity_eq_of_begins mem mem' h
        · exact (entity_eq_of_begins mem' mem h).symm
      cases heq
      rfl
    | other c =>
      obtain rfl : char = c := hresult
      exact absurd hsource (entity_append_ne mem)
  | other c =>
    cases b with
    | entity name char mem =>
      obtain rfl : c = char := hresult
      exact absurd hsource.symm (entity_append_ne mem)
    | other c' => exact congrArg Snippet.other hresult

/-- Snippets that make up the same text and the same result are the same. -/
theorem eq_of_source_of_result (hsource : cut.flatMap Snippet.source = cut'.flatMap Snippet.source)
    (hresult : cut.map Snippet.result = cut'.map Snippet.result) : cut = cut' := by
  induction cut generalizing cut' with
  | nil => exact (List.map_eq_nil_iff.mp hresult.symm).symm
  | cons a cut ih =>
    cases cut' with
    | nil => cases hresult
    | cons b cut' =>
      rw [List.flatMap_cons, List.flatMap_cons] at hsource
      obtain ⟨hhead, htail⟩ := List.cons.inj hresult
      obtain rfl := Snippet.eq_of_result hsource hhead
      rw [ih (List.append_cancel_left hsource) htail]

/-! ## Texts with nothing to revert -/

/-- A text that is put together of characters and reverted entities holds an entity only where it is
spelled by other characters. -/
theorem map_other_infix_of_result (h : entry ∈ revertedEntities)
    (hheld : entry.1 <:+: cut.map Snippet.result) : entry.1.map Snippet.other <:+: cut := by
  obtain ⟨front, back, hresult⟩ := hheld
  rw [List.append_assoc, eq_comm, List.map_eq_append_iff] at hresult
  obtain ⟨before, later, rfl, -, hlater⟩ := hresult
  have hbegins : entry.1.map Snippet.other <+: later :=
    map_other_prefix_of_result (fun other hother => char_notMem_entity hother h) ⟨back, hlater.symm⟩
  exact hbegins.isInfix.trans (List.suffix_append before later).isInfix

theorem isCut_map_other (h : ∀ entry ∈ revertedEntities, ¬ entry.1 <:+: s) : IsCut s (s.map .other) := by
  refine ⟨Snippet.flatMap_source_map_other s, fun entry hentry hheld => h entry hentry ?_⟩
  simpa using hheld.flatMap Snippet.source

theorem unescapeFrom_of_none_held (h : ∀ entry ∈ revertedEntities, ¬ entry.1 <:+: s) :
    unescapeFrom 0 s = s := by
  rw [← (isCut_map_other h).result_eq, Snippet.map_result_map_other]

/-! ## Texts that stay -/

/-- What begins a joined text does not reach into the second part of it, if only its first character can
be the one that this part begins with. -/
theorem prefix_of_prefix_append (h : w <+: c :: u ++ v) (hv : ∀ d ∈ v.head?, d ∉ w.tail) :
    w <+: c :: u := by
  obtain ⟨rest, hrest⟩ := h
  rcases List.append_eq_append_iff.mp hrest with ⟨gap, hw, -⟩ | ⟨gap, rfl, rfl⟩
  · exact ⟨gap, hw.symm⟩
  · cases gap with
    | nil => simp
    | cons d gap => exact absurd (by simp) (hv d rfl)

theorem IsCut.append (h : IsCut u cut) (h' : IsCut v cut')
    (hv : ∀ c ∈ v.head?, ∀ entry ∈ revertedEntities, c ∉ entry.1.tail) :
    IsCut (u ++ v) (cut ++ cut') := by
  induction cut generalizing u with
  | nil => simpa [isCut_nil.mp h] using h'
  | cons snippet cut ih =>
    cases snippet with
    | entity name char mem =>
      obtain ⟨rest, rfl, hrest⟩ := isCut_entity.mp h
      exact isCut_entity.mpr ⟨rest ++ v, List.append_assoc .., ih hrest⟩
    | other c =>
      obtain ⟨rest, rfl, hclear, hrest⟩ := isCut_other.mp h
      refine isCut_other.mpr ⟨rest ++ v, rfl, fun entry hentry hbegins => ?_, ih hrest⟩
      exact hclear entry hentry (prefix_of_prefix_append hbegins fun d hd => hv d hd entry hentry)

/-- No entity goes on in a text that stays. -/
theorem head?_of_mem_keptTexts {kept : List Char} (h : kept ∈ keptTexts) (after : List Char) :
    ∀ c ∈ (kept ++ after).head?, ∀ entry ∈ revertedEntities, c ∉ entry.1.tail := by
  have hall : ∀ kept ∈ keptTexts, kept = kept.headD '&' :: kept.tail ∧
      ∀ entry ∈ revertedEntities, kept.headD '&' ∉ entry.1.tail := by decide
  obtain ⟨hcons, hnone⟩ := hall kept h
  rw [hcons]
  rintro c ⟨⟩
  exact hnone

theorem unescapesTo_of_mem_keptTexts {kept : List Char} (h : kept ∈ keptTexts) : UnescapesTo kept kept := by
  rcases List.mem_append.mp h with h | h
  · exact .kept h
  · obtain rfl | rfl : kept = ['<'] ∨ kept = ['>'] := by simpa using h
    · exact .char (by decide)
    · exact .char (by decide)

/-- A text that stays divides what is reverted before it from what is reverted after it. -/
theorem unescapeFrom_kept {kept : List Char} (h : kept ∈ keptTexts) (before after : List Char) :
    unescapeFrom 0 (before ++ kept ++ after) =
      unescapeFrom 0 before ++ kept ++ unescapeFrom 0 after := by
  obtain ⟨cut, hbefore⟩ := exists_isCut before
  obtain ⟨cut', hbehind⟩ := exists_isCut (kept ++ after)
  have hall := hbefore.append hbehind (head?_of_mem_keptTexts h after)
  calc unescapeFrom 0 (before ++ kept ++ after)
    _ = (cut ++ cut').map Snippet.result := by rw [hall.result_eq, List.append_assoc]
    _ = unescapeFrom 0 before ++ unescapeFrom 0 (kept ++ after) := by
      rw [List.map_append, hbefore.result_eq, hbehind.result_eq]
    _ = unescapeFrom 0 before ++ kept ++ unescapeFrom 0 after := by
      rw [unescapesTo_of_mem_keptTexts h, List.append_assoc]

/-- A reverted text holds no entity that is reverted, so reverting it again changes nothing. It is the text
with each entity of its cut written as the character and all else as it was. No other snippets make up the
text that leave no entity uncut or that give the same result. -/
theorem unescape_reverts_all (t : String) :
    (∀ entry ∈ revertedEntities, ¬ entry.1 <:+: (unescape t).toList) ∧
      unescape (unescape t) = unescape t ∧
      (∃ cut, IsCut t.toList cut ∧ cut.map Snippet.result = (unescape t).toList ∧
        ∀ cut', cut'.flatMap Snippet.source = t.toList →
          IsCut t.toList cut' ∨ cut'.map Snippet.result = (unescape t).toList → cut' = cut) ∧
      ∀ kept ∈ keptTexts, ∀ before after, t = before ++ String.ofList kept ++ after →
        unescape t = unescape before ++ String.ofList kept ++ unescape after := by
  have hresult {cut : List Snippet} (h : IsCut t.toList cut) :
      cut.map Snippet.result = (unescape t).toList := by
    rw [h.result_eq, unescape, String.toList_ofList]
  obtain ⟨cut, hcut⟩ := exists_isCut t.toList
  have hnone : ∀ entry ∈ revertedEntities, ¬ entry.1 <:+: (unescape t).toList := by
    intro entry hentry hheld
    rw [← hresult hcut] at hheld
    exact hcut.leavesNone entry hentry (map_other_infix_of_result hentry hheld)
  refine ⟨hnone, ?_, ⟨cut, hcut, hresult hcut, ?_⟩, ?_⟩
  · rw [unescape, unescapeFrom_of_none_held hnone, String.ofList_toList]
  · intro cut' hsource hcut'
    have hsame : cut'.map Snippet.result = (unescape t).toList := hcut'.elim hresult id
    exact eq_of_source_of_result (hsource.trans hcut.source_eq.symm) (hsame.trans (hresult hcut).symm)
  · rintro kept hkept before after rfl
    simp only [unescape, String.toList_append, String.toList_ofList, unescapeFrom_kept hkept,
      String.ofList_append]

/-- A character that an entity is reverted to does not complete another one. -/
example : unescape "&quot&#39;;&#x3&quot;D;&amp;quot;" = "&quot';&#x3\"D;&amp;quot;" := by decide

end PromptTemplates.Text
