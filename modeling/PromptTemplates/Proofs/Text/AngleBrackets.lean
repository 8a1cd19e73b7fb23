import PromptTemplates.Text.Entity

/-!
# Texts without angle brackets

Markup begins with an angle bracket. Escaping takes the brackets out of any text, and the entities that
are reverted in a finished text stand for other characters, so no bracket comes back.
-/

namespace PromptTemplates.Text

/-- A character other than the angle brackets. -/
def IsNoAngle (c : Char) : Prop := c ≠ '<' ∧ c ≠ '>'

/-- A text without angle brackets. -/
def IsAngleFree (s : String) : Prop := ∀ c ∈ s.toList, IsNoAngle c

theorem forall_isNoAngle_iff {s : List Char} : (∀ c ∈ s, IsNoAngle c) ↔ '<' ∉ s ∧ '>' ∉ s := by
  constructor
  · exact fun h => ⟨fun hless => (h _ hless).1 rfl, fun hgreater => (h _ hgreater).2 rfl⟩
  · rintro ⟨hless, hgreater⟩ c hc
    exact ⟨fun heq => hless (heq ▸ hc), fun heq => hgreater (heq ▸ hc)⟩

instance (s : String) : Decidable (IsAngleFree s) := decidable_of_iff' _ forall_isNoAngle_iff

theorem isAngleFree_of_subset {s text : String} (h : IsAngleFree text) (hs : s.toList ⊆ text.toList) :
    IsAngleFree s := fun c hc => h c (hs hc)

theorem isAngleFree_join {parts : List String} (h : ∀ s ∈ parts, IsAngleFree s) :
    IsAngleFree (String.join parts) := by
  intro c hc
  obtain ⟨s, hs, hc⟩ : ∃ s ∈ parts, c ∈ s.toList := by simpa using hc
  exact h s hs c hc

theorem isNoAngle_escapeChar (c : Char) : ∀ d ∈ escapeChar c, IsNoAngle d := by
  unfold escapeChar
  split
  · exact forall_isNoAngle_iff.mpr (by decide)
  · exact forall_isNoAngle_iff.mpr (by decide)
  · exact forall_isNoAngle_iff.mpr (by decide)
  · exact forall_isNoAngle_iff.mpr (by decide)
  · exact forall_isNoAngle_iff.mpr (by decide)
  · exact forall_isNoAngle_iff.mpr (by decide)
  · next hless hgreater =>
    rintro d hd
    obtain rfl := List.mem_singleton.mp hd
    exact ⟨hless, hgreater⟩

theorem isAngleFree_escape (s : String) : IsAngleFree (escape s) := by
  intro c hc
  unfold escape at hc
  rw [String.toList_ofList] at hc
  obtain ⟨d, -, hd⟩ := List.mem_flatMap.mp hc
  exact isNoAngle_escapeChar d c hd

theorem isNoAngle_of_entityAt? {s : List Char} {d : Char} {n : Nat} (h : entityAt? s = some (d, n)) :
    IsNoAngle d := by
  obtain ⟨entry, hentry, heq⟩ := Option.map_eq_some_iff.mp h
  have hmem : entry ∈ revertedEntities := List.mem_of_find?_eq_some hentry
  have hall : ∀ entry ∈ revertedEntities, IsNoAngle entry.2 := by
    unfold IsNoAngle
    decide
  cases heq
  exact hall entry hmem

theorem isNoAngle_unescapeFrom {s : List Char} (h : ∀ c ∈ s, IsNoAngle c) (skip : Nat) :
    ∀ c ∈ unescapeFrom skip s, IsNoAngle c := by
  induction s generalizing skip with
  | nil => simp
  | cons c cs ih =>
    obtain ⟨hc, hcs⟩ := List.forall_mem_cons.mp h
    cases skip with
    | succ skip => exact ih hcs skip
    | zero =>
      cases hentity : entityAt? (c :: cs) with
      | none =>
        rw [unescapeFrom_of_entityAt?_eq_none hentity]
        exact List.forall_mem_cons.mpr ⟨hc, ih hcs 0⟩
      | some found =>
        rw [unescapeFrom_of_entityAt? hentity]
        exact List.forall_mem_cons.mpr ⟨isNoAngle_of_entityAt? hentity, ih hcs _⟩

/-- Reverting the quote-like entities brings no angle bracket back. -/
theorem isAngleFree_unescape {s : String} (h : IsAngleFree s) : IsAngleFree (unescape s) := by
  unfold IsAngleFree unescape
  rw [String.toList_ofList]
  exact isNoAngle_unescapeFrom h 0

end PromptTemplates.Text
