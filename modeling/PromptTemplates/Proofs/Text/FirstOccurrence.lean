import Mathlib.Data.List.TakeWhile
import PromptTemplates.Text.Blank
import PromptTemplates.Text.Search
import PromptTemplates.Text.Lines

/-!
# First occurrences

Cutting a text at a pattern finds the first occurrence of the pattern, and fails exactly when there is
none. The longest run of characters at the beginning of a text is found in the same way.
-/

namespace PromptTemplates.Text

/-- The first occurrence of a pattern in a text: what stands before it and what stands after it. -/
structure FirstAt (pat s front rest : List Char) : Prop where
  eq_append : s = front ++ pat ++ rest
  least : ∀ u v, s = u ++ pat ++ v → front.length ≤ u.length

variable {pat s front rest : List Char}

theorem startsWith_iff : startsWith pat s = true ↔ ∃ rest, s = pat ++ rest := by
  unfold startsWith
  rw [Option.isSome_iff_exists]
  exact exists_congr fun rest => after?_eq_some_iff

theorem after?_eq_none_iff : after? pat s = none ↔ ∀ rest, s ≠ pat ++ rest := by
  rw [Option.eq_none_iff_forall_ne_some]
  exact forall_congr' fun rest => not_congr after?_eq_some_iff

/-- The first occurrence in a text that does not begin with the pattern lies in its tail. -/
theorem firstAt_cons_iff {c : Char} {cs : List Char} (h : after? pat (c :: cs) = none) :
    FirstAt pat (c :: cs) (c :: front) rest ↔ FirstAt pat cs front rest := by
  constructor
  · rintro ⟨heq, hleast⟩
    refine ⟨by simpa using heq, fun u v huv => ?_⟩
    have := hleast (c :: u) v (by simp [huv])
    simpa using this
  · rintro ⟨heq, hleast⟩
    refine ⟨by simp [heq], fun u v huv => ?_⟩
    cases u with
    | nil => exact absurd huv (after?_eq_none_iff.mp h v)
    | cons d u =>
      have := hleast u v (by simpa using (List.cons.inj huv).2)
      simpa using this

theorem firstAt_of_cutAt? (h : cutAt? pat s = some (front, rest)) : FirstAt pat s front rest := by
  induction s generalizing front with
  | nil =>
    refine ⟨append_of_cutAt? h, fun u v huv => ?_⟩
    have hu : front = [] := by
      have := append_of_cutAt? h
      simp_all
    simp [hu]
  | cons c cs ih =>
    have heq := append_of_cutAt? h
    rw [cutAt?] at h
    split at h
    · cases h
      exact ⟨heq, fun u v huv => Nat.zero_le _⟩
    · next hnone =>
      obtain ⟨⟨f, r⟩, hcut, he⟩ := Option.map_eq_some_iff.mp h
      cases he
      exact (firstAt_cons_iff hnone).mpr (ih hcut)

theorem cutAt?_of_firstAt (h : FirstAt pat s front rest) : cutAt? pat s = some (front, rest) := by
  induction s generalizing front with
  | nil =>
    have heq := h.eq_append
    simp only [List.nil_eq, List.append_eq_nil_iff] at heq
    obtain ⟨⟨rfl, rfl⟩, rfl⟩ := heq
    rfl
  | cons c cs ih =>
    rw [cutAt?]
    cases hafter : after? pat (c :: cs) with
    | some r =>
      have hfront : front = [] := by
        have := h.least [] r (after?_eq_some_iff.mp hafter)
        simpa using this
      have hrest : after? pat (c :: cs) = some rest :=
        after?_eq_some_iff.mpr (by simpa [hfront] using h.eq_append)
      rw [hafter, Option.some.injEq] at hrest
      rw [hfront, hrest]
    | none =>
      cases front with
      | nil => exact absurd h.eq_append (after?_eq_none_iff.mp hafter rest)
      | cons d f =>
        obtain rfl : c = d := (List.cons.inj h.eq_append).1
        rw [ih ((firstAt_cons_iff hafter).mp h)]
        rfl

theorem cutAt?_eq_some_iff : cutAt? pat s = some (front, rest) ↔ FirstAt pat s front rest :=
  ⟨firstAt_of_cutAt?, cutAt?_of_firstAt⟩

theorem FirstAt.unique {front' rest' : List Char} (h : FirstAt pat s front rest)
    (h' : FirstAt pat s front' rest') : front = front' ∧ rest = rest' := by
  rw [← cutAt?_eq_some_iff] at h h'
  rw [h, Option.some.injEq] at h'
  exact Prod.mk.inj h'

theorem after?_eq_none_iff_not_start : after? pat s = none ↔ ¬ pat <+: s := by
  rw [after?_eq_none_iff]
  exact ⟨fun h ⟨rest, hrest⟩ => h rest hrest.symm, fun h rest hrest => h ⟨rest, hrest.symm⟩⟩

/-- Cutting fails exactly when the pattern does not occur. -/
theorem cutAt?_eq_none_iff : cutAt? pat s = none ↔ ¬ pat <:+: s := by
  induction s with
  | nil =>
    rw [cutAt?, Option.map_eq_none_iff, after?_eq_none_iff_not_start, List.infix_nil, List.prefix_nil]
  | cons c cs ih =>
    rw [List.infix_cons_iff, not_or, ← ih, ← after?_eq_none_iff_not_start, cutAt?]
    cases after? pat (c :: cs) <;> simp

theorem occursIn_iff : occursIn pat s = true ↔ pat <:+: s := by
  unfold occursIn
  rw [← Option.ne_none_iff_isSome, Ne, cutAt?_eq_none_iff, Classical.not_not]

theorem exists_firstAt (h : pat <:+: s) : ∃ front rest, FirstAt pat s front rest := by
  cases hcut : cutAt? pat s with
  | none => exact absurd h (cutAt?_eq_none_iff.mp hcut)
  | some p => exact ⟨p.1, p.2, firstAt_of_cutAt? hcut⟩

/-! ## Occurrences in texts that are put together -/

theorem forall_head?_append {P : Char → Prop} {u v : List Char} (hu : ∀ c ∈ u.head?, P c)
    (hv : ∀ c ∈ v.head?, P c) : ∀ c ∈ (u ++ v).head?, P c := by
  cases u with
  | nil => exact hv
  | cons d u => exact hu

theorem forall_getLast?_append {P : Char → Prop} {u v : List Char} (hu : ∀ c ∈ u.getLast?, P c)
    (hv : ∀ c ∈ v.getLast?, P c) : ∀ c ∈ (u ++ v).getLast?, P c := by
  rw [List.getLast?_append]
  cases hlast : v.getLast? with
  | none => exact hu
  | some d => simpa using hv d hlast

/-- A pattern without the last character of a text does not lie across its end. -/
theorem infix_append_of_getLast? {u v : List Char} (h : ∀ c ∈ u.getLast?, c ∉ pat) :
    pat <:+: u ++ v ↔ pat <:+: u ∨ pat <:+: v := by
  rw [List.infix_append_iff, ← or_assoc, or_iff_left_iff_imp]
  rintro ⟨left, right, rfl, hleft, hright⟩
  cases hlast : left.getLast? with
  | none =>
    obtain rfl := List.getLast?_eq_none_iff.mp hlast
    exact .inr hright.isInfix
  | some c =>
    obtain ⟨w, rfl⟩ := hleft
    have hc : c ∈ (w ++ left).getLast? := by simp [List.getLast?_append, hlast]
    exact absurd (List.mem_append_left right (List.mem_of_getLast? hlast)) (h c hc)

/-- A pattern without the first character of a text does not lie across its beginning. -/
theorem infix_append_of_head? {u v : List Char} (h : ∀ c ∈ v.head?, c ∉ pat) :
    pat <:+: u ++ v ↔ pat <:+: u ∨ pat <:+: v := by
  rw [List.infix_append_iff, ← or_assoc, or_iff_left_iff_imp]
  rintro ⟨left, right, rfl, hleft, hright⟩
  cases right with
  | nil =>
    rw [List.append_nil]
    exact .inl hleft.isInfix
  | cons c right =>
    obtain ⟨w, rfl⟩ := hright
    exact absurd (by simp) (h c rfl)

/-- A pattern at the beginning of a joined text does not reach into the second text, if it does not have
the first character of that text. -/
theorem startsWith_append {u v : List Char} (hv : ∀ c ∈ v.head?, c ∉ pat) :
    startsWith pat (u ++ v) = startsWith pat u := by
  rw [Bool.eq_iff_iff, startsWith_iff, startsWith_iff]
  constructor
  · rintro ⟨rest, hrest⟩
    rcases List.append_eq_append_iff.mp hrest with ⟨gap, hpat, hgap⟩ | ⟨gap, hu, -⟩
    · cases gap with
      | nil => exact ⟨[], by simpa using hpat.symm⟩
      | cons c gap =>
        have hc : c ∈ v.head? := by simp [hgap]
        exact absurd (by simp [hpat]) (hv c hc)
    · exact ⟨gap, hu⟩
  · rintro ⟨rest, rfl⟩
    exact ⟨rest ++ v, by simp⟩

/-- The first occurrence in a text is also the first one when more text follows. -/
theorem FirstAt.append (h : FirstAt pat s front rest) (t : List Char) :
    FirstAt pat (s ++ t) front (rest ++ t) := by
  refine ⟨by simp [h.eq_append], fun u v huv => ?_⟩
  by_contra hlt
  have hle : (u ++ pat).length ≤ s.length := by
    simp [h.eq_append]
    omega
  obtain ⟨w, hw⟩ : u ++ pat <+: s :=
    List.prefix_of_prefix_length_le ⟨v, huv.symm⟩ (List.prefix_append s t) hle
  exact hlt (h.least u w hw.symm)

/-- A pattern that stands behind a text without it, whose last character it does not have, occurs there
first. -/
theorem firstAt_append (hnone : ¬ pat <:+: front) (hlast : ∀ c ∈ front.getLast?, c ∉ pat)
    (rest : List Char) : FirstAt pat (front ++ pat ++ rest) front rest := by
  refine ⟨rfl, fun u v huv => ?_⟩
  by_contra hlt
  have hfront : front <+: front ++ pat ++ rest := ⟨pat ++ rest, by simp⟩
  rcases List.prefix_or_prefix_of_prefix ⟨v, huv.symm⟩ hfront with ⟨w, hw⟩ | ⟨w, hw⟩
  · exact hnone ⟨u, w, hw⟩
  · rcases List.append_eq_append_iff.mp hw with ⟨x, rfl, -⟩ | ⟨x, rfl, rfl⟩
    · simp at hlt
    · cases hx : x.getLast? with
      | none => simp [List.getLast?_eq_none_iff.mp hx] at hlt
      | some c =>
        have hc : c ∈ (u ++ x).getLast? := by simp [List.getLast?_append, hx]
        exact hlast c hc (List.mem_append_left w (List.mem_of_getLast? hx))

/-! ## The longest run at the beginning -/

theorem takeWhile_append_stop {p : Char → Bool} {front rest : List Char} (h : ∀ c ∈ front, p c = true)
    (hstop : ∀ c ∈ rest.head?, p c = false) : (front ++ rest).takeWhile p = front := by
  rw [List.takeWhile_append_of_pos h]
  cases rest with
  | nil => simp
  | cons c rest => simp [hstop c rfl]

theorem dropWhile_append_stop {p : Char → Bool} {front rest : List Char} (h : ∀ c ∈ front, p c = true)
    (hstop : ∀ c ∈ rest.head?, p c = false) : (front ++ rest).dropWhile p = rest := by
  rw [List.dropWhile_append_of_pos h]
  cases rest with
  | nil => simp
  | cons c rest => simp [hstop c rfl]

end PromptTemplates.Text
