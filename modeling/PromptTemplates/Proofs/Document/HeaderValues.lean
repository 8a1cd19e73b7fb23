import PromptTemplates.Document.Basic
import PromptTemplates.Proofs.Number.Numerals

/-!
# The values in a header

A header holds plain data: scalars, and lists, tuples and mappings of plain data. Its floating-point
numbers have the one form that numbers have, since each of them comes from a rounding.
-/

namespace PromptTemplates

/-- The values that a header can hold. Nothing is said about the keys of a mapping. -/
inductive Value.IsHeld : Value → Prop
  | null : IsHeld .null
  | bool (b) : IsHeld (.bool b)
  | int (n) : IsHeld (.int n)
  | float {x} : x.IsCanonical → IsHeld (.float x)
  | str (s) : IsHeld (.str s)
  | bytes (octets) : IsHeld (.bytes octets)
  | date (d) : IsHeld (.date d)
  | moment (m) : IsHeld (.moment m)
  | list {items} : (∀ v ∈ items, IsHeld v) → IsHeld (.list items)
  | tuple {items} : (∀ v ∈ items, IsHeld v) → IsHeld (.tuple items)
  | map {entries : List (Value × Value)} : (∀ e ∈ entries, IsHeld e.2) → IsHeld (.map entries)

namespace Entries

variable {κ α : Type} [BEq κ] {P : α → Prop} {key : κ} {value : α} {table lower upper : Entries κ α}

/-- A property of all values is kept when a value that has it is put in. -/
theorem forall_value_put (hvalue : P value) (h : ∀ e ∈ table, P e.2) :
    ∀ e ∈ put key value table, P e.2 := by
  induction table with
  | nil => simpa [put] using hvalue
  | cons entry rest ih =>
    obtain ⟨k, w⟩ := entry
    obtain ⟨hw, hrest⟩ := List.forall_mem_cons.mp h
    unfold put
    split
    · exact List.forall_mem_cons.mpr ⟨hvalue, hrest⟩
    · exact List.forall_mem_cons.mpr ⟨hw, ih hrest⟩

theorem forall_value_putAll (hlower : ∀ e ∈ lower, P e.2) (hupper : ∀ e ∈ upper, P e.2) :
    ∀ e ∈ putAll lower upper, P e.2 := by
  induction upper generalizing lower with
  | nil => exact hlower
  | cons entry rest ih =>
    obtain ⟨hvalue, hrest⟩ := List.forall_mem_cons.mp hupper
    exact ih (forall_value_put hvalue hlower) hrest

end Entries

namespace Yaml

open Number

variable {α β : Type} {P : α → Prop} {Q : β → Prop} {result : Outcome α}

/-! ## What results have -/

/-- What is read, if anything is, has a property. -/
structure Yields (P : α → Prop) (result : Outcome α) : Prop where
  prop : ∀ a, result = .ok a → P a

namespace Yields

theorem ok {a : α} (h : P a) : Yields P (.ok a) where
  prop b hb := by
    cases hb
    exact h

theorem error (problem : Problem) : Yields P (.error problem) := ⟨nofun⟩

theorem malformed : Yields P malformed := error .malformed

theorem bind {next : α → Outcome β} (h : Yields P result) (hnext : ∀ a, P a → Yields Q (next a)) :
    Yields Q (result >>= next) where
  prop b hb := by
    cases result with
    | error problem => cases hb
    | ok a => exact (hnext a (h.prop a rfl)).prop b hb

theorem map {f : α → β} (h : Yields P result) (hf : ∀ a, P a → Q (f a)) : Yields Q (f <$> result) where
  prop b hb := by
    cases result with
    | error problem => cases hb
    | ok a =>
      cases hb
      exact hf a (h.prop a rfl)

theorem any (result : Outcome α) : Yields (fun _ => True) result := ⟨fun _ _ => trivial⟩

theorem orElse {kind : FaultKind} {found : Option α} (h : ∀ a, found = some a → P a) :
    Yields P (orElse kind found) := by
  cases found with
  | none => exact error _
  | some a => exact ok (h a rfl)

end Yields

/-! ## Scalars -/

theorem isCanonical_roundedSixtieths {parts : List Binary64} (h : ∀ x ∈ parts, x.IsCanonical) :
    (roundedSixtieths parts).IsCanonical := by
  have hfold : ∀ (parts : List Binary64) (sum : Binary64 × Nat), (∀ x ∈ parts, x.IsCanonical) →
      sum.1.IsCanonical → (parts.foldl (fun sum part =>
        (Binary64.add sum.1 (Binary64.scale sum.2 part), sum.2 * 60)) sum).1.IsCanonical := by
    intro parts
    induction parts with
    | nil => exact fun _ _ hsum => hsum
    | cons x rest ih =>
      intro sum hparts hsum
      obtain ⟨hx, hrest⟩ := List.forall_mem_cons.mp hparts
      exact ih _ hrest (hsum.add (hx.scale sum.2))
  apply hfold
  · intro x hx
    exact h x (List.mem_reverse.mp hx)
  · exact isCanonical_zero false

theorem forall_isCanonical_of_mapM {texts : List (List Char)} {parts : List Binary64}
    (h : texts.mapM float? = some parts) : ∀ x ∈ parts, x.IsCanonical := by
  induction texts generalizing parts with
  | nil =>
    cases h
    exact fun _ hx => nomatch hx
  | cons text rest ih =>
    rw [List.mapM_cons] at h
    obtain ⟨x, hx, h⟩ := Option.bind_eq_some_iff.mp h
    obtain ⟨xs, hxs, h⟩ := Option.bind_eq_some_iff.mp h
    cases h
    exact List.forall_mem_cons.mpr ⟨isCanonical_of_float? hx, ih hxs⟩

theorem yields_floatOf (text : String) : Yields Binary64.IsCanonical (floatOf text) := by
  have hsigned (negative : Bool) (x : Binary64) (hx : x.IsCanonical) :
      Yields Binary64.IsCanonical (.ok (if negative then x.neg else x)) := by
    apply Yields.ok
    split
    · exact hx.neg
    · exact hx
  unfold floatOf
  dsimp only
  split
  · exact .error _
  split
  · exact hsigned _ (.infinite false) trivial
  split
  · exact hsigned _ .nan trivial
  · apply Yields.bind _ (hsigned _)
    apply Yields.orElse
    intro x hx
    split at hx
    · exact isCanonical_of_float? hx
    · obtain ⟨parts, hparts, hx⟩ := Option.bind_eq_some_iff.mp hx
      cases hx
      apply isCanonical_roundedSixtieths
      exact forall_isCanonical_of_mapM hparts

theorem yields_timeOf (text : String) : Yields Value.IsHeld (timeOf text) := by
  unfold timeOf
  split_ifs
  · exact .error _
  · apply (Yields.any _).bind
    intro t _
    apply (Yields.any _).bind
    intro day _
    split
    · apply Yields.orElse
      intro v hv
      obtain ⟨d, -, rfl⟩ := Option.map_eq_some_iff.mp hv
      exact .date d
    · split_ifs
      · apply Yields.orElse
        intro v hv
        obtain ⟨m, -, rfl⟩ := Option.map_eq_some_iff.mp hv
        exact .moment m
      · exact .error _

theorem yields_scalarValue (tag text : String) : Yields Value.IsHeld (scalarValue tag text) := by
  unfold scalarValue
  split_ifs
  · exact .ok .null
  · exact (Yields.any _).map fun b _ => .bool b
  · exact (Yields.any _).map fun n _ => .int n
  · exact (yields_floatOf text).map fun x hx => .float hx
  · exact yields_timeOf text
  · exact .ok (.str text)
  · split
    · exact .ok (.bytes _)
    · exact .malformed
  · split
    · exact .malformed
    · exact .malformed
  · exact .malformed

/-! ## Trees -/

/-- The values of some entries are plain data. -/
def AreHeld (entries : List (Value × Value)) : Prop := ∀ e ∈ entries, e.2.IsHeld

theorem AreHeld.append {lower upper : List (Value × Value)} (hlower : AreHeld lower)
    (hupper : AreHeld upper) : AreHeld (lower ++ upper) := by
  intro e he
  exact (List.mem_append.mp he).elim (hlower e) (hupper e)

theorem yields_mapping {entries : List (Value × Value)} (h : AreHeld entries) :
    Yields Value.IsHeld (mapping entries) := by
  unfold mapping
  split
  · exact .ok (.map (Entries.forall_value_putAll (fun _ he => nomatch he) h))
  · exact .error _

mutual

theorem yields_toValue : ∀ node : Node, Yields Value.IsHeld node.toValue
  | .scalar tag text => by
    rw [Node.toValue]
    exact yields_scalarValue tag text
  | .sequence tag items => by
    rw [Node.toValue]
    split_ifs
    · exact (yields_valuesOf items).map fun _ h => .list h
    · exact (yields_pairsOf items).map fun _ h => .list h
    · exact .malformed
  | .mapping tag entries => by
    rw [Node.toValue]
    split_ifs
    · apply (yields_entriesOf entries).bind
      rintro ⟨merged, own⟩ ⟨hmerged, hown⟩
      exact yields_mapping (hmerged.append hown)
    · split
      · exact yields_scalarValue tag _
      · exact .malformed
    · exact .malformed

theorem yields_valuesOf : ∀ items : List Node, Yields (∀ v ∈ ·, v.IsHeld) (valuesOf items)
  | [] => .ok fun _ h => nomatch h
  | item :: rest => by
    rw [valuesOf]
    apply (yields_toValue item).bind
    intro v hv
    apply (yields_valuesOf rest).bind
    intro vs hvs
    exact .ok (List.forall_mem_cons.mpr ⟨hv, hvs⟩)

theorem yields_pairsOf : ∀ items : List Node, Yields (∀ v ∈ ·, v.IsHeld) (pairsOf items)
  | [] => .ok fun _ h => nomatch h
  | .mapping _ [(key, value)] :: rest => by
    rw [pairsOf]
    apply (yields_toValue key).bind
    intro k hk
    apply (yields_toValue value).bind
    intro v hv
    apply (yields_pairsOf rest).bind
    intro vs hvs
    have hpair : (Value.tuple [k, v]).IsHeld := .tuple (by simp [hk, hv])
    exact .ok (List.forall_mem_cons.mpr ⟨hpair, hvs⟩)
  | .scalar .. :: _ => .malformed
  | .sequence .. :: _ => .malformed
  | .mapping _ [] :: _ => .malformed
  | .mapping _ (_ :: _ :: _) :: _ => .malformed

/-- The entries that a mapping merges, and its own ones. -/
theorem yields_entriesOf : ∀ entries : List (Node × Node),
    Yields (fun found => AreHeld found.1 ∧ AreHeld found.2) (entriesOf entries)
  | [] => .ok ⟨(fun _ h => nomatch h), fun _ h => nomatch h⟩
  | (key, value) :: rest => by
    have hrest := yields_entriesOf rest
    have hvalue := yields_toValue value
    have hown (name : Value) : Yields (fun found => AreHeld found.1 ∧ AreHeld found.2)
        (value.toValue >>= fun v => entriesOf rest >>= fun found =>
          .ok (found.1, (name, v) :: found.2)) := by
      apply hvalue.bind
      intro v hv
      apply hrest.bind
      rintro ⟨merged, own⟩ ⟨hmerged, hown⟩
      exact .ok ⟨hmerged, List.forall_mem_cons.mpr ⟨hv, hown⟩⟩
    rw [entriesOf]
    split
    · apply (yields_mergedOf value).bind
      intro found hfound
      apply hrest.bind
      rintro ⟨merged, own⟩ ⟨hmerged, hown⟩
      exact .ok ⟨hfound.append hmerged, hown⟩
    · dsimp only
      split
      · split
        · exact hown _
        · exact .malformed
      · apply (Yields.any key.toValue).bind
        intro name _
        exact hown name

theorem yields_mergedOf : ∀ node : Node, Yields AreHeld (mergedOf node)
  | .mapping _ entries => by
    rw [mergedOf]
    apply (yields_entriesOf entries).bind
    rintro ⟨merged, own⟩ ⟨hmerged, hown⟩
    exact .ok (hmerged.append hown)
  | .sequence _ items => by
    rw [mergedOf]
    exact yields_mergedOfAll items
  | .scalar .. => .malformed

theorem yields_mergedOfAll : ∀ items : List Node, Yields AreHeld (mergedOfAll items)
  | [] => .ok fun _ h => nomatch h
  | .mapping _ entries :: rest => by
    rw [mergedOfAll]
    apply (yields_entriesOf entries).bind
    rintro ⟨merged, own⟩ ⟨hmerged, hown⟩
    apply (yields_mergedOfAll rest).bind
    intro others hothers
    exact .ok ((hothers.append hmerged).append hown)
  | .scalar .. :: _ => .malformed
  | .sequence .. :: _ => .malformed

end

/-- What is read is plain data. -/
theorem yields_read (text : List Char) : Yields Value.IsHeld (read text) := by
  unfold read
  apply (Yields.any _).bind
  rintro (_ | node) -
  · exact .ok .null
  · exact yields_toValue node

end Yaml

namespace HeadedText

variable {t : HeadedText}

theorem areHeld_attributesOf {block : List Char} {entries : List (Value × Value)}
    (h : attributesOf block = .ok entries) : Yaml.AreHeld entries := by
  have hread := (Yaml.yields_read block).prop
  unfold attributesOf at h
  split at h
  · cases h
    exact fun _ he => nomatch he
  · next hmap =>
    cases h
    cases hread _ hmap with
    | map hentries => exact hentries
  · cases h
  · cases h
  · cases h

/-- The attributes of a text are plain data. -/
theorem areHeld_attributes {text : String} (h : ofText text = .ok t) : Yaml.AreHeld t.attributes := by
  unfold ofText at h
  split at h
  · cases h
    exact fun _ he => nomatch he
  · next block body hsplit =>
    cases hattributes : attributesOf block with
    | error fault =>
      rw [hattributes] at h
      cases h
    | ok entries =>
      rw [hattributes] at h
      cases h
      exact areHeld_attributesOf hattributes

end HeadedText

end PromptTemplates
