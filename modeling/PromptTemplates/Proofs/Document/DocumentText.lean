import PromptTemplates.Document.Basic
import PromptTemplates.Proofs.Document.Delimiters

/-!
# The text of a document

A document is cut out of the rendered text: its body and the contents of its sections have no characters
that the text does not have.
-/

namespace PromptTemplates

open Text

theorem Text.trimChars_subset (s : List Char) : trimChars s ⊆ s := by
  obtain ⟨front, back, hs, -, -⟩ := exists_trimChars_append s
  intro c hc
  rw [hs]
  exact List.mem_append_left back (List.mem_append_right front hc)

namespace HeaderBlock

variable {s rest : List Char}

theorem lineEnd?_suffix (h : lineEnd? s = some rest) : rest <:+ s := by
  unfold lineEnd? at h
  split at h
  · cases h
    exact List.suffix_cons _ _
  · cases h
    exact ⟨['\r', '\n'], rfl⟩
  · cases h

theorem after?_suffix {pat : List Char} (h : after? pat s = some rest) : rest <:+ s :=
  ⟨pat, (after?_eq_some_iff.mp h).symm⟩

theorem opening?_suffix (h : opening? s = some rest) : rest <:+ s := by
  unfold opening? at h
  extract_lets unmarked at h
  obtain ⟨line, hline, h⟩ := Option.bind_eq_some_iff.mp h
  have hunmarked : unmarked <:+ s := by
    unfold unmarked
    split
    · exact List.suffix_cons _ _
    · exact List.suffix_refl s
  have hline' : line.dropWhile isSpaceOrTab <:+ unmarked :=
    (List.dropWhile_suffix _).trans (after?_suffix hline)
  exact ((lineEnd?_suffix h).trans hline').trans hunmarked

theorem closing?_suffix (h : closing? s = some rest) : rest <:+ s := by
  unfold closing? at h
  obtain ⟨line, hline, h⟩ := Option.bind_eq_some_iff.mp h
  have hdropped : line.dropWhile isSpaceOrTab <:+ s := by
    refine (List.dropWhile_suffix _).trans ?_
    cases hhyphens : after? ['-', '-', '-'] s with
    | some found =>
      rw [hhyphens] at hline
      cases hline
      exact after?_suffix hhyphens
    | none =>
      rw [hhyphens] at hline
      exact after?_suffix hline
  dsimp only at h
  split at h
  · cases h
    exact List.nil_suffix
  · exact (lineEnd?_suffix h).trans hdropped

theorem untilClosing?_suffix {front : List Char} (h : untilClosing? s = some (front, rest)) :
    rest <:+ s := by
  induction s generalizing front with
  | nil => cases h
  | cons c cs ih =>
    unfold untilClosing? at h
    split at h
    · next found hfound =>
      cases h
      obtain ⟨line, hline, hclosing⟩ := Option.bind_eq_some_iff.mp hfound
      exact (closing?_suffix hclosing).trans (lineEnd?_suffix hline)
    · obtain ⟨⟨before, after⟩, hlater, heq⟩ := Option.map_eq_some_iff.mp h
      cases heq
      exact (ih hlater).trans (List.suffix_cons c cs)

/-- The body is the end of the text. -/
theorem split?_suffix {block : List Char} (h : split? s = some (block, rest)) : rest <:+ s := by
  unfold split? at h
  obtain ⟨opened, hopening, h⟩ := Option.bind_eq_some_iff.mp h
  refine List.IsSuffix.trans ?_ (opening?_suffix hopening)
  cases hinner : untilClosing? opened with
  | some found =>
    rw [hinner] at h
    cases h
    exact untilClosing?_suffix hinner
  | none =>
    rw [hinner] at h
    obtain ⟨after, hclosing, heq⟩ := Option.map_eq_some_iff.mp h
    cases heq
    exact closing?_suffix hclosing

end HeaderBlock

theorem HeadedText.body_subset {text : String} {headed : HeadedText} (h : ofText text = .ok headed) :
    headed.body.toList ⊆ text.toList := by
  unfold ofText at h
  split at h
  · cases h
    exact List.Subset.refl _
  · next block body hsplit =>
    cases hattributes : attributesOf block with
    | error fault =>
      rw [hattributes] at h
      cases h
    | ok attributes =>
      rw [hattributes] at h
      cases h
      rw [String.toList_ofList]
      exact (HeaderBlock.split?_suffix hsplit).subset

namespace Section

variable {atStart : Bool} {s front : List Char} {pieces : List (List Char × List Char)}

theorem Cuts.front_subset (h : Cuts atStart s front pieces) : front ⊆ s := by
  cases h with
  | whole => exact List.Subset.refl s
  | next hat =>
    rw [hat.eq_append, List.append_assoc]
    exact List.subset_append_left _ _

theorem Cuts.content_subset (h : Cuts atStart s front pieces) : ∀ p ∈ pieces, p.2 ⊆ s := by
  induction h with
  | whole => exact fun p hp => absurd hp List.not_mem_nil
  | next hat _ hrest ih =>
    rw [hat.eq_append]
    intro p hp
    rcases List.mem_cons.mp hp with rfl | hp
    · exact List.subset_append_of_subset_right _ hrest.front_subset
    · exact List.subset_append_of_subset_right _ (ih p hp)

theorem content_subset_of_mem {text : String} {part : Section} (h : part ∈ ofText text) :
    part.content.toList ⊆ text.toList := by
  have hcuts := cuts_cut true (trimChars text.toList)
  rcases hcut : cut true (trimChars text.toList) with ⟨front, pieces⟩
  rw [hcut] at hcuts
  unfold ofText at h
  simp only [hcut] at h
  cases pieces with
  | nil =>
    obtain rfl := List.mem_singleton.mp h
    rw [String.toList_ofList]
    exact trimChars_subset _
  | cons first rest =>
    obtain ⟨p, hp, rfl⟩ := List.mem_map.mp h
    rw [String.toList_ofList]
    have hcontent := List.Subset.trans (hcuts.content_subset p hp) (trimChars_subset _)
    exact List.Subset.trans (trimChars_subset _) hcontent

end Section

/-- The body and the contents of the sections consist of characters of the rendered text. -/
theorem Document.subset_of_ofText {text : String} {headed : HeadedText}
    (h : HeadedText.ofText text = .ok headed) :
    (ofHeaded headed).body.toList ⊆ text.toList ∧
      ∀ part ∈ (ofHeaded headed).sections, part.content.toList ⊆ text.toList := by
  have hbody : (trim headed.body).toList ⊆ text.toList := by
    unfold trim
    rw [String.toList_ofList]
    exact List.Subset.trans (trimChars_subset _) (HeadedText.body_subset h)
  exact ⟨hbody, fun part hpart => List.Subset.trans (Section.content_subset_of_mem hpart) hbody⟩

end PromptTemplates
