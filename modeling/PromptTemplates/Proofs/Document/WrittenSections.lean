import Mathlib.Data.List.Basic
import PromptTemplates.CommandLine.Output
import PromptTemplates.Proofs.Document.Delimiters

/-!
# Sections that are written and read again

The sections of a document are written one after another, each with its heading. Reading the written
text gives at least as many sections, and it gives the same sections exactly when their contents hold no
delimiter and the last one is not empty.
-/

namespace PromptTemplates.Section

open Text

/-- A section that has a word as its title and a trimmed content. -/
structure IsHeaded (s : Section) : Prop where
  title : ∃ title, s.title = some title ∧ IsTitle title.toList
  content : trim s.content = s.content

/-- The title and the content of a section. -/
def toPart (s : Section) : List Char × List Char := ((s.title.getD "").toList, s.content.toList)

/-- The written form of titles with their contents. -/
def written (parts : List (List Char × List Char)) : List Char :=
  ['\n', '\n'].intercalate (parts.map fun p => delimiter p.1 ++ p.2)

/-- Every content holds no delimiter, with the two line ends that follow it if it is not the last. -/
structure Separable (parts : List (List Char × List Char)) : Prop where
  inner : ∀ p ∈ parts.dropLast, ¬ HoldsDelimiter true (p.2 ++ ['\n', '\n'])
  last : ∀ p ∈ parts.getLast?, ¬ HoldsDelimiter true p.2

variable {p q : List Char × List Char} {parts : List (List Char × List Char)}

theorem written_singleton : written [p] = delimiter p.1 ++ p.2 := by simp [written]

theorem written_cons_cons : written (p :: q :: parts) =
    delimiter p.1 ++ (p.2 ++ ['\n', '\n'] ++ written (q :: parts)) := by
  simp [written, List.intercalate_cons_cons]

theorem separable_singleton : Separable [p] ↔ ¬ HoldsDelimiter true p.2 :=
  ⟨fun h => h.last p rfl, fun h => ⟨by simp, by simpa using h⟩⟩

theorem separable_cons_cons : Separable (p :: q :: parts) ↔
    ¬ HoldsDelimiter true (p.2 ++ ['\n', '\n']) ∧ Separable (q :: parts) := by
  constructor
  · rintro ⟨hinner, hlast⟩
    exact ⟨hinner p (by simp), fun r hr => hinner r (by simp [hr]), by simpa using hlast⟩
  · rintro ⟨hp, hinner, hlast⟩
    refine ⟨fun r hr => ?_, by simpa using hlast⟩
    rw [List.dropLast_cons_cons, List.mem_cons] at hr
    rcases hr with rfl | hr
    · exact hp
    · exact hinner r hr

/-- A written text is cut into its parts, and further at each delimiter in a content. -/
theorem exists_cuts_written (hparts : parts ≠ []) (htitles : ∀ p ∈ parts, IsTitle p.1) :
    ∃ pieces, Cuts true (written parts) [] pieces ∧ parts.length ≤ pieces.length ∧
      (pieces.length = parts.length ↔ Separable parts) ∧
      (pieces.length = parts.length → pieces.map ofPart = parts.map ofPart) := by
  induction parts with
  | nil => exact absurd rfl hparts
  | cons p parts ih =>
    have hp := htitles p List.mem_cons_self
    cases parts with
    | nil =>
      have hcuts := cuts_cut true p.2
      refine ⟨_, written_singleton ▸ hcuts.headed hp, by simp, ?_, fun hlength => ?_⟩
      · rw [separable_singleton, ← hcuts.pieces_eq_nil_iff]
        simp
      · have hnil : (cut true p.2).2 = [] := by simpa using hlength
        rw [cut_of_not_holdsDelimiter (hcuts.pieces_eq_nil_iff.mp hnil)]
    | cons q parts =>
      obtain ⟨pieces, hpieces, hle, hiff, hmap⟩ :=
        ih (List.cons_ne_nil q parts) fun r hr => htitles r (List.mem_cons_of_mem p hr)
      have hne : pieces ≠ [] := by
        rintro rfl
        simp at hle
      have hcuts := cuts_cut true (p.2 ++ ['\n', '\n'])
      have hall := (hcuts.append (by simp) hpieces hne).headed hp
      rw [← written_cons_cons] at hall
      have hsplit : ((p.1, (cut true (p.2 ++ ['\n', '\n'])).1) ::
          ((cut true (p.2 ++ ['\n', '\n'])).2 ++ pieces)).length = (p :: q :: parts).length ↔
          (cut true (p.2 ++ ['\n', '\n'])).2 = [] ∧ pieces.length = (q :: parts).length := by
        rw [← List.length_eq_zero_iff]
        simp only [List.length_cons, List.length_append] at hle ⊢
        omega
      refine ⟨_, hall, ?_, ?_, fun hlength => ?_⟩
      · simp only [List.length_cons, List.length_append] at hle ⊢
        omega
      · rw [hsplit, separable_cons_cons, hiff, hcuts.pieces_eq_nil_iff]
      · obtain ⟨hnil, hrest⟩ := hsplit.mp hlength
        have hfirst : ofPart (p.1, p.2 ++ ['\n', '\n']) = ofPart p := by
          rw [ofPart, trimChars_append_blank (allBlank_of_all rfl), ofPart]
        rw [hnil, cut_of_not_holdsDelimiter (hcuts.pieces_eq_nil_iff.mp hnil), List.nil_append,
          List.map_cons, hmap hrest, hfirst]
        rfl

/-- A written text ends with the content of its last part. -/
theorem exists_written_eq_append (hp : parts.getLast? = some p) :
    ∃ before, written parts = before ++ p.2 := by
  induction parts with
  | nil => simp at hp
  | cons r parts ih =>
    cases parts with
    | nil =>
      obtain rfl : r = p := by simpa using hp
      exact ⟨delimiter r.1, written_singleton⟩
    | cons q parts =>
      obtain ⟨before, hbefore⟩ := ih (by simpa using hp)
      refine ⟨delimiter r.1 ++ (r.2 ++ ['\n', '\n'] ++ before), ?_⟩
      rw [written_cons_cons, hbefore]
      simp

theorem head?_written (hparts : parts ≠ []) : (written parts).head? = some '=' := by
  match parts, hparts with
  | [p], _ => rw [written_singleton, head?_delimiter_append]
  | p :: q :: parts, _ => rw [written_cons_cons, head?_delimiter_append]

theorem isTrimmed_written (hp : parts.getLast? = some p) (hne : p.2 ≠ []) (htrim : IsTrimmed p.2) :
    IsTrimmed (written parts) := by
  have hparts : parts ≠ [] := by
    rintro rfl
    simp at hp
  obtain ⟨before, hbefore⟩ := exists_written_eq_append hp
  refine isTrimmed_of_head?_eq (head?_written hparts) ?_
  rw [hbefore, List.getLast?_append_of_ne_nil before hne]
  exact htrim.last

/-! ## Documents -/

theorem IsHeaded.toList_block {s : Section} (h : s.IsHeaded) :
    s.block.toList = delimiter s.toPart.1 ++ s.toPart.2 := by
  obtain ⟨⟨title, htitle, hword⟩, -⟩ := h
  have hne : title ≠ "" := by simpa using hword.1
  have hheading : s.heading? = some title := by simp [heading?, htitle, Option.filter_some, hne]
  simp [block, hheading, htitle, heading, toPart, delimiter]

theorem IsHeaded.ofPart_toPart {s : Section} (h : s.IsHeaded) : ofPart s.toPart = s := by
  obtain ⟨⟨title, htitle, -⟩, hcontent⟩ := h
  obtain ⟨content, title?⟩ := s
  have hcontent' : String.ofList (trimChars content.toList) = content := hcontent
  obtain rfl : title? = some title := htitle
  simp [ofPart, toPart, hcontent']

theorem IsHeaded.isTrimmed {s : Section} (h : s.IsHeaded) : IsTrimmed s.toPart.2 := by
  have hcontent : trimChars s.toPart.2 = s.toPart.2 := by
    have := congrArg String.toList h.content
    simpa [trim, toPart] using this
  rw [← hcontent]
  exact isTrimmed_trimChars _

theorem IsHeaded.isTitle {s : Section} (h : s.IsHeaded) : IsTitle s.toPart.1 := by
  obtain ⟨⟨title, htitle, hword⟩, -⟩ := h
  simpa [toPart, htitle] using hword

theorem separable_map_toPart {sections : List Section} {last : Section}
    (hlast : sections.getLast? = some last) : Separable (sections.map toPart) ↔
      ¬ HoldsDelimiter true last.content.toList ∧
        ∀ s ∈ sections.dropLast, ¬ HoldsDelimiter true (s.content ++ "\n\n").toList := by
  have hend : (sections.map toPart).getLast? = some last.toPart := by simp [hlast]
  have hinner : (sections.map toPart).dropLast = sections.dropLast.map toPart :=
    List.map_dropLast.symm
  constructor
  · rintro ⟨hsep, hquiet⟩
    refine ⟨hquiet _ hend, fun s hs => ?_⟩
    have := hsep s.toPart (hinner ▸ List.mem_map_of_mem hs)
    simpa [toPart] using this
  · rintro ⟨hquiet, hsep⟩
    refine ⟨fun p hp => ?_, fun p hp => ?_⟩
    · rw [hinner] at hp
      obtain ⟨s, hs, rfl⟩ := List.mem_map.mp hp
      simpa [toPart] using hsep s hs
    · obtain rfl : last.toPart = p := by simpa [hend] using hp
      exact hquiet

theorem toList_sectionsText {d : Document} (h : ∀ s ∈ d.sections, s.IsHeaded) :
    d.sectionsText.toList = written (d.sections.map toPart) := by
  have hblocks : d.sections.map (fun s => s.block.toList) =
      d.sections.map fun s => delimiter s.toPart.1 ++ s.toPart.2 :=
    List.map_congr_left fun s hs => (h s hs).toList_block
  rw [Document.sectionsText, String.toList_intercalate, written, List.map_map, List.map_map]
  exact congrArg _ hblocks

/-- Reading what is written of sections gives the sections back exactly when the last content is not
empty and no content holds a delimiter, together with the line ends that are written after it. -/
theorem ofText_formatted_eq_iff (d : Document) (hne : d.sections ≠ [])
    (h : ∀ s ∈ d.sections, s.IsHeaded) :
    ∃ text, CommandLine.formatted .sections none d = .ok text ∧
      (ofText (text ++ "\n") = d.sections ↔
        (∀ s ∈ d.sections.getLast?, s.content ≠ "" ∧ ¬ HoldsDelimiter true s.content.toList) ∧
        ∀ s ∈ d.sections.dropLast, ¬ HoldsDelimiter true (s.content ++ "\n\n").toList) := by
  refine ⟨d.sectionsText, rfl, ?_⟩
  obtain ⟨last, hlast⟩ := Option.ne_none_iff_exists'.mp (mt List.getLast?_eq_none_iff.mp hne)
  have hheaded := h last (List.mem_of_getLast? hlast)
  have hsections : (d.sections.map toPart).map ofPart = d.sections := by
    rw [List.map_map]
    exact (List.map_congr_left fun s hs => (h s hs).ofPart_toPart).trans (List.map_id _)
  by_cases hempty : last.content = ""
  · refine iff_of_false (fun heq => ?_) fun hquiet => (hquiet.1 last hlast).1 hempty
    obtain ⟨title, htitle, -⟩ := hheaded.title
    rw [← heq] at hlast
    exact content_ne_of_getLast?_ofText hlast (by simp [htitle]) hempty
  · have htitles : ∀ p ∈ d.sections.map toPart, IsTitle p.1 := by
      simpa using fun s hs => (h s hs).isTitle
    obtain ⟨pieces, hcuts, hle, hiff, hmap⟩ := exists_cuts_written (by simpa using hne) htitles
    have hlength : (d.sections.map toPart).length = d.sections.length := List.length_map _
    have hpieces : pieces ≠ [] := by
      rintro rfl
      simp [hne] at hle
    have htrimmed : IsTrimmed (written (d.sections.map toPart)) :=
      isTrimmed_written (p := last.toPart) (by simp [hlast]) (by simpa [toPart] using hempty)
        hheaded.isTrimmed
    have htext : trimChars (d.sectionsText ++ "\n").toList = written (d.sections.map toPart) := by
      rw [String.toList_append, toList_sectionsText h,
        trimChars_append_blank (allBlank_of_all (by decide)),
        trimChars_of_isTrimmed htrimmed]
    have hread : ofText (d.sectionsText ++ "\n") = pieces.map ofPart :=
      ofText_of_cuts (htext ▸ hcuts) hpieces
    have hsame : pieces.map ofPart = d.sections ↔ pieces.length = (d.sections.map toPart).length := by
      constructor
      · intro heq
        rw [hlength, ← heq, List.length_map]
      · intro heq
        rw [hmap heq, hsections]
    rw [hread, hsame, hiff, separable_map_toPart hlast]
    simp [hlast, hempty]

/-- Two sections of which the last one is empty. -/
theorem ofText_formatted_ne_of_empty_last : ∃ text,
    CommandLine.formatted .sections none
      { body := "", sections := [⟨"Be brief.", some "SYSTEM"⟩, ⟨"", some "USER"⟩] } = .ok text ∧
    ofText (text ++ "\n") ≠ [⟨"Be brief.", some "SYSTEM"⟩, ⟨"", some "USER"⟩] := by
  have hfirst : IsHeaded ⟨"Be brief.", some "SYSTEM"⟩ :=
    ⟨⟨"SYSTEM", rfl, by decide, List.all_eq_true.mp (by decide)⟩, by decide⟩
  have hlast : IsHeaded ⟨"", some "USER"⟩ :=
    ⟨⟨"USER", rfl, by decide, List.all_eq_true.mp (by decide)⟩, by decide⟩
  obtain ⟨text, htext, hiff⟩ := ofText_formatted_eq_iff
    { body := "", sections := [⟨"Be brief.", some "SYSTEM"⟩, ⟨"", some "USER"⟩] } (by simp)
    (by simpa using ⟨hfirst, hlast⟩)
  exact ⟨text, htext, mt hiff.mp (by simp)⟩

end PromptTemplates.Section
