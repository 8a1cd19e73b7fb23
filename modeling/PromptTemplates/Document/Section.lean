import PromptTemplates.Text.Blank
import PromptTemplates.Text.Search
import PromptTemplates.Text.Word

/-!
# Sections

A body is cut into sections by delimiters. A delimiter is a line that holds a name between two groups
of three equals signs, followed by an empty line. The text before the first delimiter is dropped; a
body without a delimiter is one section without a title.
-/

namespace PromptTemplates

open Text

/-- A part of a rendered body. -/
structure Section where
  content : String
  title : Option String := none
  deriving DecidableEq, Repr

namespace Section

/-- Reads a delimiter at the start of a line: its title and the text after it. -/
def delimiter? (s : List Char) : Option (List Char × List Char) := do
  let s ← after? ['=', '=', '=', ' '] s
  let title := s.takeWhile isAsciiWordChar
  let rest ← after? [' ', '=', '=', '=', '\n', '\n'] (s.dropWhile isAsciiWordChar)
  if title.isEmpty then none else some (title, rest)

theorem append_of_delimiter? {s title rest : List Char} (h : delimiter? s = some (title, rest)) :
    s = "=== ".toList ++ title ++ " ===\n\n".toList ++ rest := by
  simp only [delimiter?, Option.bind_eq_bind, Option.bind_eq_some_iff] at h
  obtain ⟨t, ht, r, hr, he⟩ := h
  split at he
  · cases he
  · cases he
    have := after?_eq_some_iff.1 ht
    have h₂ := after?_eq_some_iff.1 hr
    subst this
    have h₃ : t = t.takeWhile isAsciiWordChar ++ ([' ', '=', '=', '=', '\n', '\n'] ++ rest) := by
      rw [← h₂, List.takeWhile_append_dropWhile]
    exact (congrArg (['=', '=', '=', ' '] ++ ·) h₃).trans (by simp)

theorem length_lt_of_delimiter? {s title rest : List Char} (h : delimiter? s = some (title, rest)) :
    rest.length < s.length := by
  rw [append_of_delimiter? h]
  simp
  omega

/-- Cuts a text at its delimiters: the text before the first one, then title and text of each
section. `atStart` says whether the text begins a line. -/
def cut (atStart : Bool) (s : List Char) : List Char × List (List Char × List Char) :=
  match s with
  | [] => ([], [])
  | c :: cs =>
    match _h : if atStart then delimiter? (c :: cs) else none with
    | some (title, rest) =>
      let (content, others) := cut true rest
      ([], (title, content) :: others)
    | none =>
      let (front, others) := cut (c == '\n') cs
      (c :: front, others)
termination_by s.length
decreasing_by
  · split at _h
    · exact length_lt_of_delimiter? _h
    · cases _h
  · simp

/-- The sections of a text. -/
def ofText (text : String) : List Section :=
  let text := trimChars text.toList
  match (cut true text).2 with
  | [] => [{ content := String.ofList text }]
  | pieces => pieces.map fun (title, content) =>
      { content := String.ofList (trimChars content), title := some (String.ofList title) }

/-- The delimiter line and the empty line that announce a section. -/
def heading (title : String) : String := "=== " ++ title ++ " ===\n\n"

end Section

end PromptTemplates
