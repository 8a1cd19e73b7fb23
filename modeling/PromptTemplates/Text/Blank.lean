/-!
# Blank characters and trimming

A character is blank when Unicode gives it the property White_Space, or when it is one of the four
information separators U+001C to U+001F. Trimming removes the longest run of blanks at an end.
-/

namespace PromptTemplates.Text

/-- The blank characters. Neither U+200B (zero width space) nor U+FEFF is one. -/
def isBlank (c : Char) : Bool :=
  let n := c.toNat
  (0x09 ≤ n && n ≤ 0x0D) || (0x1C ≤ n && n ≤ 0x20) || n == 0x85 || n == 0xA0 || n == 0x1680 ||
  (0x2000 ≤ n && n ≤ 0x200A) || n == 0x2028 || n == 0x2029 || n == 0x202F || n == 0x205F ||
  n == 0x3000

/-- A blank that stays on its line. -/
def isSpaceOrTab (c : Char) : Bool := c == ' ' || c == '\t'

/-- Drops the longest run at the end whose characters all satisfy `p`. -/
def dropEndWhile (p : Char → Bool) (s : List Char) : List Char :=
  s.foldr (fun c rest => if rest.isEmpty && p c then [] else c :: rest) []

/-- Drops the longest runs at both ends whose characters all satisfy `p`. -/
def trimWhile (p : Char → Bool) (s : List Char) : List Char :=
  dropEndWhile p (s.dropWhile p)

/-- Drops the blanks at both ends. -/
def trimChars (s : List Char) : List Char := trimWhile isBlank s

/-- Drops the blanks at both ends. -/
def trim (s : String) : String := String.ofList (trimChars s.toList)

/-- Drops every copy of `c` at the end. -/
def dropEndAll (c : Char) (s : String) : String :=
  String.ofList (dropEndWhile (· == c) s.toList)

theorem isBlank_of_isWhitespace {c : Char} (h : c.isWhitespace = true) : isBlank c = true := by
  simp only [Char.isWhitespace, Bool.or_eq_true, decide_eq_true_eq] at h
  rcases h with ((rfl | rfl) | rfl) | rfl <;> decide

end PromptTemplates.Text
