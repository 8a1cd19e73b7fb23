import PromptTemplates.Fault

/-!
# Reading positions

The text of a header block is read with a cursor that knows its column and line. Here are the classes
of characters that the scanner distinguishes; the end of the text takes part in them as a missing
character.
-/

namespace PromptTemplates.Yaml

/-- Why a text is refused: its form is wrong, or a scalar has no value. -/
inductive Problem where
  | malformed
  | valueless (kind : FaultKind)
  deriving DecidableEq, Repr

/-- What reading gives. -/
abbrev Outcome := Except Problem

/-- Refuses the text for its form. -/
def malformed {α : Type} : Outcome α := .error .malformed

/-- A position in a text. -/
structure Cursor where
  rest : List Char
  index : Nat := 0
  line : Nat := 0
  column : Nat := 0
  deriving Repr

/-- The characters that end a line, besides the carriage return. -/
def isNewline (c : Char) : Bool :=
  c == '\n' || c == '\x85' || c == '\u2028' || c == '\u2029'

/-- Whether the character ends a line. -/
def isBreak (c : Char) : Bool := c == '\r' || isNewline c

/-- Whether a line ends here. -/
def endsLine : Option Char → Bool
  | none => true
  | some c => isBreak c

/-- Whether a word ends here. -/
def endsWord : Option Char → Bool
  | none => true
  | some c => c == ' ' || c == '\t' || isBreak c

/-- The characters that a text may hold. -/
def isAllowed (c : Char) : Bool :=
  let n := c.toNat
  n == 0x09 || n == 0x0A || n == 0x0D || n == 0x85 || (0x20 ≤ n && n ≤ 0x7E) ||
  (0xA0 ≤ n && n ≤ 0xD7FF) || (0xE000 ≤ n && n ≤ 0xFFFD) || 0x10000 ≤ n

namespace Cursor

/-- The character here. -/
def peek (c : Cursor) : Option Char := c.rest.head?

/-- The character `n` places on. -/
def peekAt (c : Cursor) (n : Nat) : Option Char := c.rest[n]?

/-- Whether the character here is `x`. -/
def isAt (c : Cursor) (x : Char) : Bool := c.peek == some x

/-- The position after the character here. -/
def advance (c : Cursor) : Cursor :=
  match c.rest with
  | [] => c
  | x :: rest =>
    if isNewline x || (x == '\r' && rest.head? != some '\n') then
      { rest := rest, index := c.index + 1, line := c.line + 1, column := 0 }
    else if x == '\uFEFF' then { c with rest := rest, index := c.index + 1 }
    else { c with rest := rest, index := c.index + 1, column := c.column + 1 }

/-- The position `n` characters on. -/
def advanceBy : (n : Nat) → Cursor → Cursor
  | 0, c => c
  | n + 1, c => advanceBy n c.advance

/-- The longest run of characters that satisfy `p`, and the position after it. -/
def run (p : Char → Bool) (c : Cursor) : List Char × Cursor :=
  let text := c.rest.takeWhile p
  (text, advanceBy text.length c)

/-- The position after a run of characters that satisfy `p`. -/
def skip (p : Char → Bool) (c : Cursor) : Cursor := (c.run p).2

/-- Reads a line end, if there is one here. All but two kinds of line ends are read as a line feed. -/
def lineBreak? (c : Cursor) : Option (Char × Cursor) :=
  match c.rest with
  | '\r' :: '\n' :: _ => some ('\n', advanceBy 2 c)
  | x :: _ =>
    if x == '\u2028' || x == '\u2029' then some (x, c.advance)
    else if isBreak x then some ('\n', c.advance)
    else none
  | [] => none

/-- Whether a line of three hyphens or three dots begins here. -/
def atSeparator (c : Cursor) : Bool :=
  match c.rest with
  | '-' :: '-' :: '-' :: rest => endsWord rest.head?
  | '.' :: '.' :: '.' :: rest => endsWord rest.head?
  | _ => false

end Cursor

end PromptTemplates.Yaml
