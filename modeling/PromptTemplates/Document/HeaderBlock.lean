import PromptTemplates.Text.Blank
import PromptTemplates.Text.Search

/-!
# The header block of a text

A text may begin with a line of three hyphens. The header block reaches from there to a line of three
hyphens or three dots; what follows that line is the body. A block with at least one line, a blank one
included, is preferred to an empty one.
-/

namespace PromptTemplates.HeaderBlock

open Text

/-- Drops a line end, LF or CR LF. -/
def lineEnd? : List Char → Option (List Char)
  | '\n' :: rest => some rest
  | '\r' :: '\n' :: rest => some rest
  | _ => none

/-- Drops the line that opens a block, with the byte order mark before it. -/
def opening? (s : List Char) : Option (List Char) := do
  let s := match s with
    | '\uFEFF' :: rest => rest
    | s => s
  lineEnd? ((← after? ['-', '-', '-'] s).dropWhile isSpaceOrTab)

/-- Drops the line that closes a block; it may be the last one and have no line end. -/
def closing? (s : List Char) : Option (List Char) := do
  let rest := (← after? ['-', '-', '-'] s <|> after? ['.', '.', '.'] s).dropWhile isSpaceOrTab
  if rest.isEmpty then some [] else lineEnd? rest

/-- Looks for the first line end that a closing line follows: the text before that line end and the
text after the closing line. -/
def untilClosing? : List Char → Option (List Char × List Char)
  | [] => none
  | c :: cs =>
    match (lineEnd? (c :: cs)).bind closing? with
    | some rest => some ([], rest)
    | none => (untilClosing? cs).map fun (front, rest) => (c :: front, rest)

/-- Splits a text into its header block and its body, if it has a block. -/
def split? (s : List Char) : Option (List Char × List Char) := do
  let s ← opening? s
  untilClosing? s <|> (closing? s).map fun rest => ([], rest)

end PromptTemplates.HeaderBlock
