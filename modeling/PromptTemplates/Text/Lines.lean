/-!
# Line ends

Reading a text file turns the line ends CR LF and CR into LF. Counting the lines of a text also
takes the other characters that end a line.
-/

namespace PromptTemplates.Text

/-- Turns each CR LF and each other CR into LF. -/
def unifyLineEnds : List Char → List Char
  | [] => []
  | '\r' :: '\n' :: rest => '\n' :: unifyLineEnds rest
  | '\r' :: rest => '\n' :: unifyLineEnds rest
  | c :: rest => c :: unifyLineEnds rest

/-- The characters that end a line. -/
def isLineEnd (c : Char) : Bool :=
  let n := c.toNat
  (0x0A ≤ n && n ≤ 0x0D) || (0x1C ≤ n && n ≤ 0x1E) || n == 0x85 || n == 0x2028 || n == 0x2029

/-- Counts lines; `inLine` says whether the current line already has a character. -/
def countLinesFrom : (inLine : Bool) → List Char → Nat
  | inLine, [] => if inLine then 1 else 0
  | _, '\r' :: '\n' :: rest => 1 + countLinesFrom false rest
  | _, c :: rest => if isLineEnd c then 1 + countLinesFrom false rest else countLinesFrom true rest

/-- The number of lines. A line end at the very end opens no further line. -/
def countLines (s : String) : Nat := countLinesFrom false s.toList

/-- The number of line feeds. -/
def lineFeeds (s : List Char) : Nat := s.count '\n'

end PromptTemplates.Text
