import PromptTemplates.Text.Blank
import PromptTemplates.Text.Search

/-!
# Spacing around tags

Before a template is read, blanks around some tags are taken out. A tilde at the inner side of a pair
of braces takes out the blanks outside. A line that holds nothing but block and comment tags is joined
with its neighbours; on the first line only opening tags and comments count, on the last one only
closing tags and comments. The places are found from left to right, each as long as it can be.
-/

namespace PromptTemplates.Spacing

open Text

/-- Drops the blanks after a tag that ends with a tilde. -/
def tildeEnd? (s : List Char) : Option (List Char) :=
  (after? ['~', '}', '}'] s).map (·.dropWhile isBlank)

/-- Drops the blanks before a tag that begins with a tilde, and its opening. -/
def tildeStart? (s : List Char) : Option (List Char) := after? ['{', '{', '~'] (s.dropWhile isBlank)

/-- Drops at least one character that is no brace, and two closing braces. -/
def tagBody? (s : List Char) : Option (List Char) :=
  let isBody (c : Char) := c != '{' && c != '}'
  if (s.takeWhile isBody).isEmpty then none else after? ['}', '}'] (s.dropWhile isBody)

/-- Drops the inside of a tag that begins with one of the signs, or of an `else` tag if these count. -/
def inner? (signs : List Char) (withElse : Bool) (s : List Char) : Option (List Char) :=
  match s with
  | c :: rest =>
    if signs.contains c then tagBody? rest
    else if withElse then
      after? "else\x7d\x7d".toList s <|> (after? "else if ".toList s).bind tagBody?
    else none
  | [] => none

/-- Drops a tag and the blanks on its line around it. -/
def tag? (signs : List Char) (withElse : Bool) (s : List Char) : Option (List Char) :=
  ((after? ['{', '{'] (s.dropWhile isSpaceOrTab)).bind (inner? signs withElse)).map
    (·.dropWhile isSpaceOrTab)

/-- Drops further tags, at most `fuel` of them. -/
def moreTags (signs : List Char) (withElse : Bool) : (fuel : Nat) → List Char → List Char
  | 0, s => s
  | fuel + 1, s =>
    match tag? signs withElse s with
    | some rest => moreTags signs withElse fuel rest
    | none => s

/-- Drops at least one tag. -/
def tags? (signs : List Char) (withElse : Bool) (s : List Char) : Option (List Char) :=
  (tag? signs withElse s).map fun rest => moreTags signs withElse rest.length rest

/-- Drops a line end. -/
def lineEnd? : List Char → Option (List Char)
  | '\n' :: rest => some rest
  | '\r' :: '\n' :: rest => some rest
  | _ => none

/-- Drops a line end and a last line of closing tags and comments. -/
def lastLine? (s : List Char) : Option (List Char) := do
  let rest ← tags? ['/', '!'] false (← lineEnd? s)
  if rest.isEmpty then some rest else none

/-- The text after the place at the start of `s`, if there is one. `atStart` says that `s` is the whole
template, `atLine` that a line feed precedes it. -/
def place? (atStart atLine : Bool) (s : List Char) : Option (List Char) :=
  tildeEnd? s <|> tildeStart? s <|>
  (if atLine then (tags? ['#', '/', '!'] true s).bind lineEnd? else none) <|>
  (if atStart then (tags? ['#', '!'] false s).bind lineEnd? else none) <|>
  lastLine? s

/-- Takes the blanks between tags and the tildes out of a place. `p` and `q` are the two characters
before, `dropping` says that the blanks at hand are being taken out. -/
def clean (p q : Char) (dropping : Bool) : List Char → List Char
  | [] => []
  | c :: rest =>
    if isSpaceOrTab c && (dropping || p == '}' && q == '}' &&
        startsWith ['{', '{'] (rest.dropWhile isSpaceOrTab)) then
      clean q c true rest
    else if c == '~' && (p == '{' && q == '{' || startsWith ['}', '}'] rest) then
      clean q c false rest
    else c :: clean q c false rest

/-- What a place becomes. -/
def cleaned (place : List Char) : List Char := clean ' ' ' ' false (trimChars place)

/-- Takes the blanks out of a text; `last` is the character before it. -/
def adjustFrom (atStart : Bool) (last : Char) (s : List Char) : List Char :=
  match s with
  | [] => []
  | c :: cs =>
    match place? atStart (last == '\n') (c :: cs) with
    | some rest =>
      let place := (c :: cs).take (cs.length + 1 - rest.length)
      cleaned place ++ adjustFrom false (place.getLast?.getD ' ') (cs.drop (cs.length - rest.length))
    | none => c :: adjustFrom false c cs
termination_by s.length
decreasing_by
  · simp only [List.length_cons, List.length_drop]; omega
  · simp

/-- The template without the blanks around its tags. -/
def adjust (source : List Char) : List Char := adjustFrom true ' ' source

end PromptTemplates.Spacing
