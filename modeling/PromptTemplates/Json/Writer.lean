import PromptTemplates.Json.Basic
import PromptTemplates.Text.Quoted

/-!
# Writing JSON

Members stand on lines of their own, indented by two blanks for each level. Text is written in printable
ASCII characters: all others are escaped, those beyond U+FFFF as pairs.
-/

namespace PromptTemplates.Json

/-- The escape of a 16-bit unit. -/
def unitEscape (n : Nat) : List Char := '\\' :: 'u' :: Text.hexDigits 4 n

/-- How one character of a text is written. -/
def writeChar (c : Char) : List Char :=
  if c = '"' then ['\\', '"']
  else if c = '\\' then ['\\', '\\']
  else if c = '\n' then ['\\', 'n']
  else if c = '\r' then ['\\', 'r']
  else if c = '\t' then ['\\', 't']
  else if c = '\x08' then ['\\', 'b']
  else if c = '\x0c' then ['\\', 'f']
  else if ' ' ≤ c ∧ c ≤ '~' then [c]
  else if c.toNat < 0x10000 then unitEscape c.toNat
  else
    let n := c.toNat - 0x10000
    unitEscape (0xD800 + n / 1024) ++ unitEscape (0xDC00 + n % 1024)

/-- How a text is written. -/
def writeText (s : String) : List Char := '"' :: s.toList.flatMap writeChar ++ ['"']

/-- A new line at a level. -/
def newline (level : Nat) : List Char := '\n' :: List.replicate (2 * level) ' '

mutual

/-- Writes a tree at a level. -/
def write (level : Nat) : Json → List Char
  | .null => "null".toList
  | .bool b => (if b then "true" else "false").toList
  | .int n => (toString n).toList
  | .float x => (floatText x).toList
  | .str s => writeText s
  | .arr [] => ['[', ']']
  | .arr (item :: rest) =>
    '[' :: newline (level + 1) ++ write (level + 1) item ++ writeItems (level + 1) rest ++
      newline level ++ [']']
  | .obj [] => ['\x7b', '\x7d']
  | .obj ((key, item) :: rest) =>
    '\x7b' :: newline (level + 1) ++ (writeText key ++ ':' :: ' ' :: write (level + 1) item) ++
      writeMembers (level + 1) rest ++ newline level ++ ['\x7d']

/-- Writes the items after the first one. -/
def writeItems (level : Nat) : List Json → List Char
  | [] => []
  | item :: rest => ',' :: newline level ++ write level item ++ writeItems level rest

/-- Writes the members after the first one. -/
def writeMembers (level : Nat) : List (String × Json) → List Char
  | [] => []
  | (key, item) :: rest =>
    ',' :: newline level ++ (writeText key ++ ':' :: ' ' :: write level item) ++
      writeMembers level rest

end

/-- The text of a tree. -/
def text (j : Json) : String := String.ofList (write 0 j)

end PromptTemplates.Json
