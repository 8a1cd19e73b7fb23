import PromptTemplates.Text.Search

/-!
# Character entities

Three ways of writing characters as entities (for interpolated values, for element text and for
attribute values) and the way back for the five quote-like entities that a finished text reverts.
-/

namespace PromptTemplates.Text

/-- How an interpolated value writes one character. -/
def escapeChar : Char → List Char
  | '&' => "&amp;".toList
  | '"' => "&quot;".toList
  | '\'' => "&#x27;".toList
  | '\x60' => "&#x60;".toList
  | '<' => "&lt;".toList
  | '>' => "&gt;".toList
  | c => [c]

/-- How the text of an element writes one character. -/
def escapeTextChar : Char → List Char
  | '&' => "&amp;".toList
  | '<' => "&lt;".toList
  | '>' => "&gt;".toList
  | c => [c]

/-- How an attribute value writes one character. The quote takes the decimal entity, which
`unescape` leaves alone. -/
def escapeAttributeChar : Char → List Char
  | '"' => "&#34;".toList
  | c => escapeTextChar c

/-- Escapes an interpolated value. -/
def escape (s : String) : String := String.ofList (s.toList.flatMap escapeChar)

/-- Escapes the text of an element. -/
def escapeText (s : String) : String := String.ofList (s.toList.flatMap escapeTextChar)

/-- Escapes an attribute value. -/
def escapeAttribute (s : String) : String := String.ofList (s.toList.flatMap escapeAttributeChar)

/-- The entities that a finished text reverts, each with its character. -/
def revertedEntities : List (List Char × Char) :=
  [("&quot;".toList, '"'), ("&#x27;".toList, '\''), ("&#39;".toList, '\''),
   ("&#x3D;".toList, '='), ("&#x60;".toList, '\x60')]

/-- The reverted entity at the start of `s`, if there is one: its character and its length. -/
def entityAt? (s : List Char) : Option (Char × Nat) :=
  (revertedEntities.find? fun entry => startsWith entry.1 s).map fun entry =>
    (entry.2, entry.1.length)

/-- Reverts entities from left to right; `skip` counts the characters of the last entity that are
still to be passed over. -/
def unescapeFrom : (skip : Nat) → List Char → List Char
  | _, [] => []
  | 0, c :: cs =>
    match entityAt? (c :: cs) with
    | some (d, n) => d :: unescapeFrom (n - 1) cs
    | none => c :: unescapeFrom 0 cs
  | skip + 1, _ :: cs => unescapeFrom skip cs

section

variable {c d : Char} {cs : List Char} {n : Nat}

@[simp] theorem unescapeFrom_nil (skip : Nat) : unescapeFrom skip [] = [] := by
  cases skip <;> rfl

theorem unescapeFrom_of_entityAt? (h : entityAt? (c :: cs) = some (d, n)) :
    unescapeFrom 0 (c :: cs) = d :: unescapeFrom (n - 1) cs := by
  rw [unescapeFrom, h]

theorem unescapeFrom_of_entityAt?_eq_none (h : entityAt? (c :: cs) = none) :
    unescapeFrom 0 (c :: cs) = c :: unescapeFrom 0 cs := by
  rw [unescapeFrom, h]

end

/-- Turns the quote-like entities back into their characters; the entities of the ampersand and
the angle brackets stay. -/
def unescape (s : String) : String := String.ofList (unescapeFrom 0 s.toList)

end PromptTemplates.Text
