import PromptTemplates.Text.Blank

/-!
# Labels of templates

A template is named in messages by a short text on one line.
-/

namespace PromptTemplates

/-- The first characters of a text: `n` of them or, when `n` is negative, all but the last `-n`. -/
def takeSigned (n : Int) (s : List Char) : List Char :=
  match n with
  | .ofNat k => s.take k
  | .negSucc k => s.take (s.length - (k + 1))

/-- The text without line feeds and outer blanks, cut to `limit` characters by leaving out its end
and writing three dots there. -/
def labelWithin (limit : Int) (identifier : String) : String :=
  let text := Text.trimChars (identifier.toList.map fun c => if c = '\n' then ' ' else c)
  String.ofList (if (text.length : Int) ≤ limit then text else takeSigned (limit - 3) text ++ ['.', '.', '.'])

/-- The label of a template in messages: at most forty characters. -/
def templateLabel (identifier : String) : String := labelWithin 40 identifier

end PromptTemplates
