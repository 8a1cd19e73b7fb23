import PromptTemplates.Helper.Signature
import PromptTemplates.Text.Search
import PromptTemplates.Text.Blank

/-!
# Pairs of a key and a value

Parameters can be given as texts with an equals sign. The key loses its outer blanks, and of two pairs
with one key the later one counts. A text without an equals sign is passed over.
-/

namespace PromptTemplates.Pair

open Text

/-- Splits a pair at its first equals sign. -/
def split? (pair : String) : Option (String × String) :=
  (cutAt? ['='] pair.toList).map fun (key, value) =>
    (String.ofList (trimChars key), String.ofList value)

/-- The table of some pairs. -/
def table (pairs : List String) : Named :=
  Entries.ofPairs ((pairs.filterMap split?).map fun (key, value) => (key, .str value))

/-- The table of some pairs; each text that is passed over leaves an event. -/
def tableNoted (pairs : List String) : Logged Named := do
  for pair in pairs do
    if (split? pair).isNone then note .pairIgnored
  return table pairs

end PromptTemplates.Pair
