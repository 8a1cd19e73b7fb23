import PromptTemplates.Entries
import PromptTemplates.Markup
import PromptTemplates.Text.Word

/-!
# Addresses with tokens

An address may hold tokens, a colon and a name. A token whose name is in the table of values is
replaced by the text of its value, which then leaves the table; so each name is filled in once, at its
first token. A root-relative address gets the base address in front.
-/

namespace PromptTemplates.Url

open Text

/-- Reads the name of a token at the start of a text: the name and the rest. -/
def tokenName? : List Char → Option (List Char × List Char)
  | [] => none
  | c :: rest =>
    if isAsciiNameStart c then some (c :: rest.takeWhile isWordChar, rest.dropWhile isWordChar)
    else none

theorem length_lt_of_tokenName? {s name rest : List Char} (h : tokenName? s = some (name, rest)) :
    rest.length < s.length := by
  cases s with
  | nil => simp [tokenName?] at h
  | cons c cs =>
    simp only [tokenName?] at h
    split at h
    · cases h
      have := (List.dropWhile_sublist (l := cs) isWordChar).length_le
      simp
      omega
    · cases h

/-- Fills in the tokens of a text, and gives what is left of the table. -/
def fill (working : Entries String Value) (s : List Char) : List Char × Entries String Value :=
  match s with
  | [] => ([], working)
  | c :: cs =>
    match _h : if c = ':' then tokenName? cs else none with
    | some (name, rest) =>
      match working.get? (String.ofList name) with
      | some value =>
        let (text, left) := fill (working.erase (String.ofList name)) rest
        (value.text.toList ++ text, left)
      | none =>
        let (text, left) := fill working rest
        (c :: name ++ text, left)
    | none =>
      let (text, left) := fill working cs
      (c :: text, left)
termination_by s.length
decreasing_by
  · split at _h
    · have := length_lt_of_tokenName? _h; simp; omega
    · cases _h
  · split at _h
    · have := length_lt_of_tokenName? _h; simp; omega
    · cases _h
  · simp

/-- The address with the base in front if it is root-relative. -/
def rebase (base : Option String) (url : String) : String :=
  match base with
  | some b => if !b.isEmpty && url.toList.head? == some '/' then b ++ url else url
  | none => url

/-- Completes an address: the address, and what is left of the table. -/
def normalize (url : String) (working : Entries String Value) (base : Option String) :
    String × Entries String Value :=
  let (text, left) := fill working (rebase base url).toList
  (String.ofList text, left)

end PromptTemplates.Url
