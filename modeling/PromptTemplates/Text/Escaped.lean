import PromptTemplates.Number.Text

/-!
# Escapes in names

A name that stands between quotes may hold escapes, which a backslash begins: a quote, a control
character by its letter, or a character by its code, in octal or hexadecimal digits. A backslash at the
end of a line joins the line with the next one, and before anything else it stands for itself. A name
with a bare quote, line end or null character, or with an escape that breaks off, cannot be decoded.
-/

namespace PromptTemplates.Text

/-- What a single character after a backslash stands for. -/
def singleEscapes : List (Char × Char) :=
  [('\\', '\\'), ('\'', '\''), ('"', '"'), ('a', '\x07'), ('b', '\x08'), ('f', '\x0c'), ('n', '\n'),
   ('r', '\r'), ('t', '\t'), ('v', '\x0b')]

/-- How many hexadecimal digits follow a letter after a backslash. -/
def escapeWidth? : Char → Option Nat
  | 'x' => some 2
  | 'u' => some 4
  | 'U' => some 8
  | _ => none

/-- The character of a code; halves of pairs are no characters and are replaced. -/
def charOfCode? (code : Nat) : Option Char :=
  if code.isValidChar then some (Char.ofNat code)
  else if code < 0x110000 then some '\uFFFD'
  else none

/-- Whether the character is an octal digit. -/
def isOctalDigit (c : Char) : Bool := '0' ≤ c && c ≤ '7'

/-- What the text after a backslash stands for, and how many of its characters say so. -/
def escapeMeaning? (s : List Char) : Option (List Char × Nat) :=
  match s with
  | [] => none
  | '\r' :: '\n' :: _ => some ([], 2)
  | c :: rest =>
    if c = '\n' ∨ c = '\r' then some ([], 1)
    else if isOctalDigit c then
      let digits := (s.take 3).takeWhile isOctalDigit
      ((Number.digitsInBase? 8 digits).bind charOfCode?).map fun d => ([d], digits.length)
    else
      match singleEscapes.lookup c, escapeWidth? c with
      | some d, _ => some ([d], 1)
      | none, some width =>
        let digits := rest.take width
        if digits.length < width then none
        else ((Number.digitsInBase? 16 digits).bind charOfCode?).map fun d => ([d], width + 1)
      | none, none => if c = 'N' then none else some (['\\'], 0)

/-- The characters that a name between the quotes `q` stands for. -/
def unescape? (q : Char) (s : List Char) : Option (List Char) :=
  match s with
  | [] => some []
  | c :: rest =>
    if c = '\\' then
      match escapeMeaning? rest with
      | some (meaning, width) => (unescape? q (rest.drop width)).map (meaning ++ ·)
      | none => none
    else if c = q ∨ c = '\n' ∨ c = '\r' ∨ c = '\x00' then none
    else (unescape? q rest).map (c :: ·)
termination_by s.length
decreasing_by
  · simp only [List.length_drop, List.length_cons]; omega
  · simp only [List.length_cons]; omega

/-- The name that is written between the quotes `q`. -/
def unescapeName? (q : Char) (written : String) : Option String :=
  (unescape? q written.toList).map String.ofList

@[simp] theorem unescape?_nil (q : Char) : unescape? q [] = some [] := by rw [unescape?]

/-- A name without backslashes, quotes, line ends and null characters stands for itself. -/
theorem unescape?_of_plain {q : Char} {s : List Char}
    (h : ∀ c ∈ s, c ≠ '\\' ∧ c ≠ q ∧ c ≠ '\n' ∧ c ≠ '\r' ∧ c ≠ '\x00') :
    unescape? q s = some s := by
  induction s with
  | nil => simp
  | cons c rest ih =>
    have hc := h c (by simp)
    rw [unescape?, ih fun d hd => h d (by simp [hd])]
    simp [hc]

end PromptTemplates.Text
