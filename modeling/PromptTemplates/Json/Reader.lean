import PromptTemplates.Json.Basic
import PromptTemplates.Number.Text
import PromptTemplates.Text.Search

/-!
# Reading JSON

Besides the standard form, the words for infinity and for what is no number are read as numbers. Two
escapes that make up one character beyond U+FFFF are read together; half of such a pair alone stands
for no character and is replaced.
-/

namespace PromptTemplates.Json

open Text

/-- The characters between tokens. -/
def isGap (c : Char) : Bool := c == ' ' || c == '\t' || c == '\n' || c == '\r'

/-- Drops what stands between tokens. -/
def dropGaps (s : List Char) : List Char := s.dropWhile isGap

/-- What a letter after a backslash stands for. -/
def escapes : List (Char × Char) :=
  [('"', '"'), ('\\', '\\'), ('/', '/'), ('b', '\x08'), ('f', '\x0c'), ('n', '\n'), ('r', '\r'),
   ('t', '\t')]

/-- The number that four hexadecimal digits write. -/
def unit? (a b c d : Char) : Option Nat := Number.digitsInBase? 16 [a, b, c, d]

/-- The character of a unit. -/
def ofUnit (n : Nat) : Char := if n.isValidChar then Char.ofNat n else '\uFFFD'

/-- Whether a unit is the first half of a pair. -/
def isFirstHalf (n : Nat) : Bool := 0xD800 ≤ n && n ≤ 0xDBFF

/-- Whether a unit is the second half of a pair. -/
def isSecondHalf (n : Nat) : Bool := 0xDC00 ≤ n && n ≤ 0xDFFF

/-- The character of a pair of halves. -/
def ofPair (first second : Nat) : Char :=
  Char.ofNat (0x10000 + (first - 0xD800) * 1024 + (second - 0xDC00))

/-- Reads the characters of a text up to the closing quote. -/
def readChars : List Char → Option (List Char × List Char)
  | [] => none
  | '"' :: rest => some ([], rest)
  | '\\' :: 'u' :: a :: b :: c :: d :: '\\' :: 'u' :: e :: f :: g :: h :: rest => do
    let first ← unit? a b c d
    match unit? e f g h with
    | some second =>
      if isFirstHalf first && isSecondHalf second then
        (readChars rest).map fun (cs, left) => (ofPair first second :: cs, left)
      else
        (readChars ('\\' :: 'u' :: e :: f :: g :: h :: rest)).map fun (cs, left) =>
          (ofUnit first :: cs, left)
    | none => none
  | '\\' :: 'u' :: a :: b :: c :: d :: rest => do
    let n ← unit? a b c d
    (readChars rest).map fun (cs, left) => (ofUnit n :: cs, left)
  | '\\' :: c :: rest => do
    let d ← escapes.lookup c
    (readChars rest).map fun (cs, left) => (d :: cs, left)
  | c :: rest =>
    if c.toNat < 32 then none else (readChars rest).map fun (cs, left) => (c :: cs, left)

/-- Reads digits, at least one. -/
def digits? (s : List Char) : Option (List Char × List Char) :=
  if (s.takeWhile Char.isDigit).isEmpty then none
  else some (s.takeWhile Char.isDigit, s.dropWhile Char.isDigit)

/-- Reads the digits before the point: a zero alone, or digits of which the first is not zero. -/
def whole? : List Char → Option (List Char × List Char)
  | '0' :: rest => some (['0'], rest)
  | s => digits? s

/-- Reads a fraction, if there is one. -/
def fraction (s : List Char) : List Char × List Char :=
  match s with
  | '.' :: rest =>
    match digits? rest with
    | some (ds, left) => ('.' :: ds, left)
    | none => ([], s)
  | s => ([], s)

/-- Reads an exponent, if there is one. -/
def exponent (s : List Char) : List Char × List Char :=
  match s with
  | e :: rest =>
    if e = 'e' ∨ e = 'E' then
      let (sign, digits) := match rest with
        | '+' :: ds => (['+'], ds)
        | '-' :: ds => (['-'], ds)
        | ds => ([], ds)
      match digits? digits with
      | some (ds, left) => ('e' :: sign ++ ds, left)
      | none => ([], s)
    else ([], s)
  | [] => ([], s)

/-- Reads a number without a sign. -/
def unsigned? (negative : Bool) (s : List Char) : Option (Json × List Char) := do
  let (ds, rest) ← whole? s
  let (point, rest) := fraction rest
  let (power, rest) := exponent rest
  if point.isEmpty && power.isEmpty then
    let n ← Number.digitsInBase? 10 ds
    return (.int (if negative then -(n : Int) else n), rest)
  else return (.float (← Number.decimal? negative (ds ++ point ++ power)), rest)

/-- Reads a number. -/
def number? (s : List Char) : Option (Json × List Char) :=
  match s with
  | '-' :: rest => unsigned? true rest
  | s => unsigned? false s

/-- The words and what they stand for. -/
def words : List (List Char × Json) :=
  [("null".toList, .null), ("true".toList, .bool true), ("false".toList, .bool false),
   ("NaN".toList, .float .nan), ("Infinity".toList, .float (.infinite false)),
   ("-Infinity".toList, .float (.infinite true))]

/-- Reads a word. -/
def word? (s : List Char) : Option (Json × List Char) :=
  words.findSome? fun (name, j) => (after? name s).map fun rest => (j, rest)

mutual

/-- Reads a tree from the start of a text. -/
def readTree : (fuel : Nat) → List Char → Option (Json × List Char)
  | 0, _ => none
  | fuel + 1, s =>
    match s with
    | '"' :: rest => (readChars rest).map fun (cs, left) => (.str (String.ofList cs), left)
    | '[' :: rest =>
      match dropGaps rest with
      | ']' :: left => some (.arr [], left)
      | inner => (readItems fuel inner).map fun (items, left) => (.arr items, left)
    | '\x7b' :: rest =>
      match dropGaps rest with
      | '\x7d' :: left => some (.obj [], left)
      | inner => (readMembers fuel inner).map fun (members, left) => (.obj members, left)
    | s => word? s <|> number? s

/-- Reads items up to the closing bracket. -/
def readItems : (fuel : Nat) → List Char → Option (List Json × List Char)
  | 0, _ => none
  | fuel + 1, s => do
    let (item, rest) ← readTree fuel s
    match dropGaps rest with
    | ']' :: left => some ([item], left)
    | ',' :: rest => do
      let (items, left) ← readItems fuel (dropGaps rest)
      return (item :: items, left)
    | _ => none

/-- Reads members up to the closing brace. -/
def readMembers : (fuel : Nat) → List Char → Option (List (String × Json) × List Char)
  | 0, _ => none
  | fuel + 1, s =>
    match s with
    | '"' :: rest => do
      let (key, rest) ← readChars rest
      match dropGaps rest with
      | ':' :: rest => do
        let (item, rest) ← readTree fuel (dropGaps rest)
        match dropGaps rest with
        | '\x7d' :: left => some ([(String.ofList key, item)], left)
        | ',' :: rest => do
          let (members, left) ← readMembers fuel (dropGaps rest)
          return ((String.ofList key, item) :: members, left)
        | _ => none
      | _ => none
    | _ => none

end

/-- The tree that a text writes. Each step of reading uses up a character, so the length of the text
bounds their number. -/
def read? (text : List Char) : Option Json := do
  let (j, rest) ← readTree (2 * text.length + 1) (dropGaps text)
  if (dropGaps rest).isEmpty then return j else none

end PromptTemplates.Json
