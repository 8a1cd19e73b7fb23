import PromptTemplates.Text.Blank
import PromptTemplates.Text.Word
import PromptTemplates.Toml.Scalar
import PromptTemplates.Value.Key

/-!
# Statements of settings files

A settings file is read line by line. A line is a header, which names a table or adds one to a list of
tables, or it gives a value to a key. A list has values of one kind. A table on one line is written
like its statements, with commas between them.
-/

namespace PromptTemplates.Toml

open Reader Text

/-- A statement. The names of a header, and those of a key, lead from table to table. -/
inductive Statement where
  | header (adds : Bool) (names : List String)
  | assign (names : List String) (value : Value)
  deriving Repr

/-- Blanks on a line. -/
def blanks : Reader Unit := do let _ ← run isSpaceOrTab

/-- A comment, if there is one. -/
def comment : Reader Unit :=
  (do token ['#']; let _ ← run (· != '\n')) <|> succeed ()

/-- Blanks, line ends and comments. -/
def gaps : Reader Unit := fun s =>
  (do let _ ← many (run1 (fun c => isSpaceOrTab c || c == '\n') <|> commentText) s.length : Reader Unit) s
where
  commentText : Reader (List Char) := do
    token ['#']
    run (· != '\n')

/-- What may follow a statement: blanks and a comment, then the end of the line. -/
def lineEnd : Reader Unit := do
  blanks
  comment
  fun s => match s with
    | [] => ⟨some ((), []), true⟩
    | '\n' :: rest => ⟨some ((), rest), false⟩
    | _ => ⟨none, false⟩

/-- A character of a key without quotes. -/
def isKeyChar (c : Char) : Bool := isAlphanumeric c || c == '_' || c == '-'

/-- The characters that a key without quotes cannot begin with. -/
def isReserved (c : Char) : Bool := isBlank c || "=[#.\"'".toList.contains c

/-- A part of a key. Without quotes its first character is hardly restricted. -/
def keyPart : Reader String :=
  firstOf [lineText '"', lineText '\'', do
    let c ← one fun c => !isReserved c
    return String.ofList (c :: (← run isKeyChar))]

/-- A part of a header. -/
def headerPart : Reader String :=
  firstOf [lineText '"', lineText '\'', do
    return String.ofList (← run1 fun c => c.isAlphanum || c == '_' || c == '-')]

/-- Parts with dots between them. -/
def dotted (part : Reader String) : Reader (List String) := fun s =>
  (do
    blanks
    let first ← part
    let rest ← many (do blanks; token ['.']; blanks; part) s.length
    blanks
    return first :: rest : Reader (List String)) s

/-- The kinds of values that a list does not mix. -/
def kind : Value → Nat
  | .bool _ => 0
  | .int _ => 1
  | .float _ => 2
  | .str _ => 3
  | .list _ => 4
  | .map _ => 5
  | _ => 6

/-- Whether all values are of one kind. -/
def areAlike : List Value → Bool
  | [] => true
  | v :: rest => rest.all fun w => kind v == kind w

/-- Gives a value to a key, unless it has one. -/
def assign (table : List (Value × Value)) : (names : List String) → Value →
    Option (List (Value × Value))
  | [], _ => none
  | [name], v => if Entries.has (.str name) table then none else some (table ++ [(.str name, v)])
  | name :: rest, v => do
    let inner ← match Value.entry? name table with
      | none => some []
      | some (.map entries) => some entries
      | some _ => none
    return Entries.put (.str name) (.map (← assign inner rest v)) table

/-- A word without quotes. -/
def word : Reader Value := do
  let cs ← run1 fun c => !"\n#,[]\x7b\x7d\"'".toList.contains c
  match word? (trimChars cs) with
  | some v => return v
  | none => fail

/-- A word that may stand in a table on one line: its numbers begin with a digit or a hyphen. -/
def innerWord : Reader Value := fun s =>
  match s with
  | c :: _ => if c.isDigit || c == '-' || c == 't' || c == 'f' then word s else ⟨none, false⟩
  | [] => ⟨none, false⟩

/-- The members of a list, where empty places do not count. -/
def members (value : Reader Value) : (fuel : Nat) → Reader (List Value)
  | 0 => fail
  | fuel + 1 => do
    gaps
    (do token [']']; return []) <|>
      (do token [',']; members value fuel) <|>
      (do
        let v ← value
        gaps
        absent (one fun c => c != ',' && c != ']')
        return v :: (← members value fuel))

/-- The statements of a table on one line. -/
def fields (value : Reader Value) : (fuel : Nat) → (table : List (Value × Value)) →
    Reader (List (Value × Value))
  | 0, _ => fail
  | fuel + 1, table => do
    let names ← dotted keyPart
    token ['=']
    blanks
    let v ← value
    blanks
    match assign table names v with
    | none => fail
    | some table =>
      (do token ['\x7d']; return table) <|> (do token [',']; fields value fuel table)

/-- A value; `word` reads words without quotes. -/
def value (word : Reader Value) : (fuel : Nat) → Reader Value
  | 0 => fail
  | fuel + 1 =>
    firstOf [do return .str (← text),
      (do
        token ['[']
        let items ← members (value Toml.word fuel) fuel
        if areAlike items then return .list items else fail),
      (do
        token ['\x7b']
        blanks
        (do token ['\x7d']; return .map []) <|>
          (do return .map (← fields (value innerWord fuel) fuel []))),
      word]

/-- The names of a header between brackets. -/
def header (adds : Bool) : Reader Statement := do
  let bracket (c : Char) := token (if adds then [c, c] else [c])
  bracket '['
  let names ← dotted headerPart
  bracket ']'
  return .header adds names

/-- A statement on one line. -/
def statement : Reader Statement := fun s =>
  (do
    blanks
    let found ← firstOf [header true, header false, do
      let names ← dotted keyPart
      token ['=']
      blanks
      return .assign names (← value word s.length)]
    lineEnd
    return found : Reader Statement) s

/-- The statements of a text, unless it is malformed. -/
def statements? : (fuel : Nat) → List Char → Option (List Statement)
  | 0, _ => none
  | fuel + 1, s =>
    match gaps s with
    | ⟨some (_, []), _⟩ => some []
    | ⟨some (_, rest), _⟩ =>
      match statement rest with
      | ⟨some (found, rest), _⟩ => (statements? fuel rest).map (found :: ·)
      | ⟨none, _⟩ => none
    | ⟨none, _⟩ => none

end PromptTemplates.Toml
