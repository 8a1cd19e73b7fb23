import PromptTemplates.Yaml.Token

/-!
# Scanning

The scanner turns a text into tokens. Outside brackets, indentation opens and closes collections: a
token further to the right than its surroundings opens one, and a token further to the left closes
those it leaves. A key is known as such only when its colon is read, so the scanner remembers, for each
depth of brackets, where a key may have begun; a key stands on one line and has at most 1024
characters.
-/

namespace PromptTemplates.Yaml

/-- Where a key may have begun. `required` says that nothing but a key can stand there. -/
structure KeyCandidate where
  position : Nat
  required : Bool
  index : Nat
  line : Nat
  column : Nat
  deriving Repr

/-- The state of the scanner. `keys` holds the candidates by depth of brackets, `indents` the columns of
the enclosing collections. -/
structure Scanner where
  cursor : Cursor
  tokens : Array Token := #[]
  depth : Nat := 0
  indent : Int := -1
  indents : List Int := []
  mayStartKey : Bool := true
  keys : List (Nat × KeyCandidate) := []

namespace Scanner

/-- Appends a token. -/
def push (s : Scanner) (t : Token) : Scanner := { s with tokens := s.tokens.push t }

/-- Inserts a token at a position. -/
def insertAt (s : Scanner) (position : Nat) (t : Token) : Scanner :=
  { s with tokens := (s.tokens.extract 0 position).push t ++
      s.tokens.extract position s.tokens.size }

/-- Skips blanks, comments and line ends. A key may start on a new line outside brackets. -/
def skipSpace : (fuel : Nat) → Scanner → Scanner
  | 0, s => s
  | fuel + 1, s =>
    let c := s.cursor.skip (· == ' ')
    let c := if c.isAt '#' then c.skip (fun x => !isBreak x) else c
    match c.lineBreak? with
    | some (_, c) =>
      skipSpace fuel { s with cursor := c, mayStartKey := s.mayStartKey || s.depth == 0 }
    | none => { s with cursor := c }

/-- Forgets the candidates that are too far away. -/
def dropStale (s : Scanner) : Outcome Scanner :=
  let isStale (k : KeyCandidate) := k.line != s.cursor.line || s.cursor.index - k.index > 1024
  if s.keys.any fun (_, k) => isStale k && k.required then malformed
  else .ok { s with keys := s.keys.filter fun (_, k) => !isStale k }

/-- Forgets the candidate at this depth. -/
def dropKey (s : Scanner) : Outcome Scanner :=
  match s.keys.lookup s.depth with
  | some k =>
    if k.required then malformed
    else .ok { s with keys := s.keys.filter fun (depth, _) => depth != s.depth }
  | none => .ok s

/-- Notes that a key may begin here. -/
def saveKey (s : Scanner) : Outcome Scanner :=
  if s.mayStartKey then do
    let required := s.depth == 0 && s.indent == s.cursor.column
    let s ← s.dropKey
    let k : KeyCandidate :=
      { position := s.tokens.size, required := required, index := s.cursor.index,
        line := s.cursor.line, column := s.cursor.column }
    return { s with keys := (s.depth, k) :: s.keys }
  else .ok s

/-- Closes the collections that a column leaves. -/
def unwind (column : Int) : (indents : List Int) → Scanner → Scanner
  | [], s => s
  | outer :: rest, s =>
    if s.depth = 0 ∧ column < s.indent then
      unwind column rest ({ s with indent := outer, indents := rest }.push .blockEnd)
    else s

/-- Closes the collections that a column leaves. -/
def unwindTo (s : Scanner) (column : Int) : Scanner := unwind column s.indents s

/-- Opens a collection at a column if it lies further to the right; the flag says whether it does. -/
def addIndent (s : Scanner) (column : Nat) : Bool × Scanner :=
  if s.indent < column then
    (true, { s with indents := s.indent :: s.indents, indent := column })
  else (false, s)

/-- Passes over one character, which is the token `t`. -/
def take (s : Scanner) (t : Token) : Scanner :=
  { s with cursor := s.cursor.advance }.push t

/-- Ends all collections. -/
def finish (s : Scanner) : Outcome Scanner := do
  return { (← (s.unwindTo (-1)).dropKey) with mayStartKey := false }

/-- Reads a separator of documents. -/
def separator (s : Scanner) (t : Token) : Outcome Scanner := do
  let s ← s.finish
  return { s with cursor := Cursor.advanceBy 3 s.cursor }.push t

/-- Reads an opening bracket. -/
def openFlow (s : Scanner) (t : Token) : Outcome Scanner := do
  let s ← s.saveKey
  return { s with depth := s.depth + 1, mayStartKey := true }.take t

/-- Reads a closing bracket, which needs an opening one. -/
def closeFlow (s : Scanner) (t : Token) : Outcome Scanner := do
  let s ← s.dropKey
  if s.depth = 0 then malformed
  else return { s with depth := s.depth - 1, mayStartKey := false }.take t

/-- Reads a comma. -/
def flowEntry (s : Scanner) : Outcome Scanner := do
  return { (← s.dropKey) with mayStartKey := true }.take .flowEntry

/-- Opens a collection here if it lies further to the right. -/
def openBlock (s : Scanner) (t : Token) : Outcome Scanner :=
  if s.depth ≠ 0 then .ok s
  else if !s.mayStartKey then malformed
  else
    match s.addIndent s.cursor.column with
    | (true, s) => .ok (s.push t)
    | (false, s) => .ok s

/-- Reads the hyphen of an entry. -/
def blockEntry (s : Scanner) : Outcome Scanner := do
  let s ← s.openBlock .blockSequenceStart
  return { (← s.dropKey) with mayStartKey := true }.take .blockEntry

/-- Reads the question mark of a key. -/
def key (s : Scanner) : Outcome Scanner := do
  let s ← s.openBlock .blockMappingStart
  return { (← s.dropKey) with mayStartKey := s.depth == 0 }.take .key

/-- Reads a colon. It turns a candidate into a key. -/
def value (s : Scanner) : Outcome Scanner := do
  match s.keys.lookup s.depth with
  | some k =>
    let s := { s with keys := s.keys.filter fun (depth, _) => depth != s.depth }
    let s := s.insertAt k.position .key
    let s := if s.depth ≠ 0 then s else
      match s.addIndent k.column with
      | (true, s) => s.insertAt k.position .blockMappingStart
      | (false, s) => s
    return { s with mayStartKey := false }.take .value
  | none =>
    let s ← s.openBlock .blockMappingStart
    return { (← s.dropKey) with mayStartKey := s.depth == 0 }.take .value

/-- Reads a token that may be a key, or be in front of one. -/
def labelled (s : Scanner) (read : Cursor → Outcome (Token × Cursor)) : Outcome Scanner := do
  let s ← s.saveKey
  let (t, c) ← read s.cursor
  return { s with cursor := c, mayStartKey := false }.push t

/-- Reads a plain scalar. -/
def plain (s : Scanner) : Outcome Scanner := do
  let s ← s.saveKey
  let (text, newLine, c) :=
    Cursor.plainScalar (s.depth != 0) (s.indent + 1) (s.cursor.rest.length + 1) [] false s.cursor
  return { s with cursor := c, mayStartKey := newLine }.push (.scalar (String.ofList text) true)

/-- Reads a block scalar. -/
def block (s : Scanner) : Outcome Scanner := do
  let s ← s.dropKey
  let (text, c) ← s.cursor.blockScalar s.indent
  return { s with cursor := c, mayStartKey := true }.push (.scalar text false)

/-- Reads a scalar in quotes. -/
def quoted (s : Scanner) (q : Char) : Outcome Scanner :=
  s.labelled fun c => do
    let (text, c) ← Cursor.quotedScalar q (c.rest.length + 1) c.advance
    return (.scalar (String.ofList text) false, c)

/-- Whether a plain scalar can begin here. -/
def canStartPlain (s : Scanner) (x : Char) : Bool :=
  let next := s.cursor.peekAt 1
  !(endsWord (some x) || "-?:,[]\x7b\x7d#&*!|>'\"%@\x60".toList.contains x) ||
  !endsWord next && (x == '-' || s.depth == 0 && (x == '?' || x == ':'))

/-- Reads one token at the character `x`, which stands at the position of the scanner. -/
def token (s : Scanner) (x : Char) : Outcome Scanner :=
  let c := s.cursor
  let wordEnds := endsWord (c.peekAt 1)
  if x == '%' && c.column == 0 then do
    let s ← s.finish
    let (d, c) ← s.cursor.directive
    return { s with cursor := c }.push (.directive d)
  else if c.column == 0 && c.atSeparator then
    s.separator (if x == '-' then .documentStart else .documentEnd)
  else if x == '[' then s.openFlow .flowSequenceStart
  else if x == '\x7b' then s.openFlow .flowMappingStart
  else if x == ']' then s.closeFlow .flowSequenceEnd
  else if x == '\x7d' then s.closeFlow .flowMappingEnd
  else if x == ',' then s.flowEntry
  else if x == '-' && wordEnds then s.blockEntry
  else if x == '?' && (s.depth != 0 || wordEnds) then s.key
  else if x == ':' && (s.depth != 0 || wordEnds) then s.value
  else if x == '*' then
    s.labelled fun c => do let (name, c) ← c.anchorName; return (.alias name, c)
  else if x == '&' then
    s.labelled fun c => do let (name, c) ← c.anchorName; return (.anchor name, c)
  else if x == '!' then
    s.labelled fun c => do let (t, c) ← c.tag; return (.tag t, c)
  else if (x == '|' || x == '>') && s.depth == 0 then s.block
  else if x == '\'' || x == '"' then s.quoted x
  else if s.canStartPlain x then s.plain
  else malformed

/-- Reads all tokens. Each takes at least one character. -/
def run : (fuel : Nat) → Scanner → Outcome (Array Token)
  | 0, _ => malformed
  | fuel + 1, s => do
    let s ← (s.skipSpace (s.cursor.rest.length + 1)).dropStale
    let s := s.unwindTo s.cursor.column
    match s.cursor.peek with
    | none =>
      let s ← s.finish
      return s.tokens.push .streamEnd
    | some x => run fuel (← s.token x)

end Scanner

/-- The tokens of a text. A byte order mark at its start is passed over. -/
def tokens (text : List Char) : Outcome (List Token) := do
  if !text.all isAllowed then malformed
  let c : Cursor := { rest := text }
  let c := if c.isAt '\uFEFF' then c.advance else c
  return (← Scanner.run (text.length + 1) { cursor := c }).toList

end PromptTemplates.Yaml
