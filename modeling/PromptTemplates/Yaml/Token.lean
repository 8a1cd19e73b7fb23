import PromptTemplates.Yaml.Cursor
import PromptTemplates.Text.Utf8

/-!
# Tokens

The tokens of a header block and the scanning of those that carry text: anchors, tags, directives and
the five styles of scalars.
-/

namespace PromptTemplates.Yaml

/-- A tag as it is written: a handle, if it has one, and what follows. -/
structure WrittenTag where
  handle : Option String
  suffix : String
  deriving DecidableEq, Repr

/-- A directive: it sets the version, or declares a handle for tags, or is of no consequence. -/
inductive Directive where
  | version (major : Nat)
  | handle (name tagStart : String)
  | other
  deriving DecidableEq, Repr

/-- The tokens. A scalar is `plain` when it is written without quotes or indicators. -/
inductive Token where
  | streamEnd
  | directive (d : Directive)
  | documentStart
  | documentEnd
  | blockSequenceStart
  | blockMappingStart
  | blockEnd
  | flowSequenceStart
  | flowSequenceEnd
  | flowMappingStart
  | flowMappingEnd
  | flowEntry
  | blockEntry
  | key
  | value
  | alias (name : String)
  | anchor (name : String)
  | tag (t : WrittenTag)
  | scalar (text : String) (plain : Bool)
  deriving DecidableEq, Repr

/-- A character of an anchor, of the handle of a tag or of the name of a directive. -/
def isLabelChar (c : Char) : Bool := c.isAlphanum || c == '-' || c == '_'

/-- A character of the address of a tag. -/
def isUriChar (c : Char) : Bool :=
  c.isAlphanum || "-;/?:@&=+$,_.!~*'()[]%".toList.contains c

/-- The value of a hexadecimal digit. -/
def hexValue? (c : Char) : Option Nat :=
  if c.isDigit then some (c.toNat - 48)
  else if 'a' ≤ c ∧ c ≤ 'f' then some (c.toNat - 87)
  else if 'A' ≤ c ∧ c ≤ 'F' then some (c.toNat - 55)
  else none

/-- The number that the first `n` characters write, if they all are hexadecimal digits. -/
def hexDigits? (n : Nat) (cs : List Char) : Option Nat :=
  let digits := cs.take n
  if digits.length < n then none
  else digits.foldl (fun value c => do return (← value) * 16 + (← hexValue? c)) (some 0)

namespace Cursor

/-- Reads the name of an anchor or an alias after its sign. -/
def anchorName (c : Cursor) : Outcome (String × Cursor) := do
  let (name, c) := c.advance.run isLabelChar
  let ends := match c.peek with
    | none => true
    | some x => endsWord (some x) || "?:,]\x7d%@\x60".toList.contains x
  if name.isEmpty || !ends then malformed else return (String.ofList name, c)

/-- Reads octets that are written as a percent sign and two digits each. -/
def uriEscapes : (fuel : Nat) → Cursor → Outcome (List UInt8 × Cursor)
  | 0, c => .ok ([], c)
  | fuel + 1, c =>
    if c.isAt '%' then
      match hexDigits? 2 (c.rest.drop 1) with
      | some n => do
        let (octets, c) ← uriEscapes fuel (advanceBy 3 c)
        return (UInt8.ofNat n :: octets, c)
      | none => malformed
    else .ok ([], c)

/-- Reads the parts of the address of a tag. -/
def uriParts : (fuel : Nat) → Cursor → Outcome (List Char × Cursor)
  | 0, c => .ok ([], c)
  | fuel + 1, c =>
    if c.isAt '%' then do
      let (octets, c) ← uriEscapes fuel c
      match Text.Utf8.decode? octets with
      | some text => do
        let (more, c) ← uriParts fuel c
        return (text ++ more, c)
      | none => malformed
    else
      let (text, c) := c.run fun x => isUriChar x && x != '%'
      if text.isEmpty then .ok ([], c)
      else do
        let (more, c) ← uriParts fuel c
        return (text ++ more, c)

/-- Reads the address of a tag. -/
def uri (c : Cursor) : Outcome (String × Cursor) := do
  let (text, c) ← uriParts (c.rest.length + 1) c
  if text.isEmpty then malformed else return (String.ofList text, c)

/-- Reads the handle of a tag: an exclamation mark, or two of them around a name. -/
def handle (c : Cursor) : Outcome (String × Cursor) := do
  if !c.isAt '!' then malformed
  else
    let (name, after) := c.advance.run isLabelChar
    if c.peekAt 1 == some ' ' then return ("!", c.advance)
    else if after.isAt '!' then return ("!" ++ String.ofList name ++ "!", after.advance)
    else malformed

/-- Reads a tag. -/
def tag (c : Cursor) : Outcome (WrittenTag × Cursor) := do
  let (t, c) ←
    if c.peekAt 1 == some '<' then do
      let (suffix, c) ← (advanceBy 2 c).uri
      if c.isAt '>' then pure (⟨none, suffix⟩, c.advance) else malformed
    else if endsWord (c.peekAt 1) then pure (⟨none, "!"⟩, c.advance)
    else do
      let word := (c.rest.drop 1).takeWhile fun x => !(x == ' ' || isBreak x)
      let (handle, c) ← if word.contains '!' then c.handle else pure ("!", c.advance)
      let (suffix, c) ← c.uri
      pure (⟨some handle, suffix⟩, c)
  if c.isAt ' ' || endsLine c.peek then return (t, c) else malformed

/-- Skips the rest of a line that may hold a comment only. -/
def ignoredLine (c : Cursor) : Outcome Cursor :=
  let c := c.skip (· == ' ')
  let c := if c.isAt '#' then c.skip (fun x => !isBreak x) else c
  if endsLine c.peek then .ok ((c.lineBreak?.map (·.2)).getD c) else malformed

/-- Reads the number of a version: two numbers with a dot. -/
def version (c : Cursor) : Outcome (Nat × Cursor) := do
  let c := c.skip (· == ' ')
  let (major, c) := c.run Char.isDigit
  if major.isEmpty || !c.isAt '.' then malformed
  else
    let (minor, c) := c.advance.run Char.isDigit
    if minor.isEmpty || !(c.isAt ' ' || endsLine c.peek) then malformed
    else return (major.foldl (fun n d => n * 10 + (d.toNat - 48)) 0, c)

/-- Reads a directive. -/
def directive (c : Cursor) : Outcome (Directive × Cursor) := do
  let (name, c) := c.advance.run isLabelChar
  if name.isEmpty || !(c.isAt ' ' || endsLine c.peek) then malformed
  else if name == "YAML".toList then
    let (major, c) ← c.version
    return (.version major, ← c.ignoredLine)
  else if name == "TAG".toList then
    let (name, c) ← (c.skip (· == ' ')).handle
    if !c.isAt ' ' then malformed
    else
      let (address, c) ← (c.skip (· == ' ')).uri
      if c.isAt ' ' || endsLine c.peek then return (.handle name address, ← c.ignoredLine)
      else malformed
  else return (.other, ← (c.skip fun x => !isBreak x).ignoredLine)

/-- The characters that a letter after a backslash stands for. -/
def escapes : List (Char × Char) :=
  [('0', '\x00'), ('a', '\x07'), ('b', '\x08'), ('t', '\t'), ('\t', '\t'), ('n', '\n'),
   ('v', '\x0b'), ('f', '\x0c'), ('r', '\r'), ('e', '\x1b'), (' ', ' '), ('"', '"'), ('\\', '\\'),
   ('/', '/'), ('N', '\x85'), ('_', '\xa0'), ('L', '\u2028'), ('P', '\u2029')]

/-- How many hexadecimal digits follow a letter after a backslash. -/
def escapeLength? (c : Char) : Option Nat :=
  if c == 'x' then some 2 else if c == 'u' then some 4 else if c == 'U' then some 8 else none

/-- Reads the line ends after the first one inside quotes; blanks at the beginnings of lines are left
out. -/
def quotedBreaks : (fuel : Nat) → Cursor → Outcome (List Char × Cursor)
  | 0, c => .ok ([], c)
  | fuel + 1, c =>
    if c.atSeparator then malformed
    else
      let c := c.skip fun x => x == ' ' || x == '\t'
      match c.lineBreak? with
      | some (b, c) => do
        let (more, c) ← quotedBreaks fuel c
        return (b :: more, c)
      | none => .ok ([], c)

/-- Reads what a backslash inside double quotes begins. -/
def escape (c : Cursor) : Outcome (List Char × Cursor) :=
  match c.peek with
  | none => malformed
  | some x =>
    match escapes.lookup x, escapeLength? x with
    | some y, _ => .ok ([y], c.advance)
    | none, some n =>
      match hexDigits? n (c.rest.drop 1) with
      | some code =>
        if code < 0x110000 then .ok ([Char.ofNat code], advanceBy (n + 1) c)
        else .error (.valueless .badValue)
      | none => malformed
    | none, none =>
      match c.lineBreak? with
      | some (_, c) => quotedBreaks (c.rest.length + 1) c
      | none => malformed

/-- Reads the folded blanks inside quotes: blanks within a line stay, one line end becomes a blank. -/
def quotedSpaces (c : Cursor) : Outcome (List Char × Cursor) := do
  let (blanks, c) := c.run fun x => x == ' ' || x == '\t'
  match c.peek, c.lineBreak? with
  | none, _ => malformed
  | some _, some (b, c) => do
    let (breaks, c) ← quotedBreaks (c.rest.length + 1) c
    let first := if b != '\n' then [b] else if breaks.isEmpty then [' '] else []
    return (first ++ breaks, c)
  | some _, none => return (blanks, c)

/-- Reads a scalar inside quotes `q` up to the closing one. -/
def quotedScalar (q : Char) : (fuel : Nat) → Cursor → Outcome (List Char × Cursor)
  | 0, _ => malformed
  | fuel + 1, c => do
    match c.peek with
    | none => malformed
    | some x =>
      if x == q then
        if q == '\'' && c.peekAt 1 == some '\'' then
          let (more, c) ← quotedScalar q fuel (advanceBy 2 c)
          return ('\'' :: more, c)
        else return ([], c.advance)
      else
        let (text, c) ←
          if x == ' ' || x == '\t' || isBreak x then c.quotedSpaces
          else if q == '"' && x == '\\' then c.advance.escape
          else pure ([x], c.advance)
        let (more, c) ← quotedScalar q fuel c
        return (text ++ more, c)

/-- Reads the blanks inside a plain scalar. The flag says whether they lead to a new line. Nothing is
read before a separator line. -/
def plainSpaces (c : Cursor) : Option (List Char) × Bool × Cursor :=
  let (blanks, c) := c.run (· == ' ')
  match c.lineBreak? with
  | none => (some blanks, false, c)
  | some (b, c) =>
    if c.atSeparator then (none, true, c)
    else
      match breaks (c.rest.length + 1) c with
      | (none, c) => (none, true, c)
      | (some more, c) =>
        let first := if b != '\n' then [b] else if more.isEmpty then [' '] else []
        (some (first ++ more), true, c)
where
  breaks : (fuel : Nat) → Cursor → Option (List Char) × Cursor
    | 0, c => (some [], c)
    | fuel + 1, c =>
      if c.isAt ' ' then breaks fuel c.advance
      else
        match c.lineBreak? with
        | none => (some [], c)
        | some (b, c) =>
          if c.atSeparator then (none, c)
          else
            match breaks fuel c with
            | (some more, c) => (some (b :: more), c)
            | (none, c) => (none, c)

/-- How many characters of a plain scalar follow without a blank. -/
def plainLength (inFlow : Bool) : List Char → Nat
  | [] => 0
  | x :: rest =>
    let next := rest.head?
    let endsKey := endsWord next || (inFlow && next.any ",[]\x7b\x7d".toList.contains)
    if endsWord (some x) || (x == ':' && endsKey) || (inFlow && ",?[]\x7b\x7d".toList.contains x) then 0
    else plainLength inFlow rest + 1

/-- Reads a plain scalar whose lines after the first one have at least `indent` columns. The flag says
whether a new line was begun. -/
def plainScalar (inFlow : Bool) (indent : Int) : (fuel : Nat) → (spaces : List Char) →
    (newLine : Bool) → Cursor → List Char × Bool × Cursor
  | 0, _, newLine, c => ([], newLine, c)
  | fuel + 1, spaces, newLine, c =>
    let n := if c.isAt '#' then 0 else plainLength inFlow c.rest
    if n = 0 then ([], newLine, c)
    else
      let text := spaces ++ c.rest.take n
      match (advanceBy n c).plainSpaces with
      | (none, begun, c) => (text, begun, c)
      | (some more, begun, c) =>
        if more.isEmpty || c.isAt '#' || (!inFlow && (c.column : Int) < indent) then (text, begun, c)
        else
          let (others, begun, c) := plainScalar inFlow indent fuel more begun c
          (text ++ others, begun, c)

/-- What is kept of the line ends at the end of a block scalar: none, the first, or all. -/
inductive Chomping where
  | strip
  | clip
  | keep
  deriving DecidableEq, Repr

/-- Reads a sign for chomping. -/
def chomping (c : Cursor) : Option Chomping × Cursor :=
  if c.isAt '+' then (some .keep, c.advance)
  else if c.isAt '-' then (some .strip, c.advance)
  else (none, c)

/-- Reads a digit for indentation, which is not zero. -/
def increment (c : Cursor) : Outcome (Option Nat × Cursor) :=
  match c.peek with
  | some x =>
    if x == '0' then malformed
    else if x.isDigit then .ok (some (x.toNat - 48), c.advance)
    else .ok (none, c)
  | none => .ok (none, c)

/-- Reads the header of a block scalar after its sign. -/
def blockHeader (c : Cursor) : Outcome (Chomping × Option Nat × Cursor) := do
  let (first, c) := c.chomping
  let (step, c) ← c.increment
  let (second, c) := if first.isNone && step.isSome then c.chomping else (none, c)
  if !(c.isAt ' ' || endsLine c.peek) then malformed
  else return ((first <|> second).getD .clip, step, ← c.ignoredLine)

/-- Reads the empty lines before a block scalar whose indentation is to be found: the line ends and
the largest number of blanks. -/
def leadingBreaks : (fuel widest : Nat) → Cursor → List Char × Nat × Cursor
  | 0, widest, c => ([], widest, c)
  | fuel + 1, widest, c =>
    if c.isAt ' ' then
      let c := c.advance
      leadingBreaks fuel (max widest c.column) c
    else
      match c.lineBreak? with
      | some (b, c) =>
        let (more, widest, c) := leadingBreaks fuel widest c
        (b :: more, widest, c)
      | none => ([], widest, c)

/-- Skips blanks up to a column. -/
def skipToColumn (column : Nat) : (fuel : Nat) → Cursor → Cursor
  | 0, c => c
  | fuel + 1, c =>
    if c.column < column && c.isAt ' ' then skipToColumn column fuel c.advance else c

/-- Reads empty lines in a block scalar. -/
def blockBreaks (indent : Nat) : (fuel : Nat) → Cursor → List Char × Cursor
  | 0, c => ([], c)
  | fuel + 1, c =>
    let c := skipToColumn indent indent c
    match c.lineBreak? with
    | some (b, c) =>
      let (more, c) := blockBreaks indent fuel c
      (b :: more, c)
    | none => ([], c)

/-- The lines of a block scalar, up to the line ends after the last one. -/
def blockLines (folded : Bool) (indent : Nat) (chomp : Chomping) : (fuel : Nat) →
    (breaks : List Char) → Cursor → List Char × Cursor
  | 0, _, c => ([], c)
  | fuel + 1, breaks, c =>
    let isBlank (x : Option Char) := x == some ' ' || x == some '\t'
    let leadingText := !isBlank c.peek
    let (line, c) := c.run fun x => !isBreak x
    let (lineBreak, c) := match c.lineBreak? with
      | some (b, c) => ([b], c)
      | none => ([], c)
    let (after, c) := blockBreaks indent (c.rest.length + 1) c
    let (more, c) :=
      if c.column = indent && c.peek.isSome then
        let joint :=
          if folded && lineBreak == ['\n'] && leadingText && !isBlank c.peek then
            if after.isEmpty then [' '] else []
          else lineBreak
        let (more, c) := blockLines folded indent chomp fuel after c
        (joint ++ more, c)
      else
        ((if chomp = .strip then [] else lineBreak) ++ (if chomp = .keep then after else []), c)
    (breaks ++ line ++ more, c)

/-- Reads a block scalar inside a collection at column `indent`. -/
def blockScalar (indent : Int) (c : Cursor) : Outcome (String × Cursor) := do
  let folded := c.isAt '>'
  let (chomp, step, c) ← c.advance.blockHeader
  let least := max (indent + 1) 1
  let fuel := c.rest.length + 1
  let (breaks, column, c) := match step with
    | some n =>
      let column := (least + n - 1).toNat
      let (breaks, c) := blockBreaks column fuel c
      (breaks, column, c)
    | none =>
      let (breaks, widest, c) := leadingBreaks fuel 0 c
      (breaks, max least.toNat widest, c)
  if c.column = column && c.peek.isSome then
    let (text, c) := blockLines folded column chomp fuel breaks c
    return (String.ofList text, c)
  else return (String.ofList (if chomp = .keep then breaks else []), c)

end Cursor

end PromptTemplates.Yaml
