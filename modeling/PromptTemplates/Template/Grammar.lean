import PromptTemplates.Text.Reader
import PromptTemplates.Template.Decode
import PromptTemplates.Text.Blank
import PromptTemplates.Text.Word

/-!
# The grammar of templates

Text runs up to two opening braces. There, a block, a comment, a reference, an unescaped reference, an
inclusion and a raw block are tried in this order. A text that cannot be read to its end is malformed,
unless reading stopped with the end in sight: then what could not be read is left out.
-/

namespace PromptTemplates.Grammar

open Text Reader

/-- The two braces that open a tag. -/
def opening : Reader Unit := token ['{', '{']

/-- The two braces that close a tag. -/
def closing : Reader Unit := token ['}', '}']

/-- Any blanks. -/
def blanks : Reader Unit := do let _ ← run isBlank

/-- The blanks between arguments. -/
def gap : Reader Unit := do
  let _ ← run1 fun c => c == ' ' || c == '\t' || c == '\r' || c == '\n'

/-- The rest of an `else` tag. -/
def elseTag : Reader Unit := do
  blanks
  token ['^'] <|> token ['e', 'l', 's', 'e']
  blanks
  closing

/-- The characters of a name. -/
def isNameChar (c : Char) : Bool := isAlphanumeric c || c == '_' || c == '-' || c == '@'

/-- A name, in square brackets or not. -/
def name : Reader String := do
  Reader.absent elseTag
  Reader.option '['
  let cs ← run1 isNameChar
  Reader.option ']'
  return String.ofList cs

/-- The keyword of an argument: at least two characters, a letter or an underscore first. -/
def keyword : Reader String := do
  Reader.absent elseTag
  Reader.option '['
  let c ← one fun c => isLetter c || c == '_'
  let cs ← run1 isWordChar
  Reader.option ']'
  return String.ofList (c :: cs)

/-- Anything in square brackets. -/
def bracketedName : Reader String := do
  token ['[']
  let cs ← run1 (· != ']')
  token [']']
  return String.ofList cs

/-- The segment that leads to the enclosing scope. -/
def parentSegment : String := "@_parent"

/-- One segment of a path. A separator gives the empty one. -/
def segment : Reader String :=
  firstOf [bracketedName,
    (do token ['@', '.', '.', '/']; return "@" ++ parentSegment),
    name,
    (do token ['/']; return ""),
    (do token ['.', '.', '/']; return parentSegment),
    (do token ['.']; return "")]

/-- A name that stays where the path is becomes the empty segment. -/
def plainSegment (s : String) : String := if s = "/" ∨ s = "." ∨ s = "this" then "" else s

/-- The segments of a path, with its names as they are written: at least one, and no slash in
front. -/
def segments : Reader (List String) := fun s =>
  (do
    Reader.absent (token ['/'])
    let found ← many segment s.length
    if found.isEmpty then fail else return found : Reader (List String)) s

/-- A path. -/
def path : Reader TemplatePath := do return (← segments).map plainSegment

/-- The characters of a text in quotes `q`. A backslash escapes either quote and nothing else. -/
def quotedChars (q : Char) : Reader (List Char)
  | [] => ⟨some ([], []), true⟩
  | [c] => if c = q then ⟨some ([], [c]), false⟩ else ⟨some ([c], []), true⟩
  | c :: d :: rest =>
    if c = '\\' ∧ (d = '"' ∨ d = '\'') then
      let more := quotedChars q rest
      ⟨more.result.map fun (cs, left) => (d :: cs, left), more.sawEnd⟩
    else if c = q then ⟨some ([], c :: d :: rest), false⟩
    else
      let more := quotedChars q (d :: rest)
      ⟨more.result.map fun (cs, left) => (c :: cs, left), more.sawEnd⟩

/-- A text in quotes `q`. -/
def quotedText (q : Char) : Reader Literal := do
  token [q]
  let cs ← quotedChars q
  token [q]
  return .text (String.ofList cs)

/-- The number that decimal digits write. -/
def digitsValue (cs : List Char) : Nat :=
  cs.foldl (fun n c => n * 10 + (decimalValue? c).getD 0) 0

/-- An integer. -/
def integer : Reader Literal := fun s =>
  let negative := s.head? == some '-'
  (do
    Reader.option '-'
    let cs ← run1 fun c => (decimalValue? c).isSome
    return .int (if negative then -(digitsValue cs : Int) else digitsValue cs) : Reader Literal) s

/-- A constant with a name. -/
def constant (word : String) (l : Literal) : Reader Literal := do
  token word.toList
  return l

/-- A constant. -/
def literal : Reader Argument := do
  return .literal (← firstOf [quotedText '"', quotedText '\'', integer, constant "false" (.bool false),
    constant "true" (.bool true), constant "null" .null, constant "undefined" .null])

/-- The call of a helper, with `inner` for its arguments. The name of the helper is written like a
path, and its segments are joined. -/
def call (inner : Reader Arguments) : Reader Argument := do
  token ['(']
  blanks
  let helper ← segments
  let arguments ← inner
  blanks
  token [')']
  return .call (String.join helper) arguments

/-- The path of a value. -/
def pathArgument : Reader Argument := do return .path (← path)

/-- An argument with a keyword. -/
def keywordArgument (inner : Reader Arguments) : Reader (Option String × Argument) := do
  let key ← keyword
  token ['=']
  let value ← firstOf [literal, pathArgument, call inner]
  return (some key, value)

/-- An argument without a keyword. -/
def plainArgument (inner : Reader Arguments) : Reader (Option String × Argument) := do
  return (none, ← firstOf [literal, pathArgument, call inner])

/-- Arguments, with a limit on their number and nesting together. -/
def argumentsUpTo : (fuel : Nat) → Reader Arguments
  | 0 => succeed []
  | fuel + 1 =>
    Reader.orElse (do
      gap
      let a ← Reader.orElse (keywordArgument (argumentsUpTo fuel)) (plainArgument (argumentsUpTo fuel))
      return a :: (← argumentsUpTo fuel)) (do look; return [])

/-- Arguments. Each takes at least one character, so the length of the text is limit enough. -/
def arguments : Reader Arguments := fun s => argumentsUpTo (s.length + 1) s

/-- The inside of a reference and the braces after it. -/
def inside : Reader (TemplatePath × Arguments) := do
  blanks
  let p ← path
  let a ← arguments
  blanks
  closing
  return (p, a)

/-- The inside of a tag with a name, and the braces after it. -/
def namedInside : Reader (String × Arguments) := do
  blanks
  let n ← name
  let a ← arguments
  blanks
  closing
  return (n, a)

/-- Turns each CR LF among the blanks and line ends at the front of a text into LF. -/
def unifyLeading : List Char → List Char
  | '\r' :: '\n' :: rest => '\n' :: unifyLeading rest
  | c :: rest => if c == ' ' || c == '\t' || c == '\n' then c :: unifyLeading rest else c :: rest
  | [] => []

/-- Text up to the next tag. -/
def plainText : Reader Node := do
  let cs ← upTo opening
  if cs.isEmpty then fail else return .text (String.ofList (unifyLeading cs))

/-- A comment. -/
def comment : Reader Node := do
  token ['{', '{', '!']
  let _ ← upTo closing
  closing
  return .comment

/-- A reference whose value is escaped. -/
def reference : Reader Node := do
  opening
  let (p, a) ← inside
  return .reference true p a

/-- A reference whose value is not escaped. -/
def rawReference : Reader Node :=
  Reader.orElse (do
    token ['{', '{', '{']
    let (p, a) ← inside
    token ['}']
    return .reference false p a) (do
    token ['{', '{', '&']
    let (p, a) ← inside
    return .reference false p a)

/-- What ends the name of an included template. -/
def includedNameEnd : Reader Unit :=
  closing <|> (do let _ ← one fun c => " \t\r\n]\"".toList.contains c)

/-- The name of an included template, in a bracket or a double quote or not. -/
def includedName : Reader Argument := do
  Reader.absent elseTag
  Reader.optionOf ['[', '"']
  let cs ← upTo includedNameEnd
  if cs.isEmpty then fail
  Reader.optionOf [']', '"']
  return .literal (.text (String.ofList cs))

/-- An inclusion. The name of the template is written out or called for. -/
def inclusion : Reader Node := do
  token ['{', '{', '>']
  blanks
  let template ← call arguments <|> includedName
  let a ← arguments
  blanks
  closing
  return .include template a

/-- The tag that closes a block. -/
def closingTag (expected : String) : Reader Unit := do
  token ['{', '{', '/']
  let found ← name
  if found = expected then closing else fail

/-- The tag that closes a raw block. -/
def rawClosingTag (expected : String) : Reader Unit := do
  opening
  closingTag expected
  closing

/-- A block whose text is taken as it is. -/
def rawBlock : Reader Node := do
  token ['{', '{', '{', '{']
  let (n, _) ← namedInside
  closing
  let cs ← upTo (rawClosingTag n)
  rawClosingTag n
  return .text (String.ofList cs)

/-- The branch after an `else` tag, if there is one. -/
def otherwise (inner : Reader (List Node)) : Reader (Option (List Node)) :=
  Reader.orElse (do
    opening
    elseTag
    return some (← inner)) (do look; return none)

/-- A block that begins with the sign `sign`, with `inner` for its branches. -/
def block (inner : Reader (List Node)) (sign : Char) : Reader Node := do
  token ['{', '{', sign]
  let (n, a) ← namedInside
  let body ← inner
  let other ← otherwise inner
  closingTag n
  return .block (sign == '^') n a body other

/-- One node, with `inner` for the branches of blocks. -/
def node (inner : Reader (List Node)) : Reader Node :=
  firstOf [plainText, block inner '#', block inner '^', comment, reference, rawReference, inclusion,
    rawBlock]

/-- Nodes, with a limit on their number and nesting together. -/
def nodesUpTo : (fuel : Nat) → Reader (List Node)
  | 0 => succeed []
  | fuel + 1 =>
    Reader.orElse (do
      let n ← node (nodesUpTo fuel)
      return n :: (← nodesUpTo fuel)) (do look; return [])

/-- The nodes of a template. What cannot be read is left out if the end was seen; otherwise, or if a
node is not sound, the template is malformed. -/
def parse? (source : List Char) : Option (List Node) :=
  match nodesUpTo (source.length + 1) source with
  | ⟨some (nodes, rest), sawEnd⟩ =>
    if rest.isEmpty || sawEnd then decodeNodes? nodes else none
  | ⟨none, _⟩ => none

end PromptTemplates.Grammar
