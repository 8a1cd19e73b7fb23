import PromptTemplates.Yaml.Resolve
import PromptTemplates.Yaml.Scanner

/-!
# Node trees

The tokens of a text make up a tree of tagged scalars, sequences and mappings. An anchor names a node,
and an alias stands for the node that was named before. A text holds one document at most.
-/

namespace PromptTemplates.Yaml

/-- A node. The tag says what kind of value it stands for. -/
inductive Node where
  | scalar (tag text : String)
  | sequence (tag : String) (items : List Node)
  | mapping (tag : String) (entries : List (Node × Node))
  deriving Repr, Inhabited

/-- What the parser keeps: the tokens ahead, the handles of tags, and the named nodes, which are absent
as long as they are being read. -/
structure ParseState where
  tokens : List Token
  handles : List (String × String) := []
  anchors : List (String × Option Node) := []

/-- A parser. -/
abbrev Parse := StateT ParseState Outcome

namespace Parse

/-- The token ahead. -/
def peek : Parse Token := do return (← get).tokens.head?.getD .streamEnd

/-- Passes over a token. -/
def drop : Parse Unit := modify fun s => { s with tokens := s.tokens.drop 1 }

/-- Refuses the text. -/
def fail {α : Type} : Parse α := throw .malformed

/-- Passes over a token if it is `t`. -/
def dropIf (t : Token) : Parse Bool := do
  if (← peek) == t then
    drop
    return true
  else return false

/-- What may stand in front of a node. -/
structure Properties where
  anchor : Option String := none
  tag : Option WrittenTag := none

/-- Reads an anchor and a tag, in either order. -/
def properties : Parse Properties := do
  match ← peek with
  | .anchor name =>
    drop
    match ← peek with
    | .tag t => drop; return { anchor := some name, tag := some t }
    | _ => return { anchor := some name }
  | .tag t =>
    drop
    match ← peek with
    | .anchor name => drop; return { anchor := some name, tag := some t }
    | _ => return { tag := some t }
  | _ => return {}

/-- The full tag. -/
def fullTag (t : WrittenTag) : Parse String := do
  match t.handle with
  | none => return t.suffix
  | some h =>
    match (← get).handles.lookup h with
    | some address => return address ++ t.suffix
    | none => fail

/-- Names a node. A name is given once. -/
def declare (anchor : Option String) : Parse Unit := do
  match anchor with
  | none => return ()
  | some name =>
    if ((← get).anchors.lookup name).isSome then fail
    else modify fun s => { s with anchors := (name, none) :: s.anchors }

/-- Records the node of a name. -/
def define (anchor : Option String) (node : Node) : Parse Node := do
  match anchor with
  | none => return node
  | some name =>
    modify fun s => { s with anchors := (name, some node) :: s.anchors }
    return node

/-- The node that an alias stands for. -/
def aliased (name : String) : Parse Node := do
  match (← get).anchors.lookup name with
  | some (some node) => return node
  | _ => fail

/-- The node where nothing is written. -/
def emptyNode : Node := .scalar (coreTag "null") ""

/-- The tag of a collection. -/
def collectionTag (tag : Option String) (kind : String) : String :=
  match tag with
  | none => coreTag kind
  | some t => if t = "!" then coreTag kind else t

/-- The tag of a scalar: one that is not given follows from the text if it is plain. -/
def scalarTag (tag : Option String) (text : String) (plain : Bool) : String :=
  match tag with
  | none => if plain then resolve text else coreTag "str"
  | some t => if t = "!" then resolve text else t

/-- Reads a node, or nothing if the token ahead is one of the given ones. -/
def unlessAt (stops : List Token) (node : Parse Node) : Parse Node := do
  if stops.contains (← peek) then return emptyNode else node

/-- Reads the entries of a block sequence, up to its end. -/
def blockItems (node : Parse Node) : (fuel : Nat) → Parse (List Node)
  | 0 => fail
  | fuel + 1 => do
    match ← peek with
    | .blockEntry =>
      drop
      let item ← unlessAt [.blockEntry, .blockEnd] node
      return item :: (← blockItems node fuel)
    | .blockEnd => drop; return []
    | _ => fail

/-- Reads the entries of a sequence that is not indented. -/
def flatItems (node : Parse Node) : (fuel : Nat) → Parse (List Node)
  | 0 => fail
  | fuel + 1 => do
    if ← dropIf .blockEntry then
      let item ← unlessAt [.blockEntry, .key, .value, .blockEnd] node
      return item :: (← flatItems node fuel)
    else return []

/-- Reads the entries of a block mapping, up to its end. -/
def blockEntries (node : Parse Node) : (fuel : Nat) → Parse (List (Node × Node))
  | 0 => fail
  | fuel + 1 => do
    match ← peek with
    | .key =>
      drop
      let key ← unlessAt [.key, .value, .blockEnd] node
      let value ← value
      return (key, value) :: (← blockEntries node fuel)
    | .value =>
      let value ← value
      return (emptyNode, value) :: (← blockEntries node fuel)
    | .blockEnd => drop; return []
    | _ => fail
where
  value : Parse Node := do
    if ← dropIf .value then unlessAt [.key, .value, .blockEnd] node else return emptyNode

/-- Passes over the comma between entries in brackets. -/
def comma (first : Bool) : Parse Unit := do
  if first then return () else if ← dropIf .flowEntry then return () else fail

/-- Reads a value in brackets, if a colon is ahead. -/
def flowValue (node : Parse Node) (close : Token) : Parse Node := do
  if ← dropIf .value then unlessAt [.flowEntry, close] node else return emptyNode

/-- Reads the entries of a sequence in brackets. An entry with a key is a mapping of its own. -/
def flowItems (node : Parse Node) : (fuel : Nat) → (first : Bool) → Parse (List Node)
  | 0, _ => fail
  | fuel + 1, first => do
    if ← dropIf .flowSequenceEnd then return []
    else
      comma first
      if ← dropIf .flowSequenceEnd then return []
      else if ← dropIf .key then
        let key ← unlessAt [.value, .flowEntry, .flowSequenceEnd] node
        let value ← flowValue node .flowSequenceEnd
        return .mapping (coreTag "map") [(key, value)] :: (← flowItems node fuel false)
      else
        let item ← node
        return item :: (← flowItems node fuel false)

/-- Reads the entries of a mapping in brackets. An entry without a key has no value. -/
def flowEntries (node : Parse Node) : (fuel : Nat) → (first : Bool) → Parse (List (Node × Node))
  | 0, _ => fail
  | fuel + 1, first => do
    if ← dropIf .flowMappingEnd then return []
    else
      comma first
      if ← dropIf .flowMappingEnd then return []
      else if ← dropIf .key then
        let key ← unlessAt [.value, .flowEntry, .flowMappingEnd] node
        let value ← flowValue node .flowMappingEnd
        return (key, value) :: (← flowEntries node fuel false)
      else
        let key ← node
        return (key, emptyNode) :: (← flowEntries node fuel false)

/-- Reads a node. `inBlock` says that indentation counts here, `flat` that a sequence need not be
indented. -/
def node : (fuel : Nat) → (inBlock flat : Bool) → Parse Node
  | 0, _, _ => fail
  | fuel + 1, inBlock, flat => do
    let inner (flat : Bool) : Parse Node := node fuel true flat
    let inFlow : Parse Node := node fuel false false
    match ← peek with
    | .alias name => drop; aliased name
    | _ =>
      let p ← properties
      let tag ← match p.tag with
        | none => pure none
        | some t => some <$> fullTag t
      declare p.anchor
      let found ← match ← peek, inBlock with
        | .blockEntry, _ =>
          if flat then pure (.sequence (collectionTag tag "seq") (← flatItems (inner false) fuel))
          else unwritten p tag
        | .scalar text plain, _ => drop; pure (.scalar (scalarTag tag text plain) text)
        | .flowSequenceStart, _ =>
          drop
          pure (.sequence (collectionTag tag "seq") (← flowItems inFlow fuel true))
        | .flowMappingStart, _ =>
          drop
          pure (.mapping (collectionTag tag "map") (← flowEntries inFlow fuel true))
        | .blockSequenceStart, true =>
          drop
          pure (.sequence (collectionTag tag "seq") (← blockItems (inner false) fuel))
        | .blockMappingStart, true =>
          drop
          pure (.mapping (collectionTag tag "map") (← blockEntries (inner true) fuel))
        | _, _ => unwritten p tag
      define p.anchor found
where
  unwritten (p : Properties) (tag : Option String) : Parse Node :=
    if p.anchor.isNone && tag.isNone then fail
    else pure (.scalar (scalarTag tag "" (tag.isNone || tag == some "!")) "")

/-- The handles that tags have without a declaration. -/
def standardHandles : List (String × String) := [("!", "!"), ("!!", "tag:yaml.org,2002:")]

/-- Reads directives. Each handle, and the version, is declared once. -/
def directives : (fuel : Nat) → (hasVersion : Bool) → Parse Unit
  | 0, _ => fail
  | fuel + 1, hasVersion => do
    match ← peek with
    | .directive (.version major) =>
      drop
      if hasVersion || major ≠ 1 then fail else directives fuel true
    | .directive (.handle name address) =>
      drop
      if ((← get).handles.lookup name).isSome then fail
      else
        modify fun s => { s with handles := (name, address) :: s.handles }
        directives fuel hasVersion
    | .directive .other => drop; directives fuel hasVersion
    | _ => modify fun s => { s with handles := s.handles ++ standardHandles }

/-- Passes over the ends of documents. -/
def documentEnds : (fuel : Nat) → Parse Unit
  | 0 => return ()
  | fuel + 1 => do if ← dropIf .documentEnd then documentEnds fuel else return ()

/-- Reads the document, if there is one. -/
def document (fuel : Nat) : Parse (Option Node) := do
  let starts := match ← peek with
    | .directive _ => true
    | .documentStart => true
    | .streamEnd => true
    | _ => false
  let root ←
    if starts then
      if (← peek) == .streamEnd then pure none
      else
        directives fuel false
        if ← dropIf .documentStart then
          match ← peek with
          | .directive _ | .documentStart | .documentEnd | .streamEnd => pure (some emptyNode)
          | _ => some <$> node fuel true false
        else fail
    else
      modify fun s => { s with handles := standardHandles }
      some <$> node fuel true false
  documentEnds fuel
  if (← peek) == .streamEnd then return root else fail

end Parse

/-- The tree of a text, if it holds a document. -/
def Node.ofText? (text : List Char) : Outcome (Option Node) := do
  let tokens ← tokens text
  (Parse.document (2 * tokens.length + 2)).run' { tokens := tokens }

end PromptTemplates.Yaml
