import PromptTemplates.Value.Key
import PromptTemplates.Yaml.Node
import PromptTemplates.Yaml.Scalar

/-!
# The values of trees

A tree stands for a value. The entries of a mapping come after those that it merges, and of two entries
with one key the later one counts. Keys have to be values that cannot change.
-/

namespace PromptTemplates.Yaml

namespace Node

/-- The tag of a node. -/
def tag : Node → String
  | .scalar tag _ => tag
  | .sequence tag _ => tag
  | .mapping tag _ => tag

/-- The text of a node that stands for a scalar: its own, or that of the value sign in it. -/
def text? : Node → Option String
  | .scalar _ text => some text
  | .sequence .. => none
  | .mapping _ entries => ofEntries entries
where
  ofEntries : List (Node × Node) → Option String
    | [] => none
    | (key, value) :: rest =>
      if key.tag = coreTag "value" then value.text? else ofEntries rest

end Node

/-- The mapping of entries in order. -/
def mapping (entries : List (Value × Value)) : Outcome Value :=
  if entries.all fun entry => entry.1.canBeKey then .ok (.map (Entries.ofPairs entries)) else malformed

mutual

/-- The value of a tree. -/
def Node.toValue : Node → Outcome Value
  | .scalar tag text => scalarValue tag text
  | .sequence tag items =>
    if tag = coreTag "seq" then .list <$> valuesOf items
    else if tag = coreTag "omap" ∨ tag = coreTag "pairs" then .list <$> pairsOf items
    else malformed
  | .mapping tag entries =>
    if tag = coreTag "map" then do
      let (merged, own) ← entriesOf entries
      mapping (merged ++ own)
    else if scalarTags.contains tag then
      match (Node.mapping tag entries).text? with
      | some text => scalarValue tag text
      | none => malformed
    else malformed

/-- The values of some trees. -/
def valuesOf : List Node → Outcome (List Value)
  | [] => .ok []
  | item :: rest => do
    let value ← item.toValue
    return value :: (← valuesOf rest)

/-- The pairs that mappings of one entry stand for. -/
def pairsOf : List Node → Outcome (List Value)
  | [] => .ok []
  | .mapping _ [(key, value)] :: rest => do
    let key ← key.toValue
    let value ← value.toValue
    return .tuple [key, value] :: (← pairsOf rest)
  | _ :: _ => malformed

/-- The entries of a mapping: those that it merges, and its own. -/
def entriesOf : List (Node × Node) → Outcome (List (Value × Value) × List (Value × Value))
  | [] => .ok ([], [])
  | (key, value) :: rest =>
    if key.tag = coreTag "merge" then do
      let found ← mergedOf value
      let (merged, own) ← entriesOf rest
      return (found ++ merged, own)
    else do
      let name ←
        if key.tag = coreTag "value" then
          match key.text? with
          | some text => pure (.str text)
          | none => malformed
        else key.toValue
      let value ← value.toValue
      let (merged, own) ← entriesOf rest
      return (merged, (name, value) :: own)

/-- The entries that a mapping merges when it refers to this tree. -/
def mergedOf : Node → Outcome (List (Value × Value))
  | .mapping _ entries => do
    let (merged, own) ← entriesOf entries
    return merged ++ own
  | .sequence _ items => mergedOfAll items
  | .scalar .. => malformed

/-- The entries of several mappings, the last one first. -/
def mergedOfAll : List Node → Outcome (List (Value × Value))
  | [] => .ok []
  | .mapping _ entries :: rest => do
    let (merged, own) ← entriesOf entries
    return (← mergedOfAll rest) ++ merged ++ own
  | _ :: _ => malformed

end

/-- The value of a text. A text without a document has the value null. -/
def read (text : List Char) : Outcome Value := do
  match ← Node.ofText? text with
  | some node => node.toValue
  | none => return .null

end PromptTemplates.Yaml
