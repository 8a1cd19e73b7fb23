import PromptTemplates.Markup
import PromptTemplates.Number.Shortest
import PromptTemplates.Value.Key

/-!
# JSON trees

A JSON tree, and how values correspond to it. An object is the list of its members as they are
written. As a value it has each key once: of two members with one key the later one counts.
-/

namespace PromptTemplates

/-- A JSON tree. -/
inductive Json where
  | null
  | bool (b : Bool)
  | int (n : Int)
  | float (x : Number.Binary64)
  | str (s : String)
  | arr (items : List Json)
  | obj (members : List (String × Json))
  deriving Repr, Inhabited

namespace Json

mutual

/-- The value of a tree. -/
def toValue : Json → Value
  | .null => .null
  | .bool b => .bool b
  | .int n => .int n
  | .float x => .float x
  | .str s => .str s
  | .arr items => .list (toValues items)
  | .obj members => .map (Entries.ofPairs (toEntries members))

/-- The values of trees. -/
def toValues : List Json → List Value
  | [] => []
  | item :: rest => item.toValue :: toValues rest

/-- The entries of members. -/
def toEntries : List (String × Json) → List (Value × Value)
  | [] => []
  | (key, item) :: rest => (.str key, item.toValue) :: toEntries rest

end

/-- The text of a floating-point number. -/
def floatText (x : Number.Binary64) : String :=
  match x with
  | .nan => "NaN"
  | .infinite negative => if negative then "-Infinity" else "Infinity"
  | x => x.text

/-- The key of a member for a key of a mapping. Dates and other values are no keys. -/
def key? : Value → Option String
  | .str s => some s
  | .null => some "null"
  | .bool b => some (if b then "true" else "false")
  | .int n => some (toString n)
  | .float x => some (floatText x)
  | _ => none

mutual

/-- The tree of a value, if its keys have one. What JSON lacks becomes its text. -/
def ofValue? : Value → Option Json
  | .null => some .null
  | .bool b => some (.bool b)
  | .int n => some (.int n)
  | .float x => some (.float x)
  | .str s => some (.str s)
  | .list items => (ofValues? items).map .arr
  | .tuple items => (ofValues? items).map .arr
  | .map entries => (ofEntries? entries).map .obj
  | .safe parts => some (.arr (parts.map .str))
  | v => some (.str v.text)

/-- The trees of values. -/
def ofValues? : List Value → Option (List Json)
  | [] => some []
  | v :: rest => do
    let item ← ofValue? v
    return item :: (← ofValues? rest)

/-- The members of entries. -/
def ofEntries? : List (Value × Value) → Option (List (String × Json))
  | [] => some []
  | (k, v) :: rest => do
    let name ← key? k
    let item ← ofValue? v
    return (name, item) :: (← ofEntries? rest)

end

end Json

end PromptTemplates
