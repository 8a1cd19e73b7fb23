import PromptTemplates.Number.Shortest
import PromptTemplates.Calendar.Moment
import PromptTemplates.Template.Tree

/-!
# Values

The values that parameters hold, that helpers take and return, and that configuration and front
matter contain. Besides plain data there are the values that only rendering makes: scopes, the two
branches of a block, and the surroundings that a helper may ask for.
-/

namespace PromptTemplates

/-- The time zone that a setting asks for: the local one, a named one, or something that cannot be
the name of a zone. -/
inductive ZoneChoice where
  | here
  | named (name : String)
  | illTyped
  deriving DecidableEq, Repr

/-- What moments are formatted with: a zone, or the local clock. -/
structure Formatter where
  zone : Option Zone
  deriving Repr

/-- What a render call offers to its helpers: the base of root-relative addresses, the zone setting,
a formatter that takes precedence over it, and the current time. -/
structure Surroundings where
  baseUrl : Option String
  timezone : ZoneChoice
  formatter : Option Formatter
  now : Calendar.Moment
  deriving Repr

/-- A value. A mapping keeps its entries in the order of insertion. `safe` is text that is already
escaped, in parts; `record` is an object with attributes; `element` is markup. `scope` is what a
template is rendered in: the value that names refer to, the enclosing scope, the outermost value, and
the loop data, which are null outside a loop. `block` holds the branches of a block for its helper,
`helperContext` the surroundings, if there are any, and the loop data of a helper call, and `method`
an operation of `owner` that was reached by its name. -/
inductive Value where
  | null
  | bool (b : Bool)
  | int (n : Int)
  | float (x : Number.Binary64)
  | str (s : String)
  | bytes (octets : List UInt8)
  | date (d : Calendar.Date)
  | moment (m : Calendar.Moment)
  | time (t : Calendar.TimeOfDay)
  | list (items : List Value)
  | tuple (items : List Value)
  | map (entries : List (Value × Value))
  | safe (parts : List String)
  | record (fields : List (String × Value))
  | element (tag : String) (attributes : List (Value × Value)) (content : Value)
  | scope (context parent root index key first last : Value)
  | block (main other : Option (List Node)) (root : Value)
  | helperContext (surroundings : Option Surroundings) (data : List (String × Value))
  | method (owner : Value) (name : String)
  deriving Repr

instance : Inhabited Value := ⟨.null⟩

namespace Value

/-- The name of the value's type, as messages give it. -/
def typeName : Value → String
  | .null => "NoneType"
  | .bool _ => "bool"
  | .int _ => "int"
  | .float _ => "float"
  | .str _ => "str"
  | .bytes _ => "bytes"
  | .date _ => "date"
  | .moment _ => "datetime"
  | .time _ => "time"
  | .list _ => "list"
  | .tuple _ => "tuple"
  | .map _ => "dict"
  | .safe _ => "strlist"
  | .record _ => "SimpleNamespace"
  | .element .. => "Element"
  | .scope .. => "Scope"
  | .block .. => "dict"
  | .helperContext .. => "HelperContext"
  | .method .. => "builtin_function_or_method"

/-- Whether the value counts as true. Null, false, zero and everything empty do not. -/
def isTruthy : Value → Bool
  | .null => false
  | .bool b => b
  | .int n => n != 0
  | .float x => !x.isZero
  | .str s => !s.isEmpty
  | .bytes octets => !octets.isEmpty
  | .list items => !items.isEmpty
  | .tuple items => !items.isEmpty
  | .map entries => !entries.isEmpty
  | .safe parts => !parts.isEmpty
  | .scope context _ _ _ _ _ _ => context.isTruthy
  | _ => true

/-- Whether the value is null. -/
def isNull : Value → Bool
  | .null => true
  | _ => false

/-- The text of a string value. -/
def string? : Value → Option String
  | .str s => some s
  | _ => none

/-- The keys that a block has when it is taken as a mapping. -/
def blockKeys : List String := ["fn", "helpers", "partials", "root", "inverse"]

/-- The constant that a literal stands for. -/
def ofLiteral : Literal → Value
  | .text s => .str s
  | .int n => .int n
  | .bool b => .bool b
  | .null => .null

/-- A value from an optional one. -/
def ofOption : Option Value → Value
  | some v => v
  | none => .null

end Value

end PromptTemplates
