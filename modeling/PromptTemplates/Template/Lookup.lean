import PromptTemplates.Markup
import PromptTemplates.Number.Text
import PromptTemplates.Value.Key
import PromptTemplates.Journal

/-!
# Looking up names

A path leads from the scope of a template through its segments to a value. A mapping is asked for the
entry of that name and then, like every other value, for an attribute of that name. A list is asked by
position. What does not exist is null, and null has nothing in it.
-/

namespace PromptTemplates

namespace Value

/-- The operations of a text that can be reached by name. -/
def textMethods : List String :=
  ["capitalize", "casefold", "center", "count", "encode", "endswith", "expandtabs", "find", "format",
   "format_map", "index", "isalnum", "isalpha", "isascii", "isdecimal", "isdigit", "isidentifier",
   "islower", "isnumeric", "isprintable", "isspace", "istitle", "isupper", "join", "ljust", "lower",
   "lstrip", "maketrans", "partition", "removeprefix", "removesuffix", "replace", "rfind", "rindex",
   "rjust", "rpartition", "rsplit", "rstrip", "split", "splitlines", "startswith", "strip",
   "swapcase", "title", "translate", "upper", "zfill"]

/-- The operations of a list. -/
def listMethods : List String :=
  ["append", "clear", "copy", "count", "extend", "index", "insert", "pop", "remove", "reverse", "sort"]

/-- The operations of a mapping. -/
def mapMethods : List String :=
  ["clear", "copy", "fromkeys", "get", "items", "keys", "pop", "popitem", "setdefault", "update",
   "values"]

/-- The operations of a date, and the further ones of a moment. -/
def dateMethods : List String :=
  ["ctime", "fromisocalendar", "fromisoformat", "fromordinal", "fromtimestamp", "isocalendar",
   "isoformat", "isoweekday", "replace", "strftime", "timetuple", "today", "toordinal", "weekday"]

/-- The operations of a moment that a date does not have. -/
def momentMethods : List String :=
  ["astimezone", "combine", "date", "dst", "now", "strptime", "time", "timestamp", "timetz", "tzname",
   "utcfromtimestamp", "utcnow", "utcoffset", "utctimetuple"]

/-- The operations of a time of day. -/
def timeMethods : List String :=
  ["dst", "fromisoformat", "isoformat", "replace", "strftime", "tzname", "utcoffset"]

/-- The operation of that name, if it is among the given ones. -/
def method? (v : Value) (names : List String) (name : String) : Option Value :=
  if names.contains name then some (.method v name) else none

/-- The year, month or day. -/
def datePart? (d : Calendar.YearMonthDay) : String → Option Value
  | "year" => some (.int d.year)
  | "month" => some (.int d.month)
  | "day" => some (.int d.day)
  | _ => none

/-- The hour, minute, second or microsecond. -/
def clockPart? (hour minute second microsecond : Nat) : String → Option Value
  | "hour" => some (.int hour)
  | "minute" => some (.int minute)
  | "second" => some (.int second)
  | "microsecond" => some (.int microsecond)
  | _ => none

/-- The attribute of a value. -/
def attribute? (v : Value) (name : String) : Option Value :=
  match v with
  | .str _ => v.method? textMethods name
  | .list _ => v.method? listMethods name
  | .safe _ => v.method? ("grow" :: listMethods) name
  | .tuple _ => v.method? ["count", "index"] name
  | .map _ => v.method? mapMethods name
  | .block .. => v.method? mapMethods name
  | .record fields => Entries.get? name fields
  | .element tag attributes content =>
    match name with
    | "tag" => some (.str tag)
    | "attributes" => some (.map attributes)
    | "content" => some content
    | name => v.method? ["render", "from_tuple"] name
  | .date d => datePart? d.yearMonthDay name <|> v.method? dateMethods name
  | .moment m =>
    clockPart? m.hour m.minute m.second m.microsecond name <|> datePart? m.yearMonthDay name <|>
      v.method? (dateMethods ++ momentMethods) name
  | .time t =>
    clockPart? t.hour t.minute t.second t.microsecond name <|> v.method? timeMethods name
  | .bool b => wholeNumber (if b then 1 else 0)
  | .int n => wholeNumber n
  | .float x =>
    match name with
    | "real" => some (.float x)
    | "imag" => some (.float (.zero false))
    | name => v.method? ["as_integer_ratio", "conjugate", "fromhex", "hex", "is_integer"] name
  | _ => none
where
  wholeNumber (n : Int) : Option Value :=
    match name with
    | "real" => some (.int n)
    | "numerator" => some (.int n)
    | "imag" => some (.int 0)
    | "denominator" => some (.int 1)
    | name => v.method? ["as_integer_ratio", "bit_count", "bit_length", "conjugate", "from_bytes",
        "to_bytes"] name

/-- The entry of that name, if the value is a mapping, and otherwise the attribute. -/
def pick (v : Value) (name : String) : Value :=
  let entry : Option Value := match v with
    | .map entries => entry? name entries
    | _ => none
  ofOption (entry <|> v.attribute? name)

/-- A value that is set, in the place of one that may be null. -/
def orElse (v other : Value) : Value := if v.isNull then other else v

/-- Looks a name up in a scope, or in any other value. -/
def member (v : Value) (name : String) : Value :=
  match v with
  | .scope context parent root index key first last =>
    match name with
    | "@root" => root
    | "@_parent" => parent
    | "@index" => index.orElse (context.pick name)
    | "@key" => key.orElse (context.pick name)
    | "@first" => first.orElse (context.pick name)
    | "@last" => last.orElse (context.pick name)
    | "this" => context
    | name => context.pick name
  | v => v.pick name

/-- The member of a list at a position; a negative position counts from the end. -/
def nth? {α : Type} (items : List α) (i : Int) : Option α :=
  let i := if i < 0 then i + items.length else i
  if i < 0 then none else items[i.toNat]?

end Value

namespace TemplatePath

/-- Looks a position up in the items of a list. -/
def inItems (items : List Value) (segment : String) : Except Fault Value :=
  match Number.integer? segment.toList with
  | none => .error (.plain .badValue)
  | some i =>
    match Value.nth? items i with
    | some v => .ok v
    | none => .error (.plain .badIndex)

/-- One step along a path. -/
def step (v : Value) (segment : String) : Except Fault Value :=
  match v with
  | .null => .ok .null
  | .list items => if segment.isEmpty then .ok v else inItems items segment
  | .tuple items => if segment.isEmpty then .ok v else inItems items segment
  | v => if segment.isEmpty then .ok v else .ok (v.member segment)

/-- The items of a list. -/
def items? : Value → Option (List Value)
  | .list items => some items
  | .tuple items => some items
  | _ => none

/-- Follows a path. A segment with two leading signs leads to the enclosing scope and asks the next
segment for loop data, which `data` says. The length of a list ends the path. -/
def follow (data : Bool) : (v : Value) → TemplatePath → Except Fault Value
  | v, [] => .ok v
  | v, segment :: rest => do
    let segment := if data then "@" ++ segment else segment
    match if segment = "length" then items? v else none with
    | some items => return .int items.length
    | none =>
      if segment.startsWith "@@" then
        follow true (← step v (String.ofList (segment.toList.drop 1))) rest
      else follow false (← step v segment) rest

/-- The value that a path leads to. The empty path of a scope is the value of the scope. -/
def resolve (scope : Value) (path : TemplatePath) : Except Fault Value :=
  match path, scope with
  | [""], .scope context _ _ _ _ _ _ => .ok context
  | path, scope => follow false scope path

end TemplatePath

end PromptTemplates
