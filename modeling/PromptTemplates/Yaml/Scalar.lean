import PromptTemplates.Calendar.Moment
import PromptTemplates.Text.Base64
import PromptTemplates.Value.Basic
import PromptTemplates.Yaml.Cursor
import PromptTemplates.Yaml.Resolve

/-!
# The values of scalars

What the text of a scalar stands for under its tag. A tag can be written where the text does not fit
it; then the scalar has no value, and the kind of the fault tells why.
-/

namespace PromptTemplates.Yaml

open Number Calendar

/-- A scalar without a value. -/
def valueless {α : Type} (kind : FaultKind) : Outcome α := .error (.valueless kind)

/-- A result that may be missing, and the fault that says so. -/
def orElse {α : Type} (kind : FaultKind) : Option α → Outcome α
  | some a => .ok a
  | none => valueless kind

/-- The truth value of a word in any case. -/
def truthOf (text : String) : Outcome Bool :=
  let word := String.ofList (text.toList.map Char.toLower)
  orElse .missingKey (truthWords.lookup word)

/-- Takes all underscores out. -/
def ungrouped (text : String) : List Char := text.toList.filter (· != '_')

/-- The integer that a signed text writes in a base, with or without its mark. -/
def integerInBase? (base : Nat) (mark : Char) (s : List Char) : Option Int :=
  let (negative, digits) := splitSign (Text.trimChars s)
  let digits := match digits with
    | '0' :: c :: rest => if c.toLower = mark ∧ !rest.isEmpty then rest else digits
    | digits => digits
  (digitsInBase? base digits).map fun n => if negative then -(n : Int) else n

/-- The sum of parts in base sixty, of which the first one has the highest place. -/
def sixtieths (parts : List Int) : Int := parts.foldl (fun n part => n * 60 + part) 0

/-- The integer that digits without a sign write. -/
def unsignedInteger (s : List Char) : Outcome Int :=
  match s with
  | [] => valueless .badIndex
  | ['0'] => .ok 0
  | '0' :: 'b' :: digits => orElse .badValue (integerInBase? 2 'b' digits)
  | '0' :: 'x' :: digits => orElse .badValue (integerInBase? 16 'x' digits)
  | '0' :: _ => orElse .badValue (integerInBase? 8 'o' s)
  | s => orElse .badValue do return sixtieths (← (splitColons s).mapM integer?)

/-- The integer that a text stands for. -/
def integerOf (text : String) : Outcome Int := do
  let (negative, digits) := splitSign (ungrouped text)
  let n ← unsignedInteger digits
  return if negative then -n else n

/-- The sum of parts in base sixty, rounded at each step, from the last part on. -/
def roundedSixtieths (parts : List Binary64) : Binary64 :=
  (parts.reverse.foldl
    (fun (sum, place) part => (Binary64.add sum (Binary64.scale place part), place * 60))
    (Binary64.zero false, 1)).1

/-- The floating-point number that a text stands for. -/
def floatOf (text : String) : Outcome Binary64 := do
  let word := (ungrouped text).map Char.toLower
  if word.isEmpty then valueless .badIndex
  let (negative, digits) := splitSign word
  let x ←
    if digits = ".inf".toList then pure (.infinite false)
    else if digits = ".nan".toList then pure .nan
    else orElse .badValue <| match splitColons digits with
      | [_] => float? digits
      | parts => do return roundedSixtieths (← parts.mapM float?)
  return if negative then x.neg else x

/-- The date or moment that a text stands for. -/
def timeOf (text : String) : Outcome Value := do
  if !isTime text.toList then valueless .missingAttribute
  let t ← orElse .missingAttribute (time? text.toList)
  let day ← orElse .badValue (dayNumber? t.year t.month t.day)
  match t.clock with
  | none => orElse .badValue ((Date.ofDays? day).map .date)
  | some (hour, minute, second) =>
    if hour < 24 ∧ minute < 60 ∧ second < 60 ∧ t.offset.all (fun m => m.natAbs < 1440) then
      let anchor := match t.offset with
        | none => Anchor.floating
        | some minutes => .offset (minutes * 60 * microsPerSecond)
      let seconds := hour * 3600 + minute * 60 + second
      let micros := day * microsPerDay + seconds * microsPerSecond + t.micros
      orElse .badValue ((Moment.ofMicros? micros anchor).map .moment)
    else valueless .badValue

/-- The value of a scalar. -/
def scalarValue (tag text : String) : Outcome Value :=
  if tag = coreTag "null" then .ok .null
  else if tag = coreTag "bool" then .bool <$> truthOf text
  else if tag = coreTag "int" then .int <$> integerOf text
  else if tag = coreTag "float" then .float <$> floatOf text
  else if tag = coreTag "timestamp" then timeOf text
  else if tag = coreTag "str" then .ok (.str text)
  else if tag = coreTag "binary" then
    match Text.Base64.decode? text.toList with
    | some octets => if text.toList.all (·.toNat < 128) then .ok (.bytes octets) else malformed
    | none => malformed
  else malformed

/-- The tags of scalars. -/
def scalarTags : List String :=
  ["null", "bool", "int", "float", "timestamp", "str", "binary"].map coreTag

end PromptTemplates.Yaml
