import PromptTemplates.Value.Basic
import PromptTemplates.Entries

/-!
# Values as keys

Two keys of a mapping are the same when they are equal as values. Truth values, integers and floats
are compared as numbers, so `true`, `1` and `1.0` are one key. Moments that are tied to universal
time are compared by their instants.
-/

namespace PromptTemplates

/-- The number that a value stands for, as a fraction. -/
def Value.ratio? : Value → Option (Int × Nat)
  | .bool b => some (if b then 1 else 0, 1)
  | .int n => some (n, 1)
  | .float x => x.toRatio?
  | _ => none

/-- Whether two moments are equal. A floating moment equals only floating ones. -/
def Calendar.Moment.isSame (a b : Calendar.Moment) : Bool :=
  if a.offset?.isSome = b.offset?.isSome then a.since b == 0 else false

mutual

/-- Whether two values are equal. -/
def Value.isSame : Value → Value → Bool
  | .null, .null => true
  | .str a, .str b => a == b
  | .bytes a, .bytes b => a == b
  | .date a, .date b => a == b
  | .moment a, .moment b => a.isSame b
  | .time a, .time b => a == b
  | .list a, .list b => areSame a b
  | .tuple a, .tuple b => areSame a b
  | .float a, .float b => a == b && a != .nan || a.isZero && b.isZero
  | a, b =>
    match a.ratio?, b.ratio? with
    | some (n, d), some (m, e) => n * e == m * d
    | _, _ => false

/-- Whether two lists have equal members. -/
def areSame : List Value → List Value → Bool
  | [], [] => true
  | a :: as, b :: bs => a.isSame b && areSame as bs
  | _, _ => false

end

mutual

/-- Whether a value can be a key: collections that can change cannot. -/
def Value.canBeKey : Value → Bool
  | .list _ => false
  | .map _ => false
  | .safe _ => false
  | .record _ => false
  | .element .. => false
  | .block .. => false
  | .helperContext .. => false
  | .tuple items => canAllBeKeys items
  | _ => true

/-- Whether all values can be keys. -/
def canAllBeKeys : List Value → Bool
  | [] => true
  | item :: rest => item.canBeKey && canAllBeKeys rest

end

instance : BEq Value := ⟨Value.isSame⟩

/-- The value under a string key. -/
def Value.entry? (key : String) (entries : List (Value × Value)) : Option Value :=
  Entries.get? (.str key) entries

/-- The mapping with the given string keys. -/
def Value.ofFields (fields : List (String × Value)) : Value :=
  .map (fields.map fun (name, value) => (.str name, value))

end PromptTemplates
