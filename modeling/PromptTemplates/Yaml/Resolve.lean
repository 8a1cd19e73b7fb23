import PromptTemplates.Text.Search
import PromptTemplates.Number.Text

/-!
# The kinds of plain scalars

A plain scalar is a truth value, a floating-point number, an integer, a merge sign, null, a date or
time, or the value sign, if it is written like one; otherwise it is a string.
-/

namespace PromptTemplates.Yaml

open Text

/-- The tag of a kind of values. -/
def coreTag (kind : String) : String := "tag:yaml.org,2002:" ++ kind

/-- The words for truth values, each in three spellings. -/
def truthWords : List (String × Bool) :=
  [("yes", true), ("Yes", true), ("YES", true), ("no", false), ("No", false), ("NO", false),
   ("true", true), ("True", true), ("TRUE", true), ("false", false), ("False", false),
   ("FALSE", false), ("on", true), ("On", true), ("ON", true), ("off", false), ("Off", false),
   ("OFF", false)]

/-- The words for null. -/
def nullWords : List String := ["", "~", "null", "Null", "NULL"]

/-- A decimal digit or an underscore. -/
def isDigitOrGap (c : Char) : Bool := c.isDigit || c == '_'

/-- Drops a sign. -/
def dropSign (s : List Char) : List Char := (Number.splitSign s).2

/-- Whether all characters satisfy `p` and there is one at least. -/
def allOf (p : Char → Bool) (s : List Char) : Bool := !s.isEmpty && s.all p

/-- Cuts a text at its colons. -/
def splitColons : List Char → List (List Char)
  | [] => [[]]
  | ':' :: rest => [] :: splitColons rest
  | c :: rest =>
    match splitColons rest with
    | [] => [[c]]
    | part :: parts => (c :: part) :: parts

/-- Whether a part after a colon has one or two digits and is below sixty. -/
def isSixtieth : List Char → Bool
  | [c] => c.isDigit
  | [c, d] => '0' ≤ c && c ≤ '5' && d.isDigit
  | _ => false

/-- Whether a text is written like digits that start with a digit from `first`. -/
def isDigits (first : Char → Bool) : List Char → Bool
  | [] => false
  | c :: rest => first c && rest.all isDigitOrGap

/-- Whether a digit is not zero. -/
def isNonzeroDigit (c : Char) : Bool := c.isDigit && c != '0'

/-- Whether a text is written like an integer. -/
def isInteger (s : List Char) : Bool :=
  let s := dropSign s
  let inBase (mark : List Char) (p : Char → Bool) : Bool :=
    (after? mark s).any (allOf fun c => p c || c == '_')
  inBase ['0', 'b'] (fun c => c == '0' || c == '1') ||
  inBase ['0', 'x'] (fun c => (Number.digitInBase? 16 c).isSome) ||
  inBase ['0'] (fun c => '0' ≤ c && c ≤ '7') || s == ['0'] || isDigits isNonzeroDigit s ||
  match splitColons s with
  | first :: second :: rest => isDigits isNonzeroDigit first && (second :: rest).all isSixtieth
  | _ => false

/-- Whether a text is empty or written like an exponent with a sign. -/
def isExponent : List Char → Bool
  | [] => true
  | e :: sign :: digits => (e == 'e' || e == 'E') && (sign == '-' || sign == '+') && allOf Char.isDigit digits
  | _ => false

/-- Whether a text is written like a floating-point number. -/
def isFloat (s : List Char) : Bool :=
  let unsigned := dropSign s
  let words (names : List String) (t : List Char) := names.any fun name => name.toList == t
  words [".inf", ".Inf", ".INF"] unsigned || words [".nan", ".NaN", ".NAN"] s ||
  (match cutAt? ['.'] unsigned with
    | some (whole, rest) =>
      (isDigits Char.isDigit whole && isExponent (rest.dropWhile isDigitOrGap)) ||
      (match splitColons whole with
        | first :: second :: parts =>
          isDigits Char.isDigit first && (second :: parts).all isSixtieth && rest.all isDigitOrGap
        | _ => false)
    | none => false) ||
  (match s with
    | '.' :: rest =>
      isDigits Char.isDigit (rest.takeWhile isDigitOrGap) &&
        isExponent (rest.dropWhile isDigitOrGap)
    | _ => false)

/-- A date, with a time of day if one is written. -/
structure WrittenTime where
  year : Nat
  month : Nat
  day : Nat
  clock : Option (Nat × Nat × Nat) := none
  micros : Nat := 0
  offset : Option Int := none
  deriving Repr

/-- Reads from `least` to `most` digits. -/
def digitRun? (least most : Nat) (s : List Char) : Option (Nat × List Char) :=
  let digits := (s.take most).takeWhile Char.isDigit
  if digits.length < least then none
  else some (digits.foldl (fun n c => n * 10 + (c.toNat - 48)) 0, s.drop digits.length)

/-- Reads the end of a time: an offset in minutes after blanks, or nothing. -/
def zone? (s : List Char) : Option (Option Int) :=
  match s.dropWhile isSpaceOrTab with
  | [] => if s.isEmpty then some none else none
  | ['Z'] => some (some 0)
  | sign :: rest =>
    if sign = '-' ∨ sign = '+' then do
      let (hours, rest) ← digitRun? 1 2 rest
      let minutes ← match rest with
        | [] => some 0
        | ':' :: rest =>
          match digitRun? 2 2 rest with
          | some (minutes, []) => some minutes
          | _ => none
        | _ => none
      let total : Int := (hours * 60 + minutes : Nat)
      return some (if sign = '-' then -total else total)
    else none

/-- Reads the fraction of a second in microseconds. -/
def fraction (s : List Char) : Nat × List Char :=
  match s with
  | '.' :: rest =>
    let digits := rest.takeWhile Char.isDigit
    let padded := (digits ++ List.replicate 6 '0').take 6
    (padded.foldl (fun n c => n * 10 + (c.toNat - 48)) 0, rest.dropWhile Char.isDigit)
  | s => (0, s)

/-- Reads a date, or a date and a time after a `T` or blanks. -/
def time? (s : List Char) : Option WrittenTime := do
  let (year, rest) ← digitRun? 4 4 s
  let (month, rest) ← digitRun? 1 2 (← after? ['-'] rest)
  let (day, rest) ← digitRun? 1 2 (← after? ['-'] rest)
  if rest.isEmpty then return { year := year, month := month, day := day }
  let rest ← match rest with
    | 'T' :: rest => some rest
    | 't' :: rest => some rest
    | c :: rest => if isSpaceOrTab c then some (rest.dropWhile isSpaceOrTab) else none
    | [] => none
  let (hour, rest) ← digitRun? 1 2 rest
  let (minute, rest) ← digitRun? 2 2 (← after? [':'] rest)
  let (second, rest) ← digitRun? 2 2 (← after? [':'] rest)
  let (micros, rest) := fraction rest
  let offset ← zone? rest
  return { year := year, month := month, day := day, clock := some (hour, minute, second),
           micros := micros, offset := offset }

/-- Whether a text is written like a date or a time. A date alone has two digits for month and day. -/
def isTime (s : List Char) : Bool :=
  match time? s with
  | some t => t.clock.isSome || s.length == 10
  | none => false

/-- The tag of a plain scalar. -/
def resolve (text : String) : String :=
  let s := text.toList
  coreTag <|
    if nullWords.contains text then "null"
    else if (truthWords.lookup text).isSome then "bool"
    else if isFloat s then "float"
    else if isInteger s then "int"
    else if text = "<<" then "merge"
    else if text = "=" then "value"
    else if isTime s then "timestamp"
    else "str"

end PromptTemplates.Yaml
