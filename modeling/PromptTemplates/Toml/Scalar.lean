import PromptTemplates.Calendar.Iso
import PromptTemplates.Number.Text
import PromptTemplates.Text.Reader
import PromptTemplates.Text.Quoted
import PromptTemplates.Value.Basic

/-!
# Scalars of settings files

The scalars of TOML: texts in four styles, truth values, numbers, dates, moments and times of day.
Underscores in numbers do not count. What follows the seconds of a moment counts only if it is a fraction or an
offset.
-/

namespace PromptTemplates.Toml

open Reader Calendar

/-- What a letter after a backslash stands for. -/
def escapes : List (Char × Char) :=
  [('0', '\x00'), ('b', '\x08'), ('f', '\x0c'), ('n', '\n'), ('r', '\r'), ('t', '\t'), ('"', '"'),
   ('\\', '\\')]

/-- The character whose code is written in `n` hexadecimal digits. -/
def codePoint (n : Nat) : Reader Char := fun s =>
  let digits := s.take n
  match if digits.length = n then Number.digitsInBase? 16 digits else none with
  | some code =>
    if h : code.isValidChar then ⟨some (Char.ofNatAux code h, s.drop n), false⟩ else ⟨none, false⟩
  | none => ⟨none, false⟩

/-- What a backslash begins, after it. -/
def escaped : Reader Char := do
  let c ← one fun _ => true
  if c = 'u' then codePoint 4
  else if c = 'U' then codePoint 8
  else
    match escapes.lookup c with
    | some d => return d
    | none => fail

/-- One character of a text on one line in quotes `q`. -/
def textChar (q : Char) : Reader Char := do
  let c ← one fun c => c != q && c != '\n'
  if c = '\\' ∧ q = '"' then escaped else return c

/-- A text on one line in quotes `q`. -/
def lineText (q : Char) : Reader String := fun s =>
  (do
    token [q]
    let cs ← many (textChar q) s.length
    token [q]
    return String.ofList cs : Reader String) s

/-- The backslash at the end of a line, with all blanks up to the next character. -/
def continuation : Reader (List Char) := do
  token ['\\']
  let _ ← run fun c => c == ' ' || c == '\t'
  token ['\n']
  let _ ← run fun c => c == ' ' || c == '\t' || c == '\n'
  return []

/-- One character of a text over several lines in quotes `q`, or nothing where a line is continued. -/
def blockChar (q : Char) : Reader (List Char) := do
  absent (token [q, q, q])
  (if q = '"' then continuation else fail) <|> do
    let c ← one fun _ => true
    if c = '\\' ∧ q = '"' then return [← escaped] else return [c]

/-- A text over several lines in quotes `q`. A line end right at its start is left out. -/
def blockText (q : Char) : Reader String := fun s =>
  (do
    token [q, q, q]
    Reader.option '\n'
    let cs ← many (blockChar q) s.length
    token [q, q, q]
    return String.ofList cs.flatten : Reader String) s

/-- A text. -/
def text : Reader String :=
  firstOf [blockText '"', blockText '\'', lineText '"', lineText '\'']

/-- The number that digits write in decimal notation or after the mark of a base. -/
def natural? (s : List Char) : Option Nat :=
  match s with
  | '0' :: mark :: digits =>
    let base? := [('x', 16), ('o', 8), ('b', 2)].lookup mark.toLower
    match base? with
    | some base => Number.digitsInBase? base digits
    | none => if s.all (· == '0') then some 0 else none
  | s => Number.digitsInBase? 10 s

/-- The number that a text without underscores writes. -/
def number? (s : List Char) : Option Value :=
  let (negative, digits) := Number.splitSign s
  let word := digits.map Char.toLower
  let isFloat := digits.contains '.' || (word.contains 'e' && !word.contains 'x')
  if word = "inf".toList then some (.float (.infinite negative))
  else if word = "nan".toList then some (.float .nan)
  else if isFloat then
    let after := (digits.dropWhile (· != '.')).drop 1
    if (digits.contains '.' && after.isEmpty) || !(digits.head?.any Char.isDigit) then none
    else (Number.decimal? negative digits).map .float
  else (natural? digits).map fun n => .int (if negative then -(n : Int) else n)

/-- The number that two digits write. -/
def twoDigits? (s : List Char) : Option Nat :=
  match s with
  | [a, b] => if a.isDigit && b.isDigit then Number.digitsInBase? 10 s else none
  | _ => none

/-- The offset that a text writes, in minutes. -/
def offset? (s : List Char) : Option Int :=
  match s with
  | ['Z'] => some 0
  | sign :: h :: h' :: ':' :: m :: m' :: [] => do
    let total : Int := ((← twoDigits? [h, h']) * 60 + (← twoDigits? [m, m']) : Nat)
    if sign = '-' then some (-total) else if sign = '+' then some total else none
  | _ => none

/-- The microseconds of the fraction that a text begins with, and what follows. -/
def fraction (s : List Char) : Nat × List Char :=
  match s with
  | '.' :: rest =>
    let digits := ((rest.takeWhile Char.isDigit) ++ List.replicate 6 '0').take 6
    ((Number.digitsInBase? 10 digits).getD 0, rest.dropWhile Char.isDigit)
  | s => (0, s)

/-- The date that a text begins with, as a day number, and what follows. -/
def day? (s : List Char) : Option (Nat × List Char) := do
  let (year, rest) := (s.take 4, s.drop 4)
  match rest with
  | '-' :: m :: m' :: '-' :: d :: d' :: rest =>
    if year.length = 4 && year.all Char.isDigit then
      let day ← dayNumber? (← Number.digitsInBase? 10 year) (← twoDigits? [m, m']) (← twoDigits? [d, d'])
      return (day, rest)
    else none
  | _ => none

/-- The clock that a text begins with, in seconds, and what follows. -/
def clock? (s : List Char) : Option (Nat × List Char) := do
  match s with
  | h :: h' :: ':' :: m :: m' :: ':' :: c :: c' :: rest =>
    let hour ← twoDigits? [h, h']
    let minute ← twoDigits? [m, m']
    let second ← twoDigits? [c, c']
    if hour < 24 ∧ minute < 60 ∧ second < 60 then
      return (hour * 3600 + minute * 60 + second, rest)
    else none
  | _ => none

/-- The date or moment that a text writes. -/
def time? (s : List Char) : Option Value := do
  let (day, rest) ← day? s
  match rest with
  | [] => (Date.ofDays? day).map .date
  | _ :: rest =>
    let (seconds, rest) ← clock? rest
    let (micros, rest) := fraction rest
    let anchor := match offset? rest with
      | some minutes => Anchor.offset (minutes * 60 * microsPerSecond)
      | none => .floating
    (Moment.ofMicros? (day * microsPerDay + seconds * microsPerSecond + micros : Nat) anchor).map
      .moment

/-- The time of day that a text begins with. The digits of a fraction are the microseconds as they stand, if
there are three of them at least. What follows does not count. -/
def timeOfDay? (s : List Char) : Option Value := do
  let (seconds, rest) ← clock? s
  let digits := match rest with
    | '.' :: rest => (rest.takeWhile Char.isDigit).take 6
    | _ => []
  let micros := if digits.length < 3 then 0 else (Number.digitsInBase? 10 digits).getD 0
  (TimeOfDay.ofMicros? (seconds * microsPerSecond + micros)).map .time

/-- The value of a word without quotes. -/
def word? (s : List Char) : Option Value :=
  if s = "true".toList then some (.bool true)
  else if s = "false".toList then some (.bool false)
  else timeOfDay? s <|> time? s <|> number? (s.filter (· != '_'))

end PromptTemplates.Toml
