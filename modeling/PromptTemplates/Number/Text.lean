import PromptTemplates.Number.Binary64
import PromptTemplates.Text.Blank
import PromptTemplates.Text.Word

/-!
# Reading numbers

Texts that stand for integers and for floating-point numbers. Outer blanks do not matter, digits may
belong to any script, and single underscores may stand between digits.
-/

namespace PromptTemplates.Number

open Text

/-- Reads digits in groups that are separated by single underscores. -/
def groupedDigits? : (value : Nat) → (afterDigit : Bool) → List Char → Option Nat
  | value, afterDigit, [] => if afterDigit then some value else none
  | value, afterDigit, c :: rest =>
    if c = '_' then if afterDigit then groupedDigits? value false rest else none
    else (decimalValue? c).bind fun d => groupedDigits? (value * 10 + d) true rest

/-- Splits a sign off: whether the number is negative, and the rest. -/
def splitSign : List Char → Bool × List Char
  | '-' :: rest => (true, rest)
  | '+' :: rest => (false, rest)
  | rest => (false, rest)

/-- The integer that a text stands for. -/
def integer? (s : List Char) : Option Int :=
  let (negative, digits) := splitSign (trimChars s)
  (groupedDigits? 0 false digits).map fun n => if negative then -(n : Int) else n

/-- The value of an ASCII digit in a base up to sixteen. -/
def digitInBase? (base : Nat) (c : Char) : Option Nat :=
  let value? :=
    if c.isDigit then some (c.toNat - 48)
    else if 'a' ≤ c ∧ c ≤ 'f' then some (c.toNat - 87)
    else if 'A' ≤ c ∧ c ≤ 'F' then some (c.toNat - 55)
    else none
  value?.bind fun d => if d < base then some d else none

/-- The number that digits in a base write; there has to be one at least. -/
def digitsInBase? (base : Nat) (s : List Char) : Option Nat :=
  if s.isEmpty then none
  else s.foldl (fun n c => do return (← n) * base + (← digitInBase? base c)) (some 0)

/-- Takes single underscores between digits out; others have no place in a number. -/
def ungroup? : (afterDigit : Bool) → List Char → Option (List Char)
  | _, [] => some []
  | afterDigit, '_' :: c :: rest =>
    if afterDigit && (decimalValue? c).isSome then ungroup? false (c :: rest) else none
  | _, c :: rest => if c = '_' then none else (ungroup? (decimalValue? c).isSome rest).map (c :: ·)

/-- The number that a decimal mantissa and an exponent write. -/
def decimal? (negative : Bool) (s : List Char) : Option Binary64 :=
  let isDigit (c : Char) := (decimalValue? c).isSome
  let digits (cs : List Char) := cs.foldl (fun n c => n * 10 + (decimalValue? c).getD 0) 0
  let whole := s.takeWhile isDigit
  let rest := s.dropWhile isDigit
  let (fraction, rest) := match rest with
    | '.' :: rest => (rest.takeWhile isDigit, rest.dropWhile isDigit)
    | rest => ([], rest)
  let mantissa := digits (whole ++ fraction)
  if (whole ++ fraction).isEmpty then none
  else
    match rest with
    | [] => some (Binary64.ofDecimal negative mantissa (-fraction.length))
    | e :: rest =>
      let (down, exponent) := splitSign rest
      if (e = 'e' ∨ e = 'E') ∧ !exponent.isEmpty ∧ exponent.all isDigit then
        let shift : Int := if down then -(digits exponent : Int) else digits exponent
        some (Binary64.ofDecimal negative mantissa (shift - fraction.length))
      else none

/-- The floating-point number that a text stands for. -/
def float? (s : List Char) : Option Binary64 :=
  let (negative, s) := splitSign (trimChars s)
  let word := s.map Char.toLower
  if word = "inf".toList ∨ word = "infinity".toList then some (.infinite negative)
  else if word = "nan".toList then some .nan
  else (ungroup? false s).bind (decimal? negative)

end PromptTemplates.Number
