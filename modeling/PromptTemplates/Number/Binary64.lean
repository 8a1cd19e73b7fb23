import PromptTemplates.Number.Power

/-!
# Binary floating-point numbers of 64 bits

A finite number is `m · 2 ^ e` with a sign, where `m < 2 ^ 53` and `-1074 ≤ e ≤ 971`; `m` has 53
bits unless `e` is least. Every operation goes through one exact rounding of a quotient of natural
numbers to the nearest number, a tie to the even neighbour.
-/

namespace PromptTemplates.Number

/-- The nearest natural number to `a / b`; a tie goes to the even one. -/
def roundDivEven (a b : Nat) : Nat :=
  let q := a / b
  let r := a % b
  if 2 * r < b then q else if b < 2 * r then q + 1 else if q % 2 = 0 then q else q + 1

/-- A 64-bit floating-point number. -/
inductive Binary64 where
  | nan
  | infinite (negative : Bool)
  | finite (negative : Bool) (m : Nat) (e : Int)
  deriving DecidableEq, Repr

namespace Binary64

/-- The least exponent of a finite number. -/
def minExponent : Int := -1074

/-- The greatest exponent of a finite number. -/
def maxExponent : Int := 971

/-- Zero with a sign. -/
def zero (negative : Bool) : Binary64 := .finite negative 0 minExponent

/-- `num / den / 2 ^ e` as a numerator and a denominator. -/
def scaleDown (num den : Nat) (e : Int) : Nat × Nat :=
  if 0 ≤ e then (num, den * twoTo e.toNat) else (num * twoTo (-e).toNat, den)

/-- The exponent at which `num / den` has an integer part of 53 bits, or the least one. -/
def exponentOf (num den : Nat) : Int :=
  let guess : Int := (Nat.log2 num : Int) - Nat.log2 den - 52
  let (a, b) := scaleDown num den guess
  let exact := if a / b < twoTo 52 then guess - 1 else guess
  max exact minExponent

/-- The number nearest to `num / den` with the given sign. -/
def ofRatio (negative : Bool) (num den : Nat) : Binary64 :=
  if num = 0 then zero negative
  else
    let e := exponentOf num den
    let (a, b) := scaleDown num den e
    let m := roundDivEven a b
    let (m, e) := if m = twoTo 53 then (twoTo 52, e + 1) else (m, e)
    if maxExponent < e then .infinite negative else .finite negative m e

/-- The number nearest to `digits · 10 ^ exponent`. The two outer cases lie beyond the greatest
number and below half of the least one, and save computing a large power. -/
def ofDecimal (negative : Bool) (digits : Nat) (exponent : Int) : Binary64 :=
  let size : Int := (Nat.repr digits).length + exponent
  if digits = 0 then zero negative
  else if 400 < size then .infinite negative
  else if size < -400 then zero negative
  else if 0 ≤ exponent then ofRatio negative (digits * tenTo exponent.toNat) 1
  else ofRatio negative digits (tenTo (-exponent).toNat)

/-- The number nearest to a quotient. -/
def ofQuotient (num : Int) (den : Nat) : Binary64 := ofRatio (num < 0) num.natAbs den

/-- Whether the number counts as zero. -/
def isZero : Binary64 → Bool
  | .finite _ m _ => m == 0
  | _ => false

/-- Whether the number carries a minus sign. -/
def isNegative : Binary64 → Bool
  | .nan => false
  | .infinite s => s
  | .finite s _ _ => s

/-- The same number with the opposite sign. -/
def neg : Binary64 → Binary64
  | .nan => .nan
  | .infinite s => .infinite (!s)
  | .finite s m e => .finite (!s) m e

/-- The absolute value of a finite number as a numerator and a denominator. -/
def magnitude (m : Nat) (e : Int) : Nat × Nat :=
  if 0 ≤ e then (m * twoTo e.toNat, 1) else (m, twoTo (-e).toNat)

/-- The integer that the number equals, if it equals one. -/
def toInt? : Binary64 → Option Int
  | .finite s m e =>
    let (num, den) := magnitude m e
    if num % den = 0 then some (if s then -((num / den : Nat) : Int) else (num / den : Nat)) else none
  | _ => none

/-- The number as an exact quotient, if it is finite. -/
def toRatio? : Binary64 → Option (Int × Nat)
  | .finite s m e =>
    let (num, den) := magnitude m e
    some (if s then -(num : Int) else num, den)
  | _ => none

/-- The sum of two finite numbers, rounded; any other operand is the result. -/
def add (a b : Binary64) : Binary64 :=
  match a.toRatio?, b.toRatio? with
  | some (n, d), some (m, e) => ofQuotient (n * e + m * d) (d * e)
  | none, _ => a
  | some _, none => b

/-- The product of a finite number and a natural number, rounded. -/
def scale (k : Nat) (a : Binary64) : Binary64 :=
  match a.toRatio? with
  | some (n, d) => ofQuotient (n * k) d
  | none => a

end Binary64

end PromptTemplates.Number
