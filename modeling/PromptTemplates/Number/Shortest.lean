import PromptTemplates.Number.Binary64

/-!
# The shortest decimal text of a floating-point number

The text has the fewest digits that read back as the number, and of those the ones nearest to it.
-/

namespace PromptTemplates.Number

/-- How many decimal digits a natural number has. -/
def decimalLength (n : Nat) : Nat := (Nat.repr n).length

/-- The `k` with `10 ^ (k - 1) ≤ num / den < 10 ^ k`, for positive `num` and `den`. -/
def decimalPoint (num den : Nat) : Int :=
  if den ≤ num then decimalLength (num / den)
  else
    let length := decimalLength (den / num)
    if num * tenTo (length - 1) = den then 2 - (length : Int) else 1 - (length : Int)

/-- The numbers that round to `m · 2 ^ e`, all doubled twice and over one denominator: the lower
end, the number, the upper end, and whether the ends belong to it. -/
structure RoundingInterval where
  lower : Nat
  value : Nat
  upper : Nat
  den : Nat
  closed : Bool

/-- The interval of `m · 2 ^ e`. Below a power of two the numbers lie twice as dense. -/
def RoundingInterval.of (m : Nat) (e : Int) : RoundingInterval :=
  let (num, den) := Binary64.magnitude (4 * m) e
  let (unit, _) := Binary64.magnitude 1 e
  let below := if m = twoTo 52 ∧ Binary64.minExponent < e then unit else 2 * unit
  { lower := num - below, value := num, upper := num + 2 * unit, den := 4 * den, closed := m % 2 = 0 }

/-- Whether `a / b` lies in the interval. -/
def RoundingInterval.holds (i : RoundingInterval) (a b : Nat) : Bool :=
  let x := a * i.den
  let lower := i.lower * b
  let upper := i.upper * b
  if i.closed then lower ≤ x && x ≤ upper else lower < x && x < upper

/-- `d · 10 ^ s` as a numerator and a denominator. -/
def onGrid (d : Nat) (s : Int) : Nat × Nat :=
  if 0 ≤ s then (d * tenTo s.toNat, 1) else (d, tenTo (-s).toNat)

/-- The point of the grid of step `10 ^ s` that reads back as the number, if one does. Only the two
neighbours of the number need a look; of two hits the nearer wins, and of equally near ones the even. -/
def RoundingInterval.hit? (i : RoundingInterval) (s : Int) : Option Nat :=
  let (stepNum, stepDen) := onGrid 1 s
  let low := i.value * stepDen / (i.den * stepNum)
  let reads (d : Nat) : Bool := let (a, b) := onGrid d s; i.holds a b
  match reads low, reads (low + 1) with
  | true, true =>
    let twice := 2 * i.value * stepDen
    let middle := (2 * low + 1) * (i.den * stepNum)
    if twice < middle then some low
    else if middle < twice then some (low + 1)
    else if low % 2 = 0 then some low else some (low + 1)
  | true, false => some low
  | false, true => some (low + 1)
  | false, false => none

/-- Tries one digit, then two, and so on; `fuel` bounds the number of digits tried. -/
def RoundingInterval.shortest (i : RoundingInterval) (point : Int) : (fuel digits : Nat) → Nat × Int
  | 0, digits => (i.value / i.den, point - digits)
  | fuel + 1, digits =>
    match i.hit? (point - digits) with
    | some d => (d, point - digits)
    | none => i.shortest point fuel (digits + 1)

/-- The digits `d` and the exponent `s` of the shortest decimal `d · 10 ^ s` of `m · 2 ^ e`, for
positive `m`. Seventeen digits always suffice. -/
def shortestDecimal (m : Nat) (e : Int) : Nat × Int :=
  let (num, den) := Binary64.magnitude m e
  (RoundingInterval.of m e).shortest (decimalPoint num den) 18 1

/-- Drops the zeros at the end of a run of digits. -/
def dropTrailingZeros (digits : List Char) : List Char :=
  digits.foldr (fun c rest => if rest.isEmpty && c == '0' then [] else c :: rest) []

/-- Writes digits with the decimal point after the first `point` of them, at least one digit on
either side. -/
def positional (digits : List Char) (point : Int) : List Char :=
  if point ≤ 0 then '0' :: '.' :: (List.replicate (-point).toNat '0' ++ digits)
  else
    let n := point.toNat
    if digits.length ≤ n then digits ++ List.replicate (n - digits.length) '0' ++ ['.', '0']
    else digits.take n ++ '.' :: digits.drop n

/-- Writes digits with one of them before the point and an exponent of at least two digits. -/
def scientific (digits : List Char) (point : Int) : List Char :=
  let exponent := point - 1
  let size := (Nat.repr exponent.natAbs).toList
  let size := if size.length < 2 then '0' :: size else size
  let sign := if exponent < 0 then '-' else '+'
  let mantissa := match digits with
    | d :: e :: rest => d :: '.' :: e :: rest
    | short => short
  mantissa ++ 'e' :: sign :: size

/-- The text of a number: positional from `10 ^ -4` up to below `10 ^ 16`. -/
def Binary64.text : Binary64 → String
  | .nan => "nan"
  | .infinite false => "inf"
  | .infinite true => "-inf"
  | .finite negative m e =>
    let sign := if negative then ['-'] else []
    if m = 0 then String.ofList (sign ++ ['0', '.', '0'])
    else
      let (d, s) := shortestDecimal m e
      let all := (Nat.repr d).toList
      let point : Int := s + all.length
      let digits := dropTrailingZeros all
      let body := if -4 < point ∧ point ≤ 16 then positional digits point else scientific digits point
      String.ofList (sign ++ body)

end PromptTemplates.Number
