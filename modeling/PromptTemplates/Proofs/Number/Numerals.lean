import PromptTemplates.Number.Text
import PromptTemplates.Proofs.Number.ShortestDecimal

/-!
# Decimal numerals

A numeral has digits, perhaps digits after a point, and perhaps an exponent. The text of a floating-point
number is a sign and a numeral of the shortest decimal, so what reads numerals finds the number again.
-/

namespace PromptTemplates.Number

open Binary64 Text

/-! ## Runs of digits -/

/-- A text does not go on with a character of a class. -/
def Stops (p : Char → Bool) (s : List Char) : Prop := ∀ c ∈ s.head?, p c = false

variable {p : Char → Bool} {digits rest : List Char} {c : Char}

theorem takeWhile_append_of_stops (hdigits : ∀ c ∈ digits, p c = true) (hrest : Stops p rest) :
    (digits ++ rest).takeWhile p = digits := by
  rw [List.takeWhile_append_of_pos hdigits]
  cases rest with
  | nil => simp
  | cons c rest => simp [hrest c rfl]

theorem dropWhile_append_of_stops (hdigits : ∀ c ∈ digits, p c = true) (hrest : Stops p rest) :
    (digits ++ rest).dropWhile p = rest := by
  rw [List.dropWhile_append_of_pos hdigits]
  cases rest with
  | nil => rfl
  | cons c rest => simp [hrest c rfl]

theorem isDigit_iff : c.isDigit = true ↔ 48 ≤ c.toNat ∧ c.toNat ≤ 57 := Char.isDigit_iff_toNat

/-- An ASCII digit has its value among the digits of all scripts. -/
theorem decimalValue?_of_isDigit (h : c.isDigit = true) : decimalValue? c = some (c.toNat - 48) := by
  obtain ⟨hlower, hupper⟩ := isDigit_iff.mp h
  have hzeros : decimalZeros.toList = 48 :: decimalZeros.toList.tail := rfl
  have hfirst : (decide (48 ≤ c.toNat) && decide (c.toNat < 48 + 10)) = true := by
    simp only [Bool.and_eq_true, decide_eq_true_eq]
    omega
  unfold decimalValue?
  rw [hzeros, List.find?_cons]
  simp only [hfirst, Option.map_some]

/-- The number that digits write. -/
def valueOf (digits : List Char) : Nat := Nat.ofDigitChars 10 digits 0

theorem digitInBase?_of_isDigit (h : c.isDigit = true) : digitInBase? 10 c = some (c.toNat - 48) := by
  obtain ⟨hlower, hupper⟩ := isDigit_iff.mp h
  have hlt : c.toNat - 48 < 10 := by omega
  unfold digitInBase?
  rw [if_pos h]
  exact if_pos hlt

theorem digitsInBase?_eq (hne : digits ≠ []) (hdigits : ∀ c ∈ digits, c.isDigit = true) :
    digitsInBase? 10 digits = some (valueOf digits) := by
  have hfold : ∀ n, digits.foldl
      (fun (n : Option Nat) c => do return (← n) * 10 + (← digitInBase? 10 c)) (some n) =
        some (Nat.ofDigitChars 10 digits n) := by
    clear hne
    induction digits with
    | nil =>
      intro n
      rfl
    | cons c rest ih =>
      intro n
      obtain ⟨hc, hrest⟩ := List.forall_mem_cons.mp hdigits
      rw [List.foldl_cons, digitInBase?_of_isDigit hc, Nat.ofDigitChars_cons, Nat.mul_comm 10]
      exact ih hrest _
  unfold digitsInBase?
  rw [if_neg (by simpa using hne)]
  exact hfold 0

theorem valueOf_zeros_append (k : Nat) (digits : List Char) :
    valueOf (List.replicate k '0' ++ digits) = valueOf digits := by
  unfold valueOf
  rw [Nat.ofDigitChars_append, Nat.ofDigitChars_replicate_zero, Nat.mul_zero]

theorem valueOf_append_zeros (digits : List Char) (k : Nat) :
    valueOf (digits ++ List.replicate k '0') = valueOf digits * 10 ^ k := by
  unfold valueOf
  rw [Nat.ofDigitChars_append, Nat.ofDigitChars_replicate_zero, Nat.mul_comm]

theorem valueOf_repr (n : Nat) : valueOf (Nat.repr n).toList = n := by
  rw [Nat.toList_repr]
  exact Nat.ofDigitChars_ten_toDigits

theorem isDigit_of_mem_repr {n : Nat} (h : c ∈ (Nat.repr n).toList) : c.isDigit = true := by
  rw [Nat.toList_repr] at h
  exact Nat.isDigit_of_mem_toDigits (by decide) (by decide) h

theorem repr_ne_nil (n : Nat) : (Nat.repr n).toList ≠ [] := by
  rw [Nat.toList_repr]
  exact Nat.toDigits_ne_nil

/-! ## The parts that a numeral is read in -/

/-- Whether a character is a decimal digit of any script. -/
def isDecimal (c : Char) : Bool := (decimalValue? c).isSome

theorem isDecimal_of_isDigit (h : c.isDigit = true) : isDecimal c = true := by
  unfold isDecimal
  rw [decimalValue?_of_isDigit h]
  rfl

/-- The number that digits of any script write. -/
def digitsValue (digits : List Char) : Nat :=
  digits.foldl (fun n c => n * 10 + (decimalValue? c).getD 0) 0

theorem digitsValue_eq (hdigits : ∀ c ∈ digits, c.isDigit = true) :
    digitsValue digits = valueOf digits := by
  have hfold : ∀ n, digits.foldl (fun n c => n * 10 + (decimalValue? c).getD 0) n =
      Nat.ofDigitChars 10 digits n := by
    induction digits with
    | nil =>
      intro n
      rfl
    | cons c rest ih =>
      intro n
      obtain ⟨hc, hrest⟩ := List.forall_mem_cons.mp hdigits
      rw [List.foldl_cons, Nat.ofDigitChars_cons, ih hrest, decimalValue?_of_isDigit hc, Nat.mul_comm]
      rfl
  exact hfold 0

/-- Splits the digits after a point off. -/
def splitFraction : List Char → List Char × List Char
  | '.' :: rest => (rest.takeWhile isDecimal, rest.dropWhile isDecimal)
  | rest => ([], rest)

/-- The number that an exponent writes; it is zero if there is none. -/
def shift? : List Char → Option Int
  | [] => some 0
  | e :: rest =>
    let (down, exponent) := splitSign rest
    if (e = 'e' ∨ e = 'E') ∧ !exponent.isEmpty ∧ exponent.all isDecimal then
      some (if down then -(digitsValue exponent : Int) else digitsValue exponent)
    else none

theorem decimal?_eq (negative : Bool) (s : List Char) : decimal? negative s =
    let whole := s.takeWhile isDecimal
    let (fraction, rest) := splitFraction (s.dropWhile isDecimal)
    if (whole ++ fraction).isEmpty then none
    else (shift? rest).map fun shift =>
      ofDecimal negative (digitsValue (whole ++ fraction)) (shift - fraction.length) := by
  have hdecimal : decimal? negative s = match splitFraction (s.dropWhile isDecimal) with
      | (fraction, rest) =>
        let mantissa := digitsValue (s.takeWhile isDecimal ++ fraction)
        if (s.takeWhile isDecimal ++ fraction).isEmpty then none
        else match rest with
          | [] => some (ofDecimal negative mantissa (-fraction.length))
          | e :: rest =>
            let (down, exponent) := splitSign rest
            if (e = 'e' ∨ e = 'E') ∧ !exponent.isEmpty ∧ exponent.all isDecimal then
              let shift : Int := if down then -(digitsValue exponent : Int) else digitsValue exponent
              some (ofDecimal negative mantissa (shift - fraction.length))
            else none := rfl
  rw [hdecimal]
  obtain ⟨fraction, rest⟩ := splitFraction (s.dropWhile isDecimal)
  dsimp only
  split
  · rfl
  · cases rest with
    | nil =>
      rw [shift?, Option.map_some, zero_sub]
    | cons e rest =>
      unfold shift?
      dsimp only
      split <;> rfl

/-- What is read as a number has the one form of numbers. -/
theorem isCanonical_of_decimal? {negative : Bool} {s : List Char} {x : Binary64}
    (h : decimal? negative s = some x) : x.IsCanonical := by
  rw [decimal?_eq] at h
  dsimp only at h
  split at h
  · cases h
  · obtain ⟨shift, -, rfl⟩ := Option.map_eq_some_iff.mp h
    exact isCanonical_ofDecimal _ _ _

theorem isCanonical_of_float? {s : List Char} {x : Binary64} (h : float? s = some x) :
    x.IsCanonical := by
  unfold float? at h
  dsimp only at h
  split_ifs at h
  · cases h
    trivial
  · cases h
    trivial
  · obtain ⟨digits, -, h⟩ := Option.bind_eq_some_iff.mp h
    exact isCanonical_of_decimal? h

/-! ## Digits without a zero in front -/

/-- Digits of which the first is not zero. -/
structure IsLeading (digits : List Char) : Prop where
  ne_nil : digits ≠ []
  head_ne : digits.head? ≠ some '0'
  isDigit : ∀ c ∈ digits, c.isDigit = true

theorem isLeading_repr {n : Nat} (hn : 0 < n) : IsLeading (Nat.repr n).toList where
  ne_nil := repr_ne_nil n
  head_ne := by
    rw [Nat.toList_repr]
    induction n using Nat.strongRecOn with
    | ind n ih =>
      by_cases hsmall : n < 10
      · have hdigits : ∀ n < 10, 0 < n → [n.digitChar].head? ≠ some '0' := by decide
        rw [Nat.toDigits_of_lt_base hsmall]
        exact hdigits n hsmall hn
      · rw [Nat.toDigits_of_base_le (by decide) (not_lt.mp hsmall),
          List.head?_append_of_ne_nil _ Nat.toDigits_ne_nil]
        exact ih (n / 10) (by omega) (by omega)
  isDigit _ := isDigit_of_mem_repr

/-- Zeros at the end of a run of digits are dropped, and nothing else. -/
theorem exists_append_zeros (digits : List Char) :
    ∃ k, digits = dropTrailingZeros digits ++ List.replicate k '0' := by
  induction digits with
  | nil => exact ⟨0, rfl⟩
  | cons c rest ih =>
    obtain ⟨k, hk⟩ := ih
    have hdrop : dropTrailingZeros (c :: rest) = if (dropTrailingZeros rest).isEmpty && c == '0' then []
        else c :: dropTrailingZeros rest := rfl
    rw [hdrop]
    split
    · next hzero =>
      obtain ⟨hempty, hc⟩ := Bool.and_eq_true_iff.mp hzero
      rw [List.isEmpty_iff.mp hempty] at hk
      refine ⟨k + 1, ?_⟩
      rw [eq_of_beq hc, hk]
      rfl
    · refine ⟨k, ?_⟩
      rw [List.cons_append, ← hk]

theorem isLeading_dropTrailingZeros (h : IsLeading digits) : IsLeading (dropTrailingZeros digits) := by
  obtain ⟨k, hk⟩ := exists_append_zeros digits
  have hne : dropTrailingZeros digits ≠ [] := by
    intro hempty
    rw [hempty, List.nil_append] at hk
    cases k with
    | zero => exact h.ne_nil hk
    | succ k => exact h.head_ne (by rw [hk]; rfl)
  refine ⟨hne, ?_, ?_⟩
  · have hhead := h.head_ne
    rwa [hk, List.head?_append_of_ne_nil _ hne] at hhead
  · intro c hc
    apply h.isDigit
    rw [hk]
    exact List.mem_append_left _ hc

/-! ## Numerals -/

/-- A numeral: its digits, those after the point, and the sign and the digits of its exponent. The point
is left out when no digits follow it. -/
structure Numeral where
  whole : List Char
  fraction : List Char := []
  power : Option (Bool × List Char) := none

namespace Numeral

variable (n : Numeral)

/-- The point and the digits after it. -/
def pointChars : List Char :=
  match n.fraction with
  | [] => []
  | digits => '.' :: digits

/-- The exponent with its letter and its sign. -/
def powerChars : List Char :=
  match n.power with
  | none => []
  | some (down, digits) => 'e' :: (if down then '-' else '+') :: digits

/-- The text of a numeral. -/
def chars : List Char := n.whole ++ n.pointChars ++ n.powerChars

/-- The number that is written after the letter of the exponent. -/
def shift : Int :=
  match n.power with
  | none => 0
  | some (down, digits) => if down then -(valueOf digits : Int) else valueOf digits

/-- All digits of a numeral, those of the exponent apart. -/
def mantissa : Nat := valueOf (n.whole ++ n.fraction)

/-- The power of ten that the mantissa is multiplied with. -/
def exponent : Int := n.shift - n.fraction.length

/-- What a numeral stands for. -/
def value : ℚ := n.mantissa * 10 ^ n.exponent

/-- A numeral consists of digits, with no zero before other digits. -/
structure IsProper : Prop where
  whole : n.whole = ['0'] ∨ IsLeading n.whole
  fraction : ∀ c ∈ n.fraction, c.isDigit = true
  power : ∀ down digits, n.power = some (down, digits) → digits ≠ [] ∧ ∀ c ∈ digits, c.isDigit = true

variable {n}

theorem IsProper.whole_ne (h : n.IsProper) : n.whole ≠ [] := by
  rcases h.whole with hzero | hleading
  · simp [hzero]
  · exact hleading.ne_nil

theorem IsProper.isDigit_of_mem_whole (h : n.IsProper) : ∀ c ∈ n.whole, c.isDigit = true := by
  rcases h.whole with hzero | hleading
  · simp [hzero]
  · exact hleading.isDigit

/-- No digit follows the digits of a numeral. -/
theorem stops_powerChars (hpower : ∀ c, c = 'e' → p c = false) (hrest : Stops p rest) :
    Stops p (n.powerChars ++ rest) := by
  intro c hc
  unfold powerChars at hc
  split at hc
  · exact hrest c hc
  · cases hc
    exact hpower 'e' rfl

theorem stops_pointChars (hpoint : ∀ c, c = '.' → p c = false) (hrest : Stops p rest) :
    Stops p (n.pointChars ++ rest) := by
  intro c hc
  unfold pointChars at hc
  split at hc
  · exact hrest c hc
  · cases hc
    exact hpoint '.' rfl

theorem stops_decimal_powerChars (n : Numeral) : Stops isDecimal n.powerChars := by
  rw [← List.append_nil n.powerChars]
  apply stops_powerChars
  · rintro c rfl
    decide
  · intro c hc
    cases hc

theorem stops_decimal_pointChars (n : Numeral) : Stops isDecimal (n.pointChars ++ n.powerChars) := by
  apply stops_pointChars _ (stops_decimal_powerChars n)
  rintro c rfl
  decide

theorem splitFraction_chars (h : n.IsProper) :
    splitFraction (n.pointChars ++ n.powerChars) = (n.fraction, n.powerChars) := by
  have hfraction := fun c hc => isDecimal_of_isDigit (h.fraction c hc)
  have hstops := stops_decimal_powerChars n
  unfold pointChars
  cases hdigits : n.fraction with
  | nil =>
    unfold powerChars
    cases n.power <;> rfl
  | cons c rest =>
    rw [hdigits] at hfraction
    change (((c :: rest) ++ n.powerChars).takeWhile isDecimal,
      ((c :: rest) ++ n.powerChars).dropWhile isDecimal) = _
    rw [takeWhile_append_of_stops hfraction hstops, dropWhile_append_of_stops hfraction hstops]

theorem shift?_powerChars (h : n.IsProper) : shift? n.powerChars = some n.shift := by
  unfold powerChars shift
  cases hpower : n.power with
  | none => rfl
  | some power =>
    obtain ⟨down, digits⟩ := power
    obtain ⟨hne, hdigits⟩ := h.power down digits hpower
    have hall : ∀ c ∈ digits, isDecimal c = true := fun c hc => isDecimal_of_isDigit (hdigits c hc)
    have hsign : splitSign ((if down then '-' else '+') :: digits) = (down, digits) := by
      cases down <;> rfl
    dsimp only
    rw [shift?, hsign]
    dsimp only
    rw [if_pos ⟨.inl rfl, by simpa using hne, by simpa using hall⟩, digitsValue_eq hdigits]

/-- Reading a numeral gives the number nearest to what it stands for. -/
theorem decimal?_chars (h : n.IsProper) (negative : Bool) :
    decimal? negative n.chars = some (ofDecimal negative n.mantissa n.exponent) := by
  have hwhole : ∀ c ∈ n.whole, isDecimal c = true := fun c hc =>
    isDecimal_of_isDigit (h.isDigit_of_mem_whole c hc)
  have hdigits : ∀ c ∈ n.whole ++ n.fraction, c.isDigit = true := by
    intro c hc
    rcases List.mem_append.mp hc with hc | hc
    · exact h.isDigit_of_mem_whole c hc
    · exact h.fraction c hc
  have hne : ¬ (n.whole ++ n.fraction).isEmpty = true := by simp [h.whole_ne]
  have hstops := stops_decimal_pointChars n
  rw [decimal?_eq, chars, List.append_assoc, takeWhile_append_of_stops hwhole hstops,
    dropWhile_append_of_stops hwhole hstops, splitFraction_chars h]
  dsimp only
  rw [if_neg hne, shift?_powerChars h, digitsValue_eq hdigits]
  rfl

/-! ## Numerals of digits and the place of the point -/

/-- The numeral with the point after the first `point` digits. -/
def positional (digits : List Char) (point : Int) : Numeral :=
  if point ≤ 0 then { whole := ['0'], fraction := List.replicate (-point).toNat '0' ++ digits }
  else if digits.length ≤ point.toNat then
    { whole := digits ++ List.replicate (point.toNat - digits.length) '0', fraction := ['0'] }
  else { whole := digits.take point.toNat, fraction := digits.drop point.toNat }

/-- The digits of an exponent, two at least. -/
def powerDigits (n : Nat) : List Char :=
  if (Nat.repr n).toList.length < 2 then '0' :: (Nat.repr n).toList else (Nat.repr n).toList

/-- The numeral with the point after the first digit, and an exponent. -/
def scientific (digits : List Char) (point : Int) : Numeral where
  whole := digits.take 1
  fraction := digits.drop 1
  power := some (decide (point - 1 < 0), powerDigits (point - 1).natAbs)

theorem chars_positional (hdigits : digits ≠ []) (point : Int) :
    (positional digits point).chars = Number.positional digits point := by
  unfold positional Number.positional
  dsimp only
  split_ifs with hsmall hlarge
  · obtain ⟨c, rest, hfraction⟩ : ∃ c rest, List.replicate (-point).toNat '0' ++ digits = c :: rest :=
      List.exists_cons_of_ne_nil (by simp [hdigits])
    simp [chars, pointChars, powerChars, hfraction]
  · simp [chars, pointChars, powerChars]
  · obtain ⟨c, rest, hfraction⟩ : ∃ c rest, digits.drop point.toNat = c :: rest :=
      List.exists_cons_of_ne_nil (by simpa using hlarge)
    simp [chars, pointChars, powerChars, hfraction]

theorem chars_scientific (hdigits : digits ≠ []) (point : Int) :
    (scientific digits point).chars = Number.scientific digits point := by
  unfold scientific Number.scientific powerDigits
  match digits, hdigits with
  | [d], _ =>
    by_cases hsign : point - 1 < 0
    · simp [chars, pointChars, powerChars, hsign]
    · simp [chars, pointChars, powerChars, hsign]
  | d :: c :: rest, _ =>
    by_cases hsign : point - 1 < 0
    · simp [chars, pointChars, powerChars, hsign]
    · simp [chars, pointChars, powerChars, hsign]

theorem isProper_positional (hdigits : IsLeading digits) (point : Int) :
    (positional digits point).IsProper := by
  have hzeros : ∀ k, ∀ c ∈ List.replicate k '0', c.isDigit = true := by
    intro k c hc
    rw [List.eq_of_mem_replicate hc]
    rfl
  unfold positional
  split_ifs with hsmall hlarge
  · refine ⟨.inl rfl, ?_, nofun⟩
    intro c hc
    exact (List.mem_append.mp hc).elim (hzeros _ c) (hdigits.isDigit c)
  · refine ⟨.inr ⟨?_, ?_, ?_⟩, by simp, nofun⟩
    · simp [hdigits.ne_nil]
    · rw [List.head?_append_of_ne_nil _ hdigits.ne_nil]
      exact hdigits.head_ne
    · intro c hc
      exact (List.mem_append.mp hc).elim (hdigits.isDigit c) (hzeros _ c)
  · refine ⟨.inr ⟨?_, ?_, ?_⟩, ?_, nofun⟩
    · simp [hdigits.ne_nil]
      omega
    · rw [List.head?_take, if_neg (by omega)]
      exact hdigits.head_ne
    · intro c hc
      exact hdigits.isDigit c (List.mem_of_mem_take hc)
    · intro c hc
      exact hdigits.isDigit c (List.mem_of_mem_drop hc)

theorem valueOf_powerDigits (n : Nat) : valueOf (powerDigits n) = n := by
  unfold powerDigits
  split
  · exact (valueOf_zeros_append 1 _).trans (valueOf_repr n)
  · exact valueOf_repr n

theorem isDigit_of_mem_powerDigits {n : Nat} (hc : c ∈ powerDigits n) : c.isDigit = true := by
  unfold powerDigits at hc
  split at hc
  · rcases List.mem_cons.mp hc with rfl | hc
    · rfl
    · exact isDigit_of_mem_repr hc
  · exact isDigit_of_mem_repr hc

theorem powerDigits_ne_nil (n : Nat) : powerDigits n ≠ [] := by
  unfold powerDigits
  split
  · exact List.cons_ne_nil _ _
  · exact repr_ne_nil n

theorem isProper_scientific (hdigits : IsLeading digits) (point : Int) :
    (scientific digits point).IsProper := by
  refine ⟨.inr ⟨?_, ?_, ?_⟩, ?_, ?_⟩
  · simp [scientific, hdigits.ne_nil]
  · have hhead := hdigits.head_ne
    simpa [scientific, List.head?_take] using hhead
  · intro c hc
    exact hdigits.isDigit c (List.mem_of_mem_take hc)
  · intro c hc
    exact hdigits.isDigit c (List.mem_of_mem_drop hc)
  · intro down digits h
    cases h
    exact ⟨powerDigits_ne_nil _, fun c => isDigit_of_mem_powerDigits⟩

theorem value_positional (digits : List Char) (point : Int) :
    (positional digits point).value = valueOf digits * 10 ^ (point - digits.length) := by
  unfold positional value mantissa exponent shift
  split_ifs with hsmall hlarge
  · have hmantissa : valueOf (['0'] ++ (List.replicate (-point).toNat '0' ++ digits)) = valueOf digits := by
      rw [← List.append_assoc]
      exact valueOf_zeros_append ((-point).toNat + 1) digits
    rw [hmantissa]
    dsimp only
    rw [List.length_append, List.length_replicate]
    congr 2
    omega
  · have hmantissa : valueOf (digits ++ List.replicate (point.toNat - digits.length) '0' ++ ['0']) =
        valueOf digits * 10 ^ (point.toNat - digits.length) * 10 := by
      rw [← valueOf_append_zeros]
      exact (valueOf_append_zeros _ 1).trans rfl
    have hplaces : point - digits.length = ((point.toNat - digits.length : Nat) : Int) := by omega
    have hexponent : (0 : Int) - (['0'] : List Char).length = -1 := rfl
    rw [hmantissa, hplaces, zpow_natCast]
    dsimp only
    rw [hexponent, zpow_neg_one]
    push_cast
    ring
  · dsimp only
    rw [List.take_append_drop]
    congr 2
    rw [List.length_drop]
    omega

theorem value_scientific (hdigits : digits ≠ []) (point : Int) :
    (scientific digits point).value = valueOf digits * 10 ^ (point - digits.length) := by
  have hlength : 0 < digits.length := List.length_pos_of_ne_nil hdigits
  have hshift : (scientific digits point).shift = point - 1 := by
    unfold scientific shift
    dsimp only
    rw [valueOf_powerDigits]
    by_cases hsign : point - 1 < 0
    · simp only [hsign, decide_true, if_true]
      omega
    · simp only [hsign, decide_false, Bool.false_eq_true, if_false]
      omega
  unfold value mantissa exponent
  rw [hshift]
  unfold scientific
  dsimp only
  rw [List.take_append_drop]
  congr 2
  rw [List.length_drop]
  omega

/-- A numeral is not an integer: it has digits after the point or an exponent. -/
def IsFractional (n : Numeral) : Prop := n.fraction ≠ [] ∨ n.power ≠ none

theorem isFractional_positional (hdigits : digits ≠ []) (point : Int) :
    (positional digits point).IsFractional := by
  unfold positional IsFractional
  left
  split_ifs with hsmall hlarge
  · simp [hdigits]
  · simp
  · simpa using hlarge

/-! ## The numeral of a floating-point number -/

/-- The numeral that the text of a number has. -/
def ofNumber (m : Nat) (e : Int) : Numeral :=
  let all := (Nat.repr (shortestDecimal m e).1).toList
  let point : Int := (shortestDecimal m e).2 + all.length
  let digits := dropTrailingZeros all
  if -4 < point ∧ point ≤ 16 then positional digits point else scientific digits point

variable {m : Nat} {e : Int}

theorem isLeading_shortest (hm : 0 < m) (hnormal : IsNormal m e) :
    IsLeading (dropTrailingZeros (Nat.repr (shortestDecimal m e).1).toList) :=
  isLeading_dropTrailingZeros (isLeading_repr (shortestDecimal_pos hm hnormal))

theorem isProper_ofNumber (hm : 0 < m) (hnormal : IsNormal m e) : (ofNumber m e).IsProper := by
  have hdigits := isLeading_shortest hm hnormal
  unfold ofNumber
  dsimp only
  split
  · exact isProper_positional hdigits _
  · exact isProper_scientific hdigits _

theorem isFractional_ofNumber (hm : 0 < m) (hnormal : IsNormal m e) : (ofNumber m e).IsFractional := by
  have hdigits := isLeading_shortest hm hnormal
  unfold ofNumber
  dsimp only
  split
  · exact isFractional_positional hdigits.ne_nil _
  · exact .inr nofun

/-- The numeral of a number stands for its shortest decimal. -/
theorem value_ofNumber (hm : 0 < m) (hnormal : IsNormal m e) :
    (ofNumber m e).value = (shortestDecimal m e).1 * 10 ^ (shortestDecimal m e).2 := by
  have hdigits := isLeading_shortest hm hnormal
  obtain ⟨k, hk⟩ := exists_append_zeros (Nat.repr (shortestDecimal m e).1).toList
  have hvalue := valueOf_append_zeros (dropTrailingZeros (Nat.repr (shortestDecimal m e).1).toList) k
  rw [← hk, valueOf_repr] at hvalue
  have hlength := congrArg List.length hk
  rw [List.length_append, List.length_replicate] at hlength
  have hpoint : (ofNumber m e).value = valueOf (dropTrailingZeros (Nat.repr (shortestDecimal m e).1).toList) *
      10 ^ ((k : Int) + (shortestDecimal m e).2) := by
    unfold ofNumber
    dsimp only
    split
    · rw [value_positional]
      congr 2
      omega
    · rw [value_scientific hdigits.ne_nil]
      congr 2
      omega
  have hcast : ((shortestDecimal m e).1 : ℚ) =
      valueOf (dropTrailingZeros (Nat.repr (shortestDecimal m e).1).toList) * 10 ^ k := by
    exact_mod_cast hvalue
  rw [hpoint, hcast, zpow_add₀ (by norm_num), zpow_natCast, mul_assoc]

/-- Reading the numeral of a number finds the number. -/
theorem ofDecimal_ofNumber (hm : 0 < m) (hnormal : IsNormal m e) (negative : Bool) :
    ofDecimal negative (ofNumber m e).mantissa (ofNumber m e).exponent = .finite negative m e :=
  ofDecimal_shortestDecimal negative hm hnormal (value_ofNumber hm hnormal)

end Numeral

/-- The text of a number is its sign and its numeral. -/
theorem toList_text {m : Nat} {e : Int} (hm : 0 < m) (hnormal : IsNormal m e) (negative : Bool) :
    (Binary64.finite negative m e).text.toList =
      (if negative then ['-'] else []) ++ (Numeral.ofNumber m e).chars := by
  have hdigits := Numeral.isLeading_shortest hm hnormal
  unfold Binary64.text Numeral.ofNumber
  dsimp only
  rw [if_neg hm.ne', String.toList_ofList]
  congr 1
  split
  · rw [Numeral.chars_positional hdigits.ne_nil]
  · rw [Numeral.chars_scientific hdigits.ne_nil]

end PromptTemplates.Number
