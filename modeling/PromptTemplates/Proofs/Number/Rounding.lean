import Mathlib.Algebra.Order.Field.Power
import Mathlib.Tactic.FieldSimp
import Mathlib.Tactic.Linarith
import Mathlib.Tactic.Positivity
import Mathlib.Tactic.Ring
import PromptTemplates.Number.Binary64

/-!
# Rounding to the nearest number

What floating-point numbers stand for are rational numbers. Rounding a quotient finds the number whose
interval it lies in: the interval reaches half way to the neighbours, and its ends belong to the number
with the even mantissa. The numbers that rounding makes have one form for each value.
-/

namespace PromptTemplates.Number

open Binary64

/-! ## Values as rationals -/

theorem cast_twoTo (n : Nat) : (twoTo n : ℚ) = 2 ^ n := by
  unfold twoTo
  exact_mod_cast rfl

theorem cast_tenTo (n : Nat) : (tenTo n : ℚ) = 10 ^ n := by
  unfold tenTo
  exact_mod_cast rfl

theorem zpow_of_nonneg {b : ℚ} {e : Int} (h : 0 ≤ e) : b ^ e = b ^ e.toNat := by
  obtain ⟨n, rfl⟩ := Int.eq_ofNat_of_zero_le h
  simp

theorem zpow_of_neg {b : ℚ} {e : Int} (h : ¬ 0 ≤ e) : b ^ e = (b ^ (-e).toNat)⁻¹ := by
  have hneg : 0 ≤ -e := by omega
  rw [← zpow_of_nonneg hneg, zpow_neg, inv_inv]

/-- The rational number of a numerator and a denominator. -/
def quotient (parts : Nat × Nat) : ℚ := parts.1 / parts.2

theorem scaleDown_den_pos {num den : Nat} (hden : 0 < den) (e : Int) : 0 < (scaleDown num den e).2 := by
  unfold scaleDown
  split
  · exact Nat.mul_pos hden (Nat.pow_pos (by decide))
  · exact hden

theorem quotient_scaleDown (num den : Nat) (e : Int) :
    quotient (scaleDown num den e) = (num : ℚ) / den / 2 ^ e := by
  unfold quotient scaleDown
  split
  · next h =>
    rw [zpow_of_nonneg h, div_div, Nat.cast_mul, cast_twoTo]
  · next h =>
    rw [zpow_of_neg h, Nat.cast_mul, cast_twoTo, div_inv_eq_mul, mul_div_right_comm]

theorem magnitude_den_pos (m : Nat) (e : Int) : 0 < (magnitude m e).2 := by
  unfold magnitude
  split
  · exact Nat.one_pos
  · exact Nat.pow_pos (by decide)

theorem quotient_magnitude (m : Nat) (e : Int) : quotient (magnitude m e) = m * 2 ^ e := by
  unfold quotient magnitude
  split
  · next h => simp [zpow_of_nonneg h, cast_twoTo]
  · next h => simp [zpow_of_neg h, cast_twoTo, div_eq_mul_inv]

/-! ## The nearest natural number -/

/-- A quotient that is at most one half away from a natural number rounds to it, if it is not between
that and an even one. -/
theorem roundDivEven_eq {a b m : Nat} (hb : 0 < b) (hlower : 2 * m * b ≤ 2 * a + b)
    (hupper : 2 * a ≤ (2 * m + 1) * b)
    (htie : 2 * m * b = 2 * a + b ∨ 2 * a = (2 * m + 1) * b → m % 2 = 0) :
    roundDivEven a b = m := by
  have hdivision := Nat.div_add_mod a b
  have hremainder := Nat.mod_lt a hb
  unfold roundDivEven
  generalize a / b = q at hdivision
  generalize a % b = r at hdivision hremainder
  have hq : m = q ∨ m = q + 1 := by
    have hle : m ≤ q + 1 := by
      by_contra hlt
      have : (q + 2) * b ≤ m * b := Nat.mul_le_mul_right b (by omega)
      nlinarith
    have hge : q ≤ m := by
      by_contra hlt
      have : (m + 1) * b ≤ q * b := Nat.mul_le_mul_right b (by omega)
      nlinarith
    omega
  rcases hq with rfl | rfl
  · have hhalf : 2 * r ≤ b := by nlinarith
    have htie : 2 * r = b → m % 2 = 0 := fun h => htie (.inr (by nlinarith))
    dsimp only
    split_ifs <;> first | rfl | omega
  · have hhalf : b ≤ 2 * r := by nlinarith
    have htie : 2 * r = b → (q + 1) % 2 = 0 := fun h => htie (.inl (by nlinarith))
    dsimp only
    split_ifs <;> first | rfl | omega

/-- Rounding does not go below a natural number that the quotient reaches, nor above one that it stays
below. -/
theorem roundDivEven_bounds (a b : Nat) :
    a / b ≤ roundDivEven a b ∧ roundDivEven a b ≤ a / b + 1 := by
  unfold roundDivEven
  dsimp only
  split_ifs <;> omega

/-! ## The exponent -/

theorem two_zpow_pos (e : Int) : (0 : ℚ) < 2 ^ e := zpow_pos (by norm_num) e

/-- The exponent at which a number has 53 bits before the point is the only one. -/
theorem exponent_unique {x : ℚ} {e e' : Int} (hlower : 2 ^ 52 * 2 ^ e ≤ x) (hupper : x < 2 ^ 53 * 2 ^ e)
    (hlower' : 2 ^ 52 * 2 ^ e' ≤ x) (hupper' : x < 2 ^ 53 * 2 ^ e') : e = e' := by
  have hstep (e : Int) : (2 : ℚ) ^ 53 * 2 ^ e = 2 ^ 52 * 2 ^ (e + 1) := by
    rw [zpow_add_one₀ (by norm_num)]
    ring
  have hle {e e' : Int} (hlower : 2 ^ 52 * 2 ^ e ≤ x) (hupper : x < 2 ^ 53 * 2 ^ e') : e ≤ e' := by
    rw [hstep] at hupper
    have hlt : (2 : ℚ) ^ e < 2 ^ (e' + 1) := by
      have := hlower.trans_lt hupper
      linarith
    have := (zpow_lt_zpow_iff_right₀ (by norm_num : (1 : ℚ) < 2)).mp hlt
    omega
  have h := hle hlower hupper'
  have h' := hle hlower' hupper
  omega

/-- The logarithms of numerator and denominator tell that of the quotient up to one. -/
theorem quotient_bounds {num den : Nat} (hnum : 0 < num) (hden : 0 < den) :
    (2 : ℚ) ^ ((Nat.log2 num : Int) - Nat.log2 den - 1) ≤ (num : ℚ) / den ∧
      (num : ℚ) / den < 2 ^ ((Nat.log2 num : Int) - Nat.log2 den + 1) := by
  have hnumLower : (2 : ℚ) ^ Nat.log2 num ≤ num := by
    exact_mod_cast Nat.log2_self_le hnum.ne'
  have hnumUpper : (num : ℚ) < 2 ^ (Nat.log2 num + 1) := by
    exact_mod_cast Nat.lt_log2_self
  have hdenLower : (2 : ℚ) ^ Nat.log2 den ≤ den := by
    exact_mod_cast Nat.log2_self_le hden.ne'
  have hdenUpper : (den : ℚ) < 2 ^ (Nat.log2 den + 1) := by
    exact_mod_cast Nat.lt_log2_self
  have hpos : (0 : ℚ) < den := by exact_mod_cast hden
  have htwo : (2 : ℚ) ≠ 0 := by norm_num
  constructor
  · rw [le_div_iff₀ hpos]
    calc (2 : ℚ) ^ ((Nat.log2 num : Int) - Nat.log2 den - 1) * den
        ≤ 2 ^ ((Nat.log2 num : Int) - Nat.log2 den - 1) * 2 ^ ((Nat.log2 den : Int) + 1) := by
          apply mul_le_mul_of_nonneg_left _ (two_zpow_pos _).le
          exact_mod_cast hdenUpper.le
      _ = 2 ^ (Nat.log2 num : Int) := by
          rw [← zpow_add₀ htwo]
          congr 1
          omega
      _ ≤ num := by exact_mod_cast hnumLower
  · rw [div_lt_iff₀ hpos]
    calc (num : ℚ) < 2 ^ ((Nat.log2 num : Int) + 1) := by exact_mod_cast hnumUpper
      _ = 2 ^ ((Nat.log2 num : Int) - Nat.log2 den + 1) * 2 ^ (Nat.log2 den : Int) := by
          rw [← zpow_add₀ htwo]
          congr 1
          omega
      _ ≤ 2 ^ ((Nat.log2 num : Int) - Nat.log2 den + 1) * den := by
          apply mul_le_mul_of_nonneg_left _ (two_zpow_pos _).le
          exact_mod_cast hdenLower

theorem div_lt_iff_quotient_lt {parts : Nat × Nat} (hden : 0 < parts.2) (n : Nat) :
    parts.1 / parts.2 < n ↔ quotient parts < n := by
  unfold quotient
  rw [Nat.div_lt_iff_lt_mul hden, div_lt_iff₀ (by exact_mod_cast hden)]
  exact_mod_cast Iff.rfl

theorem exponentOf_spec {num den : Nat} (hnum : 0 < num) (hden : 0 < den) :
    ∃ e, 2 ^ 52 * 2 ^ e ≤ (num : ℚ) / den ∧ (num : ℚ) / den < 2 ^ 53 * 2 ^ e ∧
      exponentOf num den = max e minExponent := by
  obtain ⟨hlower, hupper⟩ := quotient_bounds hnum hden
  have hlarge : (2 : ℚ) ^ ((Nat.log2 num : Int) - Nat.log2 den - 1) =
      2 ^ 52 * 2 ^ ((Nat.log2 num : Int) - Nat.log2 den - 52 - 1) := by
    rw [← zpow_natCast, ← zpow_add₀ (by norm_num)]
    congr 1
    omega
  have hsmall : (2 : ℚ) ^ ((Nat.log2 num : Int) - Nat.log2 den + 1) =
      2 ^ 53 * 2 ^ ((Nat.log2 num : Int) - Nat.log2 den - 52) := by
    rw [← zpow_natCast, ← zpow_add₀ (by norm_num)]
    congr 1
    omega
  rw [hlarge] at hlower
  rw [hsmall] at hupper
  unfold exponentOf
  generalize (Nat.log2 num : Int) - Nat.log2 den - 52 = guess at hlower hupper
  have hparts : 0 < (scaleDown num den guess).2 := scaleDown_den_pos hden guess
  have hscaled := div_lt_iff_quotient_lt hparts (twoTo 52)
  rw [quotient_scaleDown, cast_twoTo, div_lt_iff₀ (two_zpow_pos guess)] at hscaled
  dsimp only
  by_cases hshort : (scaleDown num den guess).1 / (scaleDown num den guess).2 < twoTo 52
  · refine ⟨guess - 1, hlower, ?_, by rw [if_pos hshort]⟩
    have hless := hscaled.mp hshort
    have hstep : (2 : ℚ) ^ 53 * 2 ^ (guess - 1) = 2 ^ 52 * 2 ^ guess := by
      rw [zpow_sub_one₀ (by norm_num)]
      ring
    rwa [hstep]
  · refine ⟨guess, ?_, hupper, by rw [if_neg hshort]⟩
    exact not_lt.mp (mt hscaled.mpr hshort)

theorem exponentOf_eq {num den : Nat} {e : Int} (hnum : 0 < num) (hden : 0 < den)
    (hlower : 2 ^ 52 * 2 ^ e ≤ (num : ℚ) / den) (hupper : (num : ℚ) / den < 2 ^ 53 * 2 ^ e) :
    exponentOf num den = max e minExponent := by
  obtain ⟨e', hlower', hupper', heq⟩ := exponentOf_spec hnum hden
  rw [heq, exponent_unique hlower hupper hlower' hupper']

/-! ## Rounding a quotient -/

/-- Mantissa and exponent of a number in its one form. -/
structure IsNormal (m : Nat) (e : Int) : Prop where
  mantissa : m < 2 ^ 53
  least : minExponent ≤ e
  greatest : e ≤ maxExponent
  full : 2 ^ 52 ≤ m ∨ e = minExponent

/-- A number in its one form. -/
def Binary64.IsCanonical : Binary64 → Prop
  | .finite _ m e => IsNormal m e ∧ (m = 0 → e = minExponent)
  | _ => True

/-- The lower end of the interval of a number, in units of its last place. -/
def lowerEnd (m : Nat) (e : Int) : ℚ :=
  if m = 2 ^ 52 ∧ minExponent < e then m - 1 / 4 else m - 1 / 2

/-- A rational number lies in the interval of a number. -/
structure RoundsTo (x : ℚ) (m : Nat) (e : Int) : Prop where
  lower : lowerEnd m e * 2 ^ e ≤ x
  upper : x ≤ (m + 1 / 2) * 2 ^ e
  tie : x = lowerEnd m e * 2 ^ e ∨ x = (m + 1 / 2) * 2 ^ e → m % 2 = 0

/-- Rounding at an exponent, for a number of the interval around a natural number. -/
theorem roundDivEven_scaleDown {num den m : Nat} {e : Int} (hden : 0 < den)
    (hlower : (m - 1 / 2) * 2 ^ e ≤ (num : ℚ) / den) (hupper : (num : ℚ) / den ≤ (m + 1 / 2) * 2 ^ e)
    (htie : (num : ℚ) / den = (m - 1 / 2) * 2 ^ e ∨ (num : ℚ) / den = (m + 1 / 2) * 2 ^ e →
      m % 2 = 0) :
    roundDivEven (scaleDown num den e).1 (scaleDown num den e).2 = m := by
  have hpos := two_zpow_pos e
  have hscaled := quotient_scaleDown num den e
  have hparts : 0 < (scaleDown num den e).2 := scaleDown_den_pos hden e
  unfold quotient at hscaled
  generalize (scaleDown num den e).1 = a at *
  generalize (scaleDown num den e).2 = b at *
  have hb : (0 : ℚ) < b := by exact_mod_cast hparts
  have hvalue : (num : ℚ) / den = a / b * 2 ^ e := by
    rw [hscaled, div_mul_cancel₀ _ hpos.ne']
  rw [hvalue] at hlower hupper htie
  rw [mul_le_mul_iff_left₀ hpos] at hlower hupper
  rw [mul_left_inj' hpos.ne', mul_left_inj' hpos.ne'] at htie
  rw [le_div_iff₀ hb] at hlower
  rw [div_le_iff₀ hb] at hupper
  rw [div_eq_iff hb.ne', div_eq_iff hb.ne'] at htie
  apply roundDivEven_eq hparts
  · have h : (2 * m * b : ℚ) ≤ 2 * a + b := by linarith
    exact_mod_cast h
  · have h : (2 * a : ℚ) ≤ (2 * m + 1) * b := by linarith
    exact_mod_cast h
  · intro h
    apply htie
    rcases h with h | h
    · have h : (2 * m * b : ℚ) = 2 * a + b := by exact_mod_cast h
      exact .inl (by linarith)
    · have h : (2 * a : ℚ) = (2 * m + 1) * b := by exact_mod_cast h
      exact .inr (by linarith)

theorem twoTo_eq (n : Nat) : twoTo n = 2 ^ n := rfl

/-- Rounding at the exponent of a quotient, when the mantissa keeps its 53 bits. -/
theorem ofRatio_of_rounded {num den m : Nat} {e : Int} (negative : Bool) (hnum : 0 < num)
    (hexponent : exponentOf num den = e)
    (hrounded : roundDivEven (scaleDown num den e).1 (scaleDown num den e).2 = m)
    (hm : m < 2 ^ 53) (he : e ≤ maxExponent) : ofRatio negative num den = .finite negative m e := by
  unfold ofRatio
  rw [if_neg hnum.ne', hexponent]
  dsimp only
  have hne : m ≠ twoTo 53 := hm.ne
  rw [hrounded, if_neg hne]
  exact if_neg (not_lt.mpr he)

/-- Rounding at the exponent of a quotient, when the mantissa gets one bit more. -/
theorem ofRatio_of_carry {num den : Nat} {e : Int} (negative : Bool) (hnum : 0 < num)
    (hexponent : exponentOf num den = e - 1)
    (hrounded : roundDivEven (scaleDown num den (e - 1)).1 (scaleDown num den (e - 1)).2 = 2 ^ 53)
    (he : e ≤ maxExponent) : ofRatio negative num den = .finite negative (2 ^ 52) e := by
  unfold ofRatio
  rw [if_neg hnum.ne', hexponent]
  dsimp only
  rw [hrounded, if_pos (twoTo_eq 53).symm, sub_add_cancel]
  exact if_neg (not_lt.mpr he)

theorem lowerEnd_ge (m : Nat) (e : Int) : (m - 1 / 2 : ℚ) ≤ lowerEnd m e := by
  unfold lowerEnd
  split <;> linarith

variable {num den m : Nat} {e : Int} {x : ℚ}

/-- The interval of a number lies within half a unit of its last place. -/
theorem RoundsTo.half_le (h : RoundsTo x m e) : (m - 1 / 2) * 2 ^ e ≤ x :=
  (mul_le_mul_of_nonneg_right (lowerEnd_ge m e) (two_zpow_pos e).le).trans h.lower

theorem RoundsTo.tie_half (h : RoundsTo x m e)
    (htie : x = (m - 1 / 2) * 2 ^ e ∨ x = (m + 1 / 2) * 2 ^ e) : m % 2 = 0 := by
  rcases htie with htie | htie
  · by_cases hpower : m = 2 ^ 52 ∧ minExponent < e
    · rw [hpower.1]
      decide
    · apply h.tie
      left
      rw [htie, lowerEnd, if_neg hpower]
  · exact h.tie (.inr htie)

theorem RoundsTo.rounded (hden : 0 < den) (h : RoundsTo ((num : ℚ) / den) m e) :
    roundDivEven (scaleDown num den e).1 (scaleDown num den e).2 = m :=
  roundDivEven_scaleDown hden h.half_le h.upper h.tie_half

/-- Below the least number with 53 bits, a number of the least exponent stays at that exponent. -/
theorem exponentOf_of_lt (hnum : 0 < num) (hden : 0 < den)
    (h : (num : ℚ) / den < 2 ^ 52 * 2 ^ minExponent) : exponentOf num den = minExponent := by
  obtain ⟨e, hlower, -, heq⟩ := exponentOf_spec hnum hden
  have hlt : (2 : ℚ) ^ e < 2 ^ minExponent := by
    have := hlower.trans_lt h
    linarith
  rw [heq, max_eq_right]
  exact ((zpow_lt_zpow_iff_right₀ (by norm_num : (1 : ℚ) < 2)).mp hlt).le

/-- A number whose interval reaches below all numbers of 53 bits at its exponent is a power of two. -/
theorem RoundsTo.mantissa_of_lt {x : ℚ} (h : RoundsTo x m e) (hnormal : IsNormal m e)
    (hleast : e ≠ minExponent) (hx : x < 2 ^ 52 * 2 ^ e) : m = 2 ^ 52 := by
  have hpos := two_zpow_pos e
  have hfull := hnormal.full.resolve_right hleast
  by_contra hne
  have hlarger : 2 ^ 52 + 1 ≤ m := by omega
  have hlarger : (2 : ℚ) ^ 52 + 1 ≤ m := by exact_mod_cast hlarger
  have hlower := h.half_le
  nlinarith

/-- Rounding finds the number in whose interval a quotient lies. -/
theorem ofRatio_eq (negative : Bool) (hnum : 0 < num) (hden : 0 < den) (hnormal : IsNormal m e)
    (h : RoundsTo ((num : ℚ) / den) m e) : ofRatio negative num den = .finite negative m e := by
  have hpos := two_zpow_pos e
  have hm : (m : ℚ) ≤ 2 ^ 53 - 1 := by
    have : m + 1 ≤ 2 ^ 53 := hnormal.mantissa
    have : (m : ℚ) + 1 ≤ 2 ^ 53 := by exact_mod_cast this
    linarith
  by_cases hlarge : 2 ^ 52 * 2 ^ e ≤ (num : ℚ) / den
  · have hsmall : (num : ℚ) / den < 2 ^ 53 * 2 ^ e := by
      have := h.upper
      nlinarith
    have hexponent : exponentOf num den = e := by
      rw [exponentOf_eq hnum hden hlarge hsmall, max_eq_left hnormal.least]
    exact ofRatio_of_rounded negative hnum hexponent (h.rounded hden) hnormal.mantissa hnormal.greatest
  · rw [not_le] at hlarge
    by_cases hleast : e = minExponent
    · subst hleast
      exact ofRatio_of_rounded negative hnum (exponentOf_of_lt hnum hden hlarge) (h.rounded hden)
        hnormal.mantissa hnormal.greatest
    · -- The quotient lies between the number, a power of two, and the one below it.
      have hpower : m = 2 ^ 52 := h.mantissa_of_lt hnormal hleast hlarge
      have hlt : minExponent < e := lt_of_le_of_ne hnormal.least (Ne.symm hleast)
      have hhalf : (2 : ℚ) ^ e = 2 * 2 ^ (e - 1) := by
        rw [zpow_sub_one₀ (by norm_num)]
        ring
      have hpos' := two_zpow_pos (e - 1)
      have hlower := h.lower
      rw [lowerEnd, if_pos ⟨hpower, hlt⟩, hpower, hhalf] at hlower
      rw [hhalf] at hlarge
      push_cast at hlower
      have hexponent : exponentOf num den = e - 1 := by
        rw [exponentOf_eq hnum hden (e := e - 1) (by nlinarith) (by nlinarith), max_eq_left]
        omega
      have hrounded : roundDivEven (scaleDown num den (e - 1)).1 (scaleDown num den (e - 1)).2 =
          2 ^ 53 := by
        apply roundDivEven_scaleDown hden
        · push_cast
          nlinarith
        · push_cast
          nlinarith
        · intro _
          decide
      rw [hpower]
      exact ofRatio_of_carry negative hnum hexponent hrounded hnormal.greatest

/-- The quotient at its exponent has at most 53 bits before the point, and as many if the exponent is not
the least one. -/
theorem div_scaleDown_bounds (hnum : 0 < num) (hden : 0 < den) (hexponent : exponentOf num den = e) :
    (scaleDown num den e).1 / (scaleDown num den e).2 < 2 ^ 53 ∧ minExponent ≤ e ∧
      (2 ^ 52 ≤ (scaleDown num den e).1 / (scaleDown num den e).2 ∨ e = minExponent) := by
  obtain ⟨place, hlower, hupper, heq⟩ := exponentOf_spec hnum hden
  have hparts : 0 < (scaleDown num den e).2 := scaleDown_den_pos hden e
  have hle : place ≤ e := by omega
  have hmono : (2 : ℚ) ^ place ≤ 2 ^ e := zpow_le_zpow_right₀ (by norm_num) hle
  refine ⟨?_, by omega, ?_⟩
  · rw [div_lt_iff_quotient_lt hparts, quotient_scaleDown, div_lt_iff₀ (two_zpow_pos e)]
    push_cast
    nlinarith
  · by_cases hleast : e = minExponent
    · exact .inr hleast
    · have hplace : place = e := by omega
      subst hplace
      left
      rw [← not_lt, div_lt_iff_quotient_lt hparts, quotient_scaleDown, div_lt_iff₀ (two_zpow_pos place),
        not_lt]
      exact_mod_cast hlower

theorem isCanonical_zero (negative : Bool) : (zero negative).IsCanonical :=
  ⟨⟨by decide, le_refl _, by decide, .inr rfl⟩, fun _ => rfl⟩

/-- Rounding makes numbers in their one form. -/
theorem isCanonical_ofRatio (negative : Bool) (num : Nat) (hden : 0 < den) :
    (ofRatio negative num den).IsCanonical := by
  by_cases hnum : num = 0
  · rw [ofRatio, if_pos hnum]
    exact isCanonical_zero negative
  obtain ⟨hshort, hleast, hfull⟩ := div_scaleDown_bounds (Nat.pos_of_ne_zero hnum) hden rfl
  obtain ⟨hlower, hupper⟩ := roundDivEven_bounds (scaleDown num den (exponentOf num den)).1
    (scaleDown num den (exponentOf num den)).2
  unfold ofRatio
  rw [if_neg hnum]
  dsimp only
  generalize exponentOf num den = e at *
  generalize roundDivEven (scaleDown num den e).1 (scaleDown num den e).2 = m at *
  by_cases hcarry : m = twoTo 53
  · rw [if_pos hcarry]
    dsimp only
    split
    · trivial
    next hgreatest =>
    refine ⟨⟨by decide, by omega, not_lt.mp hgreatest, .inl (le_refl _)⟩, ?_⟩
    intro h
    cases h
  · rw [if_neg hcarry]
    dsimp only
    split
    · trivial
    next hgreatest =>
    rw [twoTo_eq] at hcarry
    refine ⟨⟨by omega, hleast, not_lt.mp hgreatest, ?_⟩, ?_⟩
    · rcases hfull with hfull | hfull
      · exact .inl (hfull.trans hlower)
      · exact .inr hfull
    · rintro rfl
      rcases hfull with hfull | hfull
      · omega
      · exact hfull

theorem isCanonical_ofQuotient (num : Int) (hden : 0 < den) : (ofQuotient num den).IsCanonical :=
  isCanonical_ofRatio _ _ hden

/-! ## Arithmetic -/

section arithmetic

variable {a b : Binary64}

theorem Binary64.IsCanonical.neg (ha : a.IsCanonical) : a.neg.IsCanonical := by
  cases a with
  | finite negative m e => exact ha
  | _ => trivial

theorem den_pos_of_toRatio? {n : Int} (h : a.toRatio? = some (n, den)) : 0 < den := by
  cases a with
  | finite negative m e =>
    cases h
    exact magnitude_den_pos m e
  | _ => cases h

theorem Binary64.IsCanonical.add (ha : a.IsCanonical) (hb : b.IsCanonical) : (a.add b).IsCanonical := by
  unfold Binary64.add
  split
  · next hfirst hsecond =>
    exact isCanonical_ofQuotient _ (Nat.mul_pos (den_pos_of_toRatio? hfirst) (den_pos_of_toRatio? hsecond))
  · exact ha
  · exact hb

theorem Binary64.IsCanonical.scale (ha : a.IsCanonical) (k : Nat) : (Binary64.scale k a).IsCanonical := by
  unfold Binary64.scale
  split
  · next h => exact isCanonical_ofQuotient _ (den_pos_of_toRatio? h)
  · exact ha

end arithmetic

theorem isCanonical_ofDecimal (negative : Bool) (digits : Nat) (exponent : Int) :
    (ofDecimal negative digits exponent).IsCanonical := by
  unfold ofDecimal
  dsimp only
  split_ifs
  · exact isCanonical_zero negative
  · trivial
  · exact isCanonical_zero negative
  · exact isCanonical_ofRatio negative _ Nat.one_pos
  · exact isCanonical_ofRatio negative _ (Nat.pow_pos (by decide))

/-! ## Values -/

/-- A number lies in its own interval. -/
theorem roundsTo_value (m : Nat) (e : Int) : RoundsTo (m * 2 ^ e) m e := by
  have hpos := two_zpow_pos e
  have hlower : lowerEnd m e < m := by
    unfold lowerEnd
    split <;> linarith
  have hlt := mul_lt_mul_of_pos_right hlower hpos
  have hgt : (m * 2 ^ e : ℚ) < (m + 1 / 2) * 2 ^ e := by
    apply mul_lt_mul_of_pos_right _ hpos
    linarith
  refine ⟨hlt.le, hgt.le, ?_⟩
  rintro (h | h)
  · exact absurd h hlt.ne'
  · exact absurd h hgt.ne

theorem magnitude_num_pos (hm : 0 < m) (e : Int) : 0 < (magnitude m e).1 := by
  unfold magnitude
  split
  · exact Nat.mul_pos hm (Nat.pow_pos (by decide))
  · exact hm

/-- A number of its one form is the one that its value rounds to. -/
theorem ofRatio_magnitude (negative : Bool) (hm : 0 < m) (hnormal : IsNormal m e) :
    ofRatio negative (magnitude m e).1 (magnitude m e).2 = .finite negative m e := by
  apply ofRatio_eq negative (magnitude_num_pos hm e) (magnitude_den_pos m e) hnormal
  rw [← quotient, quotient_magnitude]
  exact roundsTo_value m e

/-- Numbers of their one form that have the same value are the same. -/
theorem normal_unique {m' : Nat} {e' : Int} (hm : 0 < m) (hnormal : IsNormal m e)
    (hnormal' : IsNormal m' e') (hvalue : (m * 2 ^ e : ℚ) = m' * 2 ^ e') : m = m' ∧ e = e' := by
  have hfirst := ofRatio_magnitude false hm hnormal
  have hsecond : ofRatio false (magnitude m e).1 (magnitude m e).2 = .finite false m' e' := by
    apply ofRatio_eq false (magnitude_num_pos hm e) (magnitude_den_pos m e) hnormal'
    rw [← quotient, quotient_magnitude, hvalue]
    exact roundsTo_value m' e'
  rw [hfirst] at hsecond
  injection hsecond with _ hm' he'
  exact ⟨hm', he'⟩

end PromptTemplates.Number
