import Mathlib.Algebra.Order.Floor.Semifield
import Mathlib.Data.Rat.Floor
import PromptTemplates.Number.Shortest
import PromptTemplates.Proofs.Number.Rounding

/-!
# The shortest decimal reads back

The shortest decimal of a number is searched for among the points of decimal grids, from coarse to fine.
A point that is found lies in the interval of the number, and a grid that is at most half as wide as the
last place of the number has one, so the search never ends in vain. What reads a decimal then finds the
number again.
-/

namespace PromptTemplates.Number

open Binary64

variable {m a b d : Nat} {e s : Int} {x : ℚ}

/-! ## The interval over one denominator -/

theorem quotient_onGrid (d : Nat) (s : Int) : quotient (onGrid d s) = d * 10 ^ s := by
  unfold quotient onGrid
  split
  · next h => simp [zpow_of_nonneg h, cast_tenTo]
  · next h => simp [zpow_of_neg h, cast_tenTo, div_eq_mul_inv]

theorem onGrid_den_pos (d : Nat) (s : Int) : 0 < (onGrid d s).2 := by
  unfold onGrid
  split
  · exact Nat.one_pos
  · exact Nat.pow_pos (by decide)

theorem onGrid_num_pos (hd : 0 < d) (s : Int) : 0 < (onGrid d s).1 := by
  unfold onGrid
  split
  · exact Nat.mul_pos hd (Nat.pow_pos (by decide))
  · exact hd

theorem ten_zpow_pos (s : Int) : (0 : ℚ) < 10 ^ s := zpow_pos (by norm_num) s

/-- The numerator of a number is that of its unit, as often as the mantissa says. -/
theorem magnitude_eq (m : Nat) (e : Int) :
    magnitude m e = (m * (magnitude 1 e).1, (magnitude 1 e).2) := by
  unfold magnitude
  split <;> simp

theorem magnitude_one (e : Int) : ((magnitude 1 e).1 : ℚ) = 2 ^ e * (magnitude 1 e).2 := by
  have hpos : ((magnitude 1 e).2 : ℚ) ≠ 0 := by
    exact_mod_cast (magnitude_den_pos 1 e).ne'
  have h := quotient_magnitude 1 e
  rw [quotient, div_eq_iff hpos] at h
  rw [h]
  simp

namespace RoundingInterval

theorem of_den (m : Nat) (e : Int) : (of m e).den = 4 * (magnitude 1 e).2 := by
  unfold of
  rw [magnitude_eq]

theorem of_den_pos (m : Nat) (e : Int) : 0 < (of m e).den := by
  rw [of_den]
  exact Nat.mul_pos (by decide) (magnitude_den_pos 1 e)

theorem of_value (m : Nat) (e : Int) : ((of m e).value : ℚ) = m * 2 ^ e * (of m e).den := by
  rw [of_den]
  unfold of
  rw [magnitude_eq]
  push_cast
  rw [magnitude_one]
  ring

theorem of_upper (m : Nat) (e : Int) : ((of m e).upper : ℚ) = (m + 1 / 2) * 2 ^ e * (of m e).den := by
  rw [of_den]
  unfold of
  rw [magnitude_eq]
  push_cast
  rw [magnitude_one]
  ring

theorem of_lower (hm : 0 < m) (e : Int) :
    ((of m e).lower : ℚ) = lowerEnd m e * 2 ^ e * (of m e).den := by
  have hunit : 2 * (magnitude 1 e).1 ≤ 4 * m * (magnitude 1 e).1 :=
    Nat.mul_le_mul_right _ (by omega)
  rw [of_den]
  unfold of lowerEnd
  rw [magnitude_eq (4 * m), twoTo_eq]
  by_cases hpower : m = 2 ^ 52 ∧ minExponent < e
  · simp only [if_pos hpower]
    rw [Nat.cast_sub (by omega)]
    push_cast
    rw [magnitude_one]
    ring
  · simp only [if_neg hpower]
    rw [Nat.cast_sub hunit]
    push_cast
    rw [magnitude_one]
    ring

/-- A quotient is held exactly if it rounds to the number. -/
theorem holds_iff (hm : 0 < m) (hb : 0 < b) :
    (of m e).holds a b = true ↔ RoundsTo ((a : ℚ) / b) m e := by
  have hb : (0 : ℚ) < b := by exact_mod_cast hb
  have hden : (0 : ℚ) < (of m e).den := by exact_mod_cast of_den_pos m e
  have hlower : (of m e).lower * b ≤ a * (of m e).den ↔ lowerEnd m e * 2 ^ e ≤ (a : ℚ) / b := by
    rw [le_div_iff₀ hb, ← mul_le_mul_iff_left₀ hden, mul_right_comm, ← of_lower hm]
    exact_mod_cast Iff.rfl
  have hlower' : (of m e).lower * b < a * (of m e).den ↔ lowerEnd m e * 2 ^ e < (a : ℚ) / b := by
    rw [lt_div_iff₀ hb, ← mul_lt_mul_iff_left₀ hden, mul_right_comm, ← of_lower hm]
    exact_mod_cast Iff.rfl
  have hupper : a * (of m e).den ≤ (of m e).upper * b ↔ (a : ℚ) / b ≤ (m + 1 / 2) * 2 ^ e := by
    rw [div_le_iff₀ hb, ← mul_le_mul_iff_left₀ hden, mul_right_comm _ (b : ℚ), ← of_upper]
    exact_mod_cast Iff.rfl
  have hupper' : a * (of m e).den < (of m e).upper * b ↔ (a : ℚ) / b < (m + 1 / 2) * 2 ^ e := by
    rw [div_lt_iff₀ hb, ← mul_lt_mul_iff_left₀ hden, mul_right_comm _ (b : ℚ), ← of_upper]
    exact_mod_cast Iff.rfl
  have hclosed : (of m e).closed = decide (m % 2 = 0) := rfl
  unfold holds
  rw [hclosed]
  dsimp only
  by_cases heven : m % 2 = 0
  · simp only [heven, decide_true, if_true, Bool.and_eq_true, decide_eq_true_eq]
    rw [hlower, hupper]
    exact ⟨fun h => ⟨h.1, h.2, fun _ => heven⟩, fun h => ⟨h.lower, h.upper⟩⟩
  · simp only [heven, decide_false, Bool.false_eq_true, if_false, Bool.and_eq_true, decide_eq_true_eq]
    rw [hlower', hupper']
    constructor
    · rintro ⟨hl, hu⟩
      refine ⟨hl.le, hu.le, ?_⟩
      rintro (h | h)
      · exact absurd h hl.ne'
      · exact absurd h hu.ne
    · intro h
      exact ⟨lt_of_le_of_ne h.lower fun heq => heven (h.tie (.inl heq.symm)),
        lt_of_le_of_ne h.upper fun heq => heven (h.tie (.inr heq))⟩

/-! ## The points of a grid -/

theorem holds_onGrid_iff (hm : 0 < m) :
    (of m e).holds (onGrid d s).1 (onGrid d s).2 = true ↔ RoundsTo (d * 10 ^ s) m e := by
  rw [holds_iff hm (onGrid_den_pos d s), ← quotient, quotient_onGrid]

/-- The point at or below a number. -/
def low (i : RoundingInterval) (s : Int) : Nat :=
  i.value * (onGrid 1 s).2 / (i.den * (onGrid 1 s).1)

theorem low_eq (m : Nat) (e s : Int) : (of m e).low s = ⌊(m * 2 ^ e / 10 ^ s : ℚ)⌋₊ := by
  have hden : ((of m e).den : ℚ) ≠ 0 := by exact_mod_cast (of_den_pos m e).ne'
  have hstep : ((onGrid 1 s).2 : ℚ) ≠ 0 := by exact_mod_cast (onGrid_den_pos 1 s).ne'
  have hgrid := quotient_onGrid 1 s
  rw [quotient, div_eq_iff hstep, Nat.cast_one, one_mul] at hgrid
  unfold low
  rw [← Nat.floor_div_eq_div (K := ℚ), Nat.cast_mul, Nat.cast_mul, of_value, hgrid]
  congr 1
  field_simp

/-- A point that is found rounds to the number. -/
theorem roundsTo_of_hit? (hm : 0 < m) (h : (of m e).hit? s = some d) : RoundsTo (d * 10 ^ s) m e := by
  rw [← holds_onGrid_iff hm]
  unfold hit? at h
  dsimp only at h
  split at h
  · next hlow hhigh =>
    split_ifs at h <;> cases h <;> assumption
  · next hlow _ =>
    cases h
    exact hlow
  · next _ hhigh =>
    cases h
    exact hhigh
  · cases h

theorem exists_hit?_of_holds (h : (of m e).holds (onGrid ((of m e).low s) s).1
      (onGrid ((of m e).low s) s).2 = true ∨ (of m e).holds (onGrid ((of m e).low s + 1) s).1
      (onGrid ((of m e).low s + 1) s).2 = true) : ((of m e).hit? s).isSome := by
  unfold low at h
  unfold hit?
  dsimp only
  split
  · split_ifs <;> rfl
  · rfl
  · rfl
  · next hlow hhigh =>
    rw [hlow, hhigh] at h
    simp at h

/-- A grid that is at most half as wide as the last place of a number has a point that rounds to it. -/
theorem exists_hit? (hm : 0 < m) (hstep : (10 : ℚ) ^ s ≤ 2 ^ e / 2) : ((of m e).hit? s).isSome := by
  have hten := ten_zpow_pos s
  have htwo := two_zpow_pos e
  have hvalue : (0 : ℚ) ≤ m * 2 ^ e / 10 ^ s := by positivity
  apply exists_hit?_of_holds
  rw [holds_onGrid_iff hm, holds_onGrid_iff hm]
  have hfloor := Nat.floor_le hvalue
  have hceil := Nat.lt_floor_add_one (m * 2 ^ e / 10 ^ s : ℚ)
  rw [← low_eq, le_div_iff₀ hten] at hfloor
  rw [← low_eq, div_lt_iff₀ hten] at hceil
  generalize (of m e).low s = d at hfloor hceil ⊢
  rcases eq_or_lt_of_le hfloor with heq | hlt
  · left
    rw [heq]
    exact roundsTo_value m e
  · right
    have hlower : lowerEnd m e * 2 ^ e ≤ m * 2 ^ e := (roundsTo_value m e).lower
    push_cast
    have hupper : ((d : ℚ) + 1) * 10 ^ s < (m + 1 / 2) * 2 ^ e := by nlinarith
    refine ⟨(hlower.trans_lt hceil).le, hupper.le, ?_⟩
    rintro (h | h)
    · exact absurd h (hlower.trans_lt hceil).ne'
    · exact absurd h hupper.ne

/-- The search ends at the first grid that has a point. -/
theorem shortest_of_hit (i : RoundingInterval) (point : Int) (fuel digits : Nat)
    (h : ∃ k < fuel, (i.hit? (point - (digits + k : Nat))).isSome) :
    i.hit? (i.shortest point fuel digits).2 = some (i.shortest point fuel digits).1 := by
  induction fuel generalizing digits with
  | zero =>
    obtain ⟨k, hk, -⟩ := h
    omega
  | succ fuel ih =>
    rw [shortest]
    split
    · next d hd => exact hd
    · next hnone =>
      apply ih
      obtain ⟨k, hk, hhit⟩ := h
      cases k with
      | zero =>
        rw [Nat.add_zero, hnone] at hhit
        cases hhit
      | succ k =>
        refine ⟨k, by omega, ?_⟩
        rwa [Nat.add_right_comm, Nat.add_assoc]

end RoundingInterval

/-! ## How many digits are enough -/

theorem decimalLength_pos (n : Nat) : 0 < decimalLength n := by
  unfold decimalLength
  rw [← String.length_toList, Nat.toList_repr]
  exact Nat.length_toDigits_pos

theorem lt_pow_decimalLength (n : Nat) : n < 10 ^ decimalLength n :=
  (Nat.length_repr_le_iff (decimalLength_pos n)).mp (le_refl _)

theorem pow_decimalLength_le {n : Nat} (hn : 0 < n) : 10 ^ (decimalLength n - 1) ≤ n := by
  by_cases hone : decimalLength n = 1
  · rw [hone]
    exact hn
  · have hpos := decimalLength_pos n
    by_contra hlt
    have hlength := (Nat.length_repr_le_iff (by omega)).mpr (not_le.mp hlt)
    unfold decimalLength at *
    omega

theorem pow_decimalPoint_le {num den : Nat} (hnum : 0 < num) (hden : 0 < den) :
    (10 : ℚ) ^ (decimalPoint num den - 1) ≤ (num : ℚ) / den := by
  have hnum' : (0 : ℚ) < num := by exact_mod_cast hnum
  have hden' : (0 : ℚ) < den := by exact_mod_cast hden
  unfold decimalPoint
  split
  · next hle =>
    have hpos : 0 < num / den := Nat.div_pos hle hden
    have hlength := decimalLength_pos (num / den)
    have hpow := pow_decimalLength_le hpos
    rw [Nat.le_div_iff_mul_le hden] at hpow
    have hcast : ((decimalLength (num / den) : Int) - 1) = ((decimalLength (num / den) - 1 : Nat) : Int) := by
      omega
    rw [le_div_iff₀ hden', hcast, zpow_natCast]
    exact_mod_cast hpow
  · next hlt =>
    dsimp only
    split
    · next heq =>
      have hlength := decimalLength_pos (den / num)
      have hcast : (2 - (decimalLength (den / num) : Int) - 1) =
          -((decimalLength (den / num) - 1 : Nat) : Int) := by omega
      have heq : (num : ℚ) * 10 ^ (decimalLength (den / num) - 1) = den := by
        rw [← cast_tenTo]
        exact_mod_cast heq
      rw [hcast, zpow_neg, zpow_natCast, le_div_iff₀ hden', ← heq]
      apply le_of_eq
      field_simp
    · have hpow := lt_pow_decimalLength (den / num)
      rw [Nat.div_lt_iff_lt_mul hnum] at hpow
      have hcast : (1 - (decimalLength (den / num) : Int) - 1) = -(decimalLength (den / num) : Int) := by
        omega
      have hpow : (den : ℚ) < 10 ^ decimalLength (den / num) * num := by exact_mod_cast hpow
      rw [hcast, zpow_neg, zpow_natCast, le_div_iff₀ hden', inv_mul_le_iff₀ (by positivity)]
      exact hpow.le

/-- The shortest decimal of a number rounds to it. -/
theorem roundsTo_shortestDecimal (hm : 0 < m) (hnormal : IsNormal m e) :
    RoundsTo ((shortestDecimal m e).1 * 10 ^ (shortestDecimal m e).2) m e := by
  have hpoint := pow_decimalPoint_le (magnitude_num_pos hm e) (magnitude_den_pos m e)
  rw [← quotient, quotient_magnitude] at hpoint
  unfold shortestDecimal
  dsimp only
  generalize decimalPoint (magnitude m e).1 (magnitude m e).2 = point at hpoint
  apply RoundingInterval.roundsTo_of_hit? hm
  apply RoundingInterval.shortest_of_hit
  refine ⟨17, by decide, RoundingInterval.exists_hit? hm ?_⟩
  -- Of eighteen digits, the last place is at most half of the last binary place.
  have hten : (10 : ℚ) ^ (point - 1) = 10 ^ (point - (1 + 17 : Nat)) * 10 ^ 17 := by
    rw [← zpow_natCast, ← zpow_add₀ (by norm_num)]
    congr 1
    omega
  have hmantissa : (m : ℚ) < 2 ^ 53 := by exact_mod_cast hnormal.mantissa
  have htwo := two_zpow_pos e
  have hupper := mul_lt_mul_of_pos_right hmantissa htwo
  rw [hten] at hpoint
  generalize (10 : ℚ) ^ (point - (1 + 17 : Nat)) = step at hpoint ⊢
  generalize (2 : ℚ) ^ e = unit at htwo hpoint hupper ⊢
  linarith

theorem shortestDecimal_pos (hm : 0 < m) (hnormal : IsNormal m e) : 0 < (shortestDecimal m e).1 := by
  have h := (roundsTo_shortestDecimal hm hnormal).half_le
  by_contra hzero
  have hone : (1 : ℚ) ≤ m := by exact_mod_cast hm
  have htwo := two_zpow_pos e
  rw [Nat.eq_zero_of_not_pos hzero, Nat.cast_zero, zero_mul] at h
  nlinarith

/-! ## Reading a decimal -/

theorem two_pow_lt : (2 ^ 1075 : ℚ) < 10 ^ 400 :=
  calc (2 ^ 1075 : ℚ) ≤ 2 ^ (3 * 400) := pow_le_pow_right₀ one_le_two (by decide)
    _ = (2 ^ 3) ^ 400 := pow_mul 2 3 400
    _ < 10 ^ 400 := pow_lt_pow_left₀ (by norm_num) (by norm_num) (by decide)

theorem greatest_lt : (2 ^ 53 * 2 ^ maxExponent : ℚ) < 10 ^ 400 := by
  have hcast : (2 : ℚ) ^ maxExponent = 2 ^ 971 := zpow_ofNat 2 971
  rw [hcast, ← pow_add]
  exact (pow_le_pow_right₀ one_le_two (by decide)).trans_lt two_pow_lt

theorem least_gt : (2 * 2 ^ 1074 : ℚ) < 10 ^ 401 := by
  rw [← pow_succ']
  exact two_pow_lt.trans (pow_lt_pow_right₀ (by norm_num) (by decide))

theorem RoundsTo.lt_of_isNormal (h : RoundsTo x m e) (hnormal : IsNormal m e) : x < 10 ^ 400 := by
  have hmantissa : (m : ℚ) + 1 ≤ 2 ^ 53 := by exact_mod_cast hnormal.mantissa
  have htwo := two_zpow_pos e
  calc x ≤ (m + 1 / 2) * 2 ^ e := h.upper
    _ ≤ 2 ^ 53 * 2 ^ e := by nlinarith
    _ ≤ 2 ^ 53 * 2 ^ maxExponent := by
      apply mul_le_mul_of_nonneg_left _ (by norm_num)
      exact zpow_le_zpow_right₀ (by norm_num) hnormal.greatest
    _ < 10 ^ 400 := greatest_lt

theorem RoundsTo.gt_of_isNormal (h : RoundsTo x m e) (hm : 0 < m) (hnormal : IsNormal m e) :
    10 ^ (-401 : Int) < x := by
  have hone : (1 : ℚ) ≤ m := by exact_mod_cast hm
  have htwo := two_zpow_pos e
  calc (10 : ℚ) ^ (-401 : Int) = (10 ^ 401)⁻¹ := zpow_neg 10 401
    _ < (2 * 2 ^ 1074)⁻¹ := by
      exact inv_strictAnti₀ (by positivity) least_gt
    _ = 1 / 2 * 2 ^ minExponent := by
      rw [mul_inv, one_div]
      congr 1
    _ ≤ 1 / 2 * 2 ^ e := by
      apply mul_le_mul_of_nonneg_left _ (by norm_num)
      exact zpow_le_zpow_right₀ (by norm_num) hnormal.least
    _ ≤ (m - 1 / 2) * 2 ^ e := by nlinarith
    _ ≤ x := h.half_le

theorem decimal_bounds (hd : 0 < d) (s : Int) :
    (10 : ℚ) ^ ((decimalLength d : Int) + s - 1) ≤ d * 10 ^ s ∧
      (d : ℚ) * 10 ^ s < 10 ^ ((decimalLength d : Int) + s) := by
  have hten := ten_zpow_pos s
  have hpos := decimalLength_pos d
  have hlower : (10 : ℚ) ^ (decimalLength d - 1) ≤ d := by exact_mod_cast pow_decimalLength_le hd
  have hupper : (d : ℚ) < 10 ^ decimalLength d := by exact_mod_cast lt_pow_decimalLength d
  constructor
  · have hcast : (decimalLength d : Int) + s - 1 = (decimalLength d - 1 : Nat) + s := by omega
    rw [hcast, zpow_add₀ (by norm_num), zpow_natCast]
    exact mul_le_mul_of_nonneg_right hlower hten.le
  · rw [zpow_add₀ (by norm_num), zpow_natCast]
    exact mul_lt_mul_of_pos_right hupper hten

/-- Reading a decimal finds the number that it rounds to. -/
theorem ofDecimal_eq (negative : Bool) (hm : 0 < m) (hnormal : IsNormal m e)
    (h : RoundsTo (d * 10 ^ s) m e) : ofDecimal negative d s = .finite negative m e := by
  have hlarge := h.lt_of_isNormal hnormal
  have hsmall := h.gt_of_isNormal hm hnormal
  have hd : 0 < d := by
    by_contra hzero
    have hten := ten_zpow_pos (-401)
    rw [Nat.eq_zero_of_not_pos hzero, Nat.cast_zero, zero_mul] at hsmall
    exact absurd hsmall (not_lt.mpr hten.le)
  obtain ⟨hlower, hupper⟩ := decimal_bounds hd s
  have hsize : ¬ 400 < (decimalLength d : Int) + s := by
    intro hsize
    have hpow : (10 : ℚ) ^ (400 : Int) ≤ 10 ^ ((decimalLength d : Int) + s - 1) :=
      zpow_le_zpow_right₀ (by norm_num) (by omega)
    exact absurd hlarge (not_lt.mpr (hpow.trans hlower))
  have hsize' : ¬ (decimalLength d : Int) + s < -400 := by
    intro hsize
    have hpow : (10 : ℚ) ^ ((decimalLength d : Int) + s) ≤ 10 ^ (-401 : Int) :=
      zpow_le_zpow_right₀ (by norm_num) (by omega)
    exact absurd hsmall (not_lt.mpr (hupper.le.trans hpow))
  have hratio : ofRatio negative (onGrid d s).1 (onGrid d s).2 = .finite negative m e := by
    apply ofRatio_eq negative (onGrid_num_pos hd s) (onGrid_den_pos d s) hnormal
    rwa [← quotient, quotient_onGrid]
  unfold ofDecimal
  dsimp only
  rw [if_neg hd.ne']
  unfold decimalLength at hsize hsize'
  rw [if_neg hsize, if_neg hsize']
  unfold onGrid at hratio
  split at hratio
  · next hs => rwa [if_pos hs]
  · next hs => rwa [if_neg hs]

/-- Reading the shortest decimal of a number finds the number, also when the exponent and the digits are
given in another way. -/
theorem ofDecimal_shortestDecimal (negative : Bool) (hm : 0 < m) (hnormal : IsNormal m e)
    (h : (d * 10 ^ s : ℚ) = (shortestDecimal m e).1 * 10 ^ (shortestDecimal m e).2) :
    ofDecimal negative d s = .finite negative m e := by
  apply ofDecimal_eq negative hm hnormal
  rw [h]
  exact roundsTo_shortestDecimal hm hnormal

end PromptTemplates.Number
