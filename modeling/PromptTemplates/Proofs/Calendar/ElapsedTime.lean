import PromptTemplates.Calendar.Relative
import PromptTemplates.Proofs.Number.Rounding

/-!
# Elapsed time in words

An elapsed time is counted in seconds as a floating-point number, and told in the largest unit of which a
whole one has passed. The count of whole seconds is exact for 544 years. Beyond them the numbers are so far
apart that the last microseconds before a full second may be counted as this second.
-/

namespace PromptTemplates

open Calendar Number Binary64

/-! ## Whole seconds -/

/-- The whole seconds in a number of microseconds, as they are counted in floating point. -/
def wholeSeconds (micros : Nat) : Nat := (secondsOfMicros micros).1 / (secondsOfMicros micros).2

/-- `seconds` is the number of whole seconds, or one more from 2 ^ 34 seconds on, when at most 30
microseconds are missing. -/
def CountsAs (micros seconds : Nat) : Prop :=
  seconds = micros / microsPerSecond ∨
    2 ^ 34 ≤ micros / microsPerSecond ∧ microsPerSecond ≤ micros % microsPerSecond + 30 ∧
      seconds = micros / microsPerSecond + 1

/-- A quotient below a natural number is rounded to at most this number, and to it only from within one
half. -/
theorem roundDivEven_of_lt {a b c : Nat} (hb : 0 < b) (h : a < c * b) :
    roundDivEven a b ≤ c ∧ (roundDivEven a b = c → 2 * (c * b) ≤ 2 * a + b) := by
  have hdivision := Nat.div_add_mod a b
  have hless : a / b < c := (Nat.div_lt_iff_lt_mul hb).mpr h
  obtain ⟨-, hupper⟩ := roundDivEven_bounds a b
  refine ⟨by omega, fun heq => ?_⟩
  obtain rfl : a / b + 1 = c := by omega
  have hhalf : b ≤ 2 * (a % b) := by
    unfold roundDivEven at heq
    dsimp only at heq
    split_ifs at heq <;> omega
  have hnext : (a / b + 1) * b = b * (a / b) + b := by rw [Nat.add_one_mul, Nat.mul_comm]
  omega

theorem two_zpow_lt_iff {e e' : Int} : (2 : ℚ) ^ e < 2 ^ e' ↔ e < e' :=
  zpow_lt_zpow_iff_right₀ (by norm_num)

/-- A number of seconds within the calendar is rounded at a place behind the point. -/
theorem exponentOf_micros {micros : Nat} (hpos : 0 < micros) (hlimit : micros < microLimit) :
    ∃ k : Nat, 14 ≤ k ∧ exponentOf micros microsPerSecond = -(k : Int) ∧
      2 ^ 52 * microsPerSecond ≤ micros * 2 ^ k := by
  obtain ⟨e, hlower, hupper, heq⟩ := exponentOf_spec hpos (by decide : 0 < microsPerSecond)
  have hseconds : (0 : ℚ) < microsPerSecond := by norm_num [microsPerSecond]
  have hleast : (2 : ℚ) ^ (-20 : Int) ≤ (micros : ℚ) / microsPerSecond := by
    have hone : (1 : ℚ) ≤ micros := by exact_mod_cast hpos
    rw [le_div_iff₀ hseconds]
    norm_num [microsPerSecond]
    linarith
  have hgreatest : (micros : ℚ) / microsPerSecond < 2 ^ (39 : Int) := by
    have hless : (micros : ℚ) < microLimit := by exact_mod_cast hlimit
    rw [div_lt_iff₀ hseconds]
    norm_num [microLimit, dayLimit, microsPerDay, microsPerSecond] at hless ⊢
    linarith
  have hhigh : e < -13 := by
    have hlt : (2 : ℚ) ^ e < 2 ^ (-13 : Int) := by
      have := hlower.trans_lt hgreatest
      norm_num at this ⊢
      linarith
    exact two_zpow_lt_iff.mp hlt
  have hlow : -73 < e := by
    have hlt : (2 : ℚ) ^ (-73 : Int) < 2 ^ e := by
      have := hleast.trans_lt hupper
      norm_num at this ⊢
      linarith
    exact two_zpow_lt_iff.mp hlt
  obtain ⟨k, rfl⟩ : ∃ k : Nat, e = -(k : Int) := ⟨(-e).toNat, by omega⟩
  refine ⟨k, by omega, ?_, ?_⟩
  · rw [heq, minExponent]
    omega
  · rw [zpow_neg, zpow_natCast, le_div_iff₀ hseconds, ← div_eq_mul_inv, div_mul_eq_mul_div,
      div_le_iff₀ (by positivity)] at hlower
    exact_mod_cast hlower

/-- Rounding to `2 ^ k` places in a second reaches the next second only from within half a place. -/
theorem countsAs_roundDivEven {micros k : Nat} (hk : 14 ≤ k)
    (hfull : 2 ^ 52 * microsPerSecond ≤ micros * 2 ^ k) :
    CountsAs micros (roundDivEven (micros * 2 ^ k) microsPerSecond / 2 ^ k) := by
  have hsecond : 0 < microsPerSecond := by decide
  have hsplit := Nat.div_add_mod micros microsPerSecond
  have hrest := Nat.mod_lt micros hsecond
  obtain ⟨hleast, -⟩ := roundDivEven_bounds (micros * 2 ^ k) microsPerSecond
  unfold CountsAs
  generalize micros / microsPerSecond = q at *
  generalize micros % microsPerSecond = r at *
  obtain ⟨missing, hmissing⟩ : ∃ missing, r + missing = microsPerSecond := ⟨_, Nat.add_sub_of_le hrest.le⟩
  have hreached : q * 2 ^ k ≤ micros * 2 ^ k / microsPerSecond := by
    rw [Nat.le_div_iff_mul_le hsecond, Nat.mul_right_comm]
    exact Nat.mul_le_mul_right _ (by rw [Nat.mul_comm]; omega)
  have hnext : (q + 1) * 2 ^ k * microsPerSecond = micros * 2 ^ k + missing * 2 ^ k := by
    rw [← add_mul, Nat.mul_right_comm, Nat.succ_mul, Nat.mul_comm q]
    congr 1
    omega
  have hplaces : 2 ^ 14 ≤ 2 ^ k := Nat.pow_le_pow_right (by decide) hk
  have hplace : 2 ^ k ≤ missing * 2 ^ k := Nat.le_mul_of_pos_left _ (by omega)
  obtain ⟨hmost, hhalf⟩ := @roundDivEven_of_lt (micros * 2 ^ k) _ ((q + 1) * 2 ^ k) hsecond (by omega)
  rcases hmost.lt_or_eq with hless | heq
  · exact .inl (Nat.div_eq_of_lt_le (hreached.trans hleast) hless)
  · have hclose : 2 * (missing * 2 ^ k) ≤ microsPerSecond := by
      have := hhalf heq
      omega
    have hfew : missing * 2 ^ 14 ≤ missing * 2 ^ k := Nat.mul_le_mul_left _ hplaces
    -- Half a place is at least a microsecond long, so a second has few places.
    have hwide : 2 ^ k ≤ 2 ^ 18 := by
      have hlt : 2 ^ k < 2 ^ 19 := by
        unfold microsPerSecond at hclose
        omega
      exact Nat.pow_le_pow_right (by decide) (Nat.lt_succ_iff.mp ((Nat.pow_lt_pow_iff_right (by decide)).mp hlt))
    have hlong : (q + 1) * 2 ^ k ≤ (q + 1) * 2 ^ 18 := Nat.mul_le_mul_left _ hwide
    unfold microsPerSecond at *
    refine .inr ⟨by omega, by omega, ?_⟩
    rw [heq, Nat.mul_div_cancel _ (Nat.two_pow_pos k)]

theorem wholeSeconds_of_ofRatio {micros m k : Nat} (hk : 0 < k)
    (h : ofRatio false micros microsPerSecond = .finite false m (-(k : Int))) :
    wholeSeconds micros = m / 2 ^ k := by
  have hmagnitude : magnitude m (-(k : Int)) = (m, 2 ^ k) := by
    rw [magnitude, if_neg (by omega), neg_neg, Int.toNat_natCast, twoTo_eq]
  unfold wholeSeconds secondsOfMicros
  rw [h, toRatio?, hmagnitude]
  simp

theorem countsAs_wholeSeconds {micros : Nat} (hlimit : micros < microLimit) :
    CountsAs micros (wholeSeconds micros) := by
  rcases Nat.eq_zero_or_pos micros with rfl | hpos
  · exact .inl (by decide +kernel)
  obtain ⟨k, hk, hexponent, hfull⟩ := exponentOf_micros hpos hlimit
  have hscaled : scaleDown micros microsPerSecond (-(k : Int)) = (micros * 2 ^ k, microsPerSecond) := by
    rw [scaleDown, if_neg (by omega), neg_neg, Int.toNat_natCast, twoTo_eq]
  have hcounts := countsAs_roundDivEven hk hfull
  obtain ⟨hshort, -⟩ := div_scaleDown_bounds hpos (by decide : 0 < microsPerSecond) hexponent
  have hupper := (roundDivEven_bounds (micros * 2 ^ k) microsPerSecond).2
  rw [hscaled] at hshort
  generalize hrounded : roundDivEven (micros * 2 ^ k) microsPerSecond = m at *
  have hrounding : roundDivEven (scaleDown micros microsPerSecond (-(k : Int))).1
      (scaleDown micros microsPerSecond (-(k : Int))).2 = m := by rw [hscaled, hrounded]
  have hmaximum : (-(k : Int)) ≤ maxExponent := by
    unfold maxExponent
    omega
  by_cases hm : m < 2 ^ 53
  · have hnumber := ofRatio_of_rounded false hpos hexponent hrounding hm hmaximum
    rwa [wholeSeconds_of_ofRatio (by omega) hnumber]
  · -- The mantissa has got one bit more, so the number is a power of two.
    have heq : m = 2 ^ 53 := by
      dsimp only at hshort
      omega
    obtain ⟨j, rfl⟩ : ∃ j, k = j + 1 := ⟨k - 1, by omega⟩
    have hplace : (-((j + 1 : Nat) : Int)) = -(j : Int) - 1 := by omega
    rw [hplace] at hexponent hrounding hmaximum
    have hnumber := ofRatio_of_carry false hpos hexponent (hrounding.trans heq)
      (by unfold maxExponent; omega)
    rw [wholeSeconds_of_ofRatio (by omega) hnumber]
    rwa [heq, Nat.pow_succ 2 j, Nat.pow_succ 2 52, Nat.mul_div_mul_right _ _ (by decide)] at hcounts

/-! ## Words -/

/-- The unit is the longest of which at least one fits into the seconds. -/
structure TimeUnit.IsLargest (unit : TimeUnit) (seconds : Nat) : Prop where
  mem : unit ∈ TimeUnit.all
  fits : unit.seconds ≤ seconds
  greatest : ∀ other ∈ TimeUnit.all, other.seconds ≤ seconds → other.seconds ≤ unit.seconds

/-- How an elapsed time is told, with the whole seconds that are counted in it: less than a second is no
time, otherwise the direction is told and how often the largest unit has passed. -/
inductive Told (elapsed : Int) (seconds : Nat) : String → Prop
  | now (before : -microsPerSecond < elapsed) (behind : elapsed < microsPerSecond) :
      Told elapsed seconds "just now"
  | ago {unit : TimeUnit} (before : microsPerSecond ≤ elapsed) (largest : unit.IsLargest seconds) :
      Told elapsed seconds (unit.label (seconds / unit.seconds) ++ " ago")
  | ahead {unit : TimeUnit} (behind : elapsed ≤ -microsPerSecond) (largest : unit.IsLargest seconds) :
      Told elapsed seconds ("in " ++ unit.label (seconds / unit.seconds))

theorem TimeUnit.seconds_pairwise : TimeUnit.all.Pairwise fun unit other => other.seconds < unit.seconds := by
  decide

theorem TimeUnit.isLargest_of_find? {seconds : Nat} {unit : TimeUnit}
    (h : TimeUnit.all.find? (fun unit => decide (unit.seconds ≤ seconds)) = some unit) :
    unit.IsLargest seconds := by
  obtain ⟨hfits, before, after, hall, hlonger⟩ := List.find?_eq_some_iff_append.mp h
  have hsorted := TimeUnit.seconds_pairwise
  refine ⟨List.mem_of_find?_eq_some h, of_decide_eq_true hfits, fun other hother hle => ?_⟩
  rw [hall] at hother hsorted
  rcases List.mem_append.mp hother with hbefore | hrest
  · simpa [hle] using hlonger other hbefore
  · rcases List.mem_cons.mp hrest with rfl | hafter
    · exact le_refl _
    · exact (List.rel_of_pairwise_cons (List.pairwise_append.mp hsorted).2.1 hafter).le

theorem den_pos_secondsOfMicros (micros : Nat) : 0 < (secondsOfMicros micros).2 := by
  unfold secondsOfMicros
  split
  · next h => exact den_pos_of_toRatio? h
  · exact (by decide : 0 < microsPerSecond)

/-- The largest unit of a fraction of seconds and its count are those of the whole seconds in it. -/
theorem TimeUnit.exists_largest_eq {num den : Nat} (hden : 0 < den) (h : den ≤ num) :
    ∃ unit : TimeUnit, unit.IsLargest (num / den) ∧
      TimeUnit.largest num den = (unit, num / den / unit.seconds) := by
  have hfits (unit : TimeUnit) : unit.seconds * den ≤ num ↔ unit.seconds ≤ num / den :=
    (Nat.le_div_iff_mul_le hden).symm
  unfold TimeUnit.largest
  simp only [hfits]
  cases hfind : TimeUnit.all.find? fun unit => decide (unit.seconds ≤ num / den) with
  | none =>
    have hsecond := List.find?_eq_none.mp hfind TimeUnit.second (by decide)
    have hpos : TimeUnit.second.seconds ≤ num / den := Nat.div_pos h hden
    exact absurd (decide_eq_true hpos) hsecond
  | some unit =>
    refine ⟨unit, TimeUnit.isLargest_of_find? hfind, ?_⟩
    rw [Nat.div_div_eq_div_mul, Nat.mul_comm den]

/-- The largest unit and its count are those of the whole seconds. -/
theorem largest_secondsOfMicros {micros : Nat} (h : 0 < wholeSeconds micros) :
    ∃ unit : TimeUnit, unit.IsLargest (wholeSeconds micros) ∧
      TimeUnit.largest (secondsOfMicros micros).1 (secondsOfMicros micros).2 =
        (unit, wholeSeconds micros / unit.seconds) := by
  obtain ⟨hden, hone⟩ := Nat.div_pos_iff.mp h
  exact TimeUnit.exists_largest_eq hden hone

theorem CountsAs.pos_iff {micros seconds : Nat} (h : CountsAs micros seconds) :
    0 < seconds ↔ microsPerSecond ≤ micros := by
  unfold CountsAs microsPerSecond at h
  unfold microsPerSecond
  omega

/-- Within the calendar an elapsed time is told by the seconds that it counts as. -/
theorem told_relativeText {elapsed : Int} (hlimit : elapsed.natAbs < microLimit) :
    Told elapsed (wholeSeconds elapsed.natAbs) (relativeText elapsed) := by
  have hcounts := (countsAs_wholeSeconds hlimit).pos_iff
  have hden := den_pos_secondsOfMicros elapsed.natAbs
  unfold relativeText
  dsimp only
  split
  · next hless =>
    have hzero : wholeSeconds elapsed.natAbs = 0 := Nat.div_eq_of_lt hless
    exact .now (by omega) (by omega)
  · next hless =>
    have hpos : 0 < wholeSeconds elapsed.natAbs := Nat.div_pos (Nat.le_of_not_lt hless) hden
    obtain ⟨unit, hlargest, heq⟩ := largest_secondsOfMicros hpos
    rw [heq]
    dsimp only
    split
    · exact .ago (by omega) hlargest
    · exact .ahead (by omega) hlargest

end PromptTemplates
