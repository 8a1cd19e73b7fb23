import Mathlib.Algebra.GroupWithZero.Nat
import PromptTemplates.Calendar.Date

/-!
# Years, months and days

Every day number is that of the year, month and day that it is split into. The years are taken off in
cycles of 400, 100, 4 and 1; the cycle of 4 years has a day more than its years, and so has the cycle of
400, so the last day of a leap year is what the shorter cycles leave over.
-/

namespace PromptTemplates.Calendar

variable {year month day n : Nat}

/-! ## Months -/

theorem monthOfDay_spec {lengths : List Nat} (first : Nat) (h : n < lengths.sum) :
    ∃ k d, monthOfDay lengths first n = (first + k, d + 1) ∧ k < lengths.length ∧
      d < lengths[k]?.getD 0 ∧ (lengths.take k).sum + d = n := by
  induction lengths generalizing first n with
  | nil => simp at h
  | cons length rest ih =>
    unfold monthOfDay
    by_cases hlength : n < length
    · refine ⟨0, n, ?_, ?_, ?_, ?_⟩ <;> simp [hlength]
    · have hrest : n - length < rest.sum := by
        rw [List.sum_cons] at h
        omega
      obtain ⟨k, d, hfound, hk, hd, hsum⟩ := ih (first + 1) hrest
      refine ⟨k + 1, d, ?_, ?_, ?_, ?_⟩
      · rw [if_neg hlength, hfound, Nat.add_right_comm, Nat.add_assoc]
      · simpa using hk
      · simpa using hd
      · rw [List.take_succ_cons, List.sum_cons]
        omega

theorem daysBeforeMonth_eq (year month : Nat) :
    daysBeforeMonth year month = ((monthLengths year).take (month - 1)).sum :=
  List.sum_eq_foldl.symm

theorem length_monthLengths (year : Nat) : (monthLengths year).length = 12 := rfl

theorem sum_monthLengths (year : Nat) :
    (monthLengths year).sum = if isLeap year then 366 else 365 := by
  unfold monthLengths
  cases isLeap year <;> rfl

theorem le_of_mem_monthLengths {length : Nat} (h : length ∈ monthLengths year) : length ≤ 31 := by
  unfold monthLengths at h
  simp only [List.mem_cons, List.not_mem_nil, or_false] at h
  split at h <;> omega

theorem monthLength_le (year month : Nat) : monthLength year month ≤ 31 := by
  unfold monthLength
  split
  · omega
  · cases hlength : (monthLengths year)[month - 1]? with
    | none => exact Nat.zero_le 31
    | some length => exact le_of_mem_monthLengths (List.mem_of_getElem? hlength)

/-- A day within a year has the number that the days of the year before it leave. -/
theorem dayNumber?_monthOfDay (hyear : 1 ≤ year) (hlast : year ≤ 9999) (h : n < 365) :
    dayNumber? year (monthOfDay (monthLengths year) 1 n).1 (monthOfDay (monthLengths year) 1 n).2 =
      some (daysBeforeYear year + n) := by
  have hsum : n < (monthLengths year).sum := by
    rw [sum_monthLengths]
    split <;> omega
  obtain ⟨k, d, hfound, hk, hd, htotal⟩ := monthOfDay_spec 1 hsum
  rw [length_monthLengths] at hk
  have hlength : monthLength year (1 + k) = (monthLengths year)[k]?.getD 0 := by
    unfold monthLength
    rw [if_neg (by omega), Nat.add_sub_cancel_left]
  rw [hfound]
  unfold dayNumber?
  rw [if_pos ⟨hyear, hlast, by omega, by omega, by omega, by rw [hlength]; omega⟩, daysBeforeMonth_eq,
    Nat.add_sub_cancel_left, Nat.add_sub_cancel, Nat.add_assoc, htotal]

/-- The last day of a leap year has 365 days of its year before it. -/
theorem dayNumber?_lastDay (hyear : 1 ≤ year) (hlast : year ≤ 9999) (hleap : isLeap year = true) :
    dayNumber? year 12 31 = some (daysBeforeYear year + 365) := by
  have hmonths : monthLengths year = [31, 29, 31, 30, 31, 30, 31, 31, 30, 31, 30, 31] := by
    unfold monthLengths
    rw [if_pos hleap]
  have hlength : monthLength year 12 = 31 := by
    unfold monthLength
    rw [hmonths]
    rfl
  have hbefore : daysBeforeMonth year 12 = 335 := by
    unfold daysBeforeMonth
    rw [hmonths]
    rfl
  unfold dayNumber?
  rw [hlength, hbefore, if_pos (by omega)]

/-! ## Years -/

/-- The parts of a day number: how many cycles of 400, 100, 4 and 1 years lie before it, and the days that
are left. The last day of a leap year is left over when four shorter cycles have been taken off. -/
structure Cycles (n long century short single rest : Nat) : Prop where
  total : n = long * 146097 + century * 36524 + short * 1461 + single * 365 + rest
  short_lt : short < 25
  rest_lt : rest < 365
  century_le : century ≤ 4
  single_le : single ≤ 4
  last_century : century = 4 → short = 0 ∧ single = 0 ∧ rest = 0
  last_single : single = 4 → short < 24 ∧ rest = 0

theorem cycles (n : Nat) : Cycles n (n / 146097) (n % 146097 / 36524)
    (n % 146097 % 36524 / 1461) (n % 146097 % 36524 % 1461 / 365)
    (n % 146097 % 36524 % 1461 % 365) := by
  constructor <;> omega

section

variable {long century short single rest : Nat}

/-- The year of a day that is left over ends four of the shorter cycles. -/
theorem Cycles.isLeap_of_last (h : Cycles n long century short single rest)
    (hlast : single = 4 ∨ century = 4) :
    isLeap (long * 400 + century * 100 + short * 4 + single) = true := by
  obtain ⟨-, hshort, -, hcentury, hsingle, hlastCentury, hlastSingle⟩ := h
  unfold isLeap
  simp only [Bool.and_eq_true, beq_iff_eq, Bool.or_eq_true, bne_iff_ne]
  omega

theorem Cycles.eq_of_last (h : Cycles n long century short single rest)
    (hlast : single = 4 ∨ century = 4) :
    daysBeforeYear (long * 400 + century * 100 + short * 4 + single) + 365 = n := by
  obtain ⟨htotal, hshort, -, hcentury, hsingle, hlastCentury, hlastSingle⟩ := h
  unfold daysBeforeYear
  dsimp only
  omega

theorem Cycles.eq_of_not_last (h : Cycles n long century short single rest)
    (hlast : ¬ (single = 4 ∨ century = 4)) :
    daysBeforeYear (long * 400 + century * 100 + short * 4 + single + 1) + rest = n := by
  obtain ⟨htotal, hshort, -, hcentury, hsingle, -, -⟩ := h
  unfold daysBeforeYear
  dsimp only
  omega

end

/-- A day has the number that its year, month and day stand for. -/
theorem dayNumber?_split (hn : n < dayLimit) :
    dayNumber? (Date.split n).year (Date.split n).month (Date.split n).day = some n := by
  have h := cycles n
  unfold dayLimit at hn
  unfold Date.split
  dsimp only
  generalize n % 146097 % 36524 % 1461 % 365 = rest at h ⊢
  generalize n % 146097 % 36524 % 1461 / 365 = single at h ⊢
  generalize n % 146097 % 36524 / 1461 = short at h ⊢
  generalize n % 146097 / 36524 = century at h ⊢
  generalize n / 146097 = long at h ⊢
  have hcycles := h
  obtain ⟨htotal, hshort, hrest, hcentury, hsingle, hlastCentury, hlastSingle⟩ := hcycles
  split
  · next hlast =>
    rw [dayNumber?_lastDay (by omega) (by omega) (h.isLeap_of_last hlast), h.eq_of_last hlast]
  · next hlast =>
    dsimp only
    rw [dayNumber?_monthOfDay (by omega) (by omega) hrest, h.eq_of_not_last hlast]

/-- The ranges of year, month and day. -/
theorem split_bounds (hn : n < dayLimit) :
    1 ≤ (Date.split n).year ∧ (Date.split n).year ≤ 9999 ∧ 1 ≤ (Date.split n).month ∧
      (Date.split n).month ≤ 12 ∧ 1 ≤ (Date.split n).day ∧ (Date.split n).day ≤ 31 := by
  have hsplit := dayNumber?_split hn
  unfold dayNumber? at hsplit
  split at hsplit
  · next h =>
    have hlength := monthLength_le (Date.split n).year (Date.split n).month
    omega
  · cases hsplit

theorem split_inj {other : Nat} (hn : n < dayLimit) (hother : other < dayLimit)
    (h : Date.split n = Date.split other) : n = other := by
  have hsplit := dayNumber?_split hn
  rw [h, dayNumber?_split hother] at hsplit
  exact (Option.some.inj hsplit).symm

end PromptTemplates.Calendar
