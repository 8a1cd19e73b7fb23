import PromptTemplates.Proofs.Calendar.ClockReadings

/-!
# Durations in their largest unit

A duration is told in the longest unit that fits into it at least once, rounded down to a whole count of
it. The units are not multiples of one another: a year is not a whole number of months, nor a month of
weeks. Still a count stays below what makes up the next longer unit, and a longer duration is never rounded
down to less. What has passed and what lies ahead is told by the same count of the same unit.
-/

namespace PromptTemplates

open Calendar

/-- A length of time of at least a second, as an exact fraction of seconds. -/
structure Duration where
  num : Nat
  den : Nat
  den_pos : 0 < den
  den_le : den ≤ num

namespace Duration

/-- The number of seconds. -/
def value (d : Duration) : ℚ := d.num / d.den

/-- The duration is rounded down to a count of the unit, of which there is at least one, and all longer
units are longer than the duration. -/
structure RoundsDown (d : Duration) (unit : TimeUnit) (count : Nat) : Prop where
  mem : unit ∈ TimeUnit.all
  pos : 1 ≤ count
  le : ((count * unit.seconds : Nat) : ℚ) ≤ d.value
  lt : d.value < ((count + 1) * unit.seconds : Nat)
  shorter : ∀ other ∈ TimeUnit.all, unit.seconds < other.seconds → d.value < other.seconds

/-- The greatest count of each unit before the next longer one is used. Years are counted without end. -/
def limits : List (String × Nat) :=
  [("month", 12), ("week", 4), ("day", 6), ("hour", 23), ("minute", 59), ("second", 59)]

variable {d d' : Duration} {unit unit' : TimeUnit} {count count' : Nat}

theorem natCast_le_value_iff (d : Duration) (n : Nat) : (n : ℚ) ≤ d.value ↔ n ≤ d.num / d.den := by
  have hden : (0 : ℚ) < d.den := by exact_mod_cast d.den_pos
  rw [value, le_div_iff₀ hden, Nat.le_div_iff_mul_le d.den_pos]
  norm_cast

theorem one_le_value (d : Duration) : 1 ≤ d.value := by
  have hone := (d.natCast_le_value_iff 1).mpr (Nat.div_pos d.den_le d.den_pos)
  rwa [Nat.cast_one] at hone

theorem exists_roundsDown (d : Duration) :
    ∃ unit count, TimeUnit.largest d.num d.den = (unit, count) ∧ d.RoundsDown unit count := by
  obtain ⟨unit, hlargest, heq⟩ := TimeUnit.exists_largest_eq d.den_pos d.den_le
  have hpos : 0 < unit.seconds := by
    have hall : ∀ unit ∈ TimeUnit.all, 0 < unit.seconds := by decide
    exact hall unit hlargest.mem
  refine ⟨unit, _, heq, hlargest.mem, Nat.div_pos hlargest.fits hpos, ?_, ?_, fun other hother hlonger => ?_⟩
  · exact (d.natCast_le_value_iff _).mpr (Nat.div_mul_le_self _ _)
  · rw [← not_le, natCast_le_value_iff, Nat.not_le, Nat.mul_comm]
    exact Nat.lt_mul_div_succ _ hpos
  · rw [← not_le, natCast_le_value_iff]
    exact fun hfits => Nat.not_le.mpr hlonger (hlargest.greatest other hother hfits)

namespace RoundsDown

theorem seconds_le (h : d.RoundsDown unit count) : (unit.seconds : ℚ) ≤ d.value := by
  have hone : unit.seconds ≤ count * unit.seconds := Nat.le_mul_of_pos_left _ h.pos
  exact le_trans (by exact_mod_cast hone) h.le

/-- A longer duration is told in no shorter unit. -/
theorem unit_mono (h : d.RoundsDown unit count) (h' : d'.RoundsDown unit' count')
    (hle : d.value ≤ d'.value) : unit.seconds ≤ unit'.seconds := by
  by_contra hlonger
  have hless : d'.value < unit.seconds := h'.shorter unit h.mem (Nat.not_le.mp hlonger)
  exact absurd (h.seconds_le.trans hle) (not_le.mpr hless)

/-- A longer duration has no lower count of the same unit. -/
theorem count_mono (h : d.RoundsDown unit count) (h' : d'.RoundsDown unit' count')
    (hle : d.value ≤ d'.value) (hunit : unit.seconds = unit'.seconds) : count ≤ count' := by
  have hless : count * unit.seconds < (count' + 1) * unit.seconds := by
    rw [hunit]
    exact_mod_cast (hunit ▸ h.le.trans hle).trans_lt h'.lt
  exact Nat.lt_succ_iff.mp (Nat.lt_of_mul_lt_mul_right hless)

theorem mono (h : d.RoundsDown unit count) (h' : d'.RoundsDown unit' count') (hle : d.value ≤ d'.value) :
    count * unit.seconds ≤ count' * unit'.seconds := by
  rcases (h.unit_mono h' hle).lt_or_eq with hlonger | hsame
  · -- The longer unit is already more than the shorter duration.
    have hless : d.value < unit'.seconds := h.shorter unit' h'.mem hlonger
    have hone : unit'.seconds ≤ count' * unit'.seconds := Nat.le_mul_of_pos_left _ h'.pos
    have hbelow : count * unit.seconds < unit'.seconds := by exact_mod_cast h.le.trans_lt hless
    exact hbelow.le.trans hone
  · rw [hsame]
    exact Nat.mul_le_mul_right _ (h.count_mono h' hle hsame)

theorem unique (h : d.RoundsDown unit count) (h' : d'.RoundsDown unit' count')
    (heq : d.value = d'.value) : unit = unit' ∧ count = count' := by
  have hall : ∀ unit ∈ TimeUnit.all, ∀ unit' ∈ TimeUnit.all, unit.seconds = unit'.seconds →
      unit = unit' := by decide
  have hseconds := le_antisymm (h.unit_mono h' heq.le) (h'.unit_mono h heq.ge)
  have hcount := le_antisymm (h.count_mono h' heq.le hseconds) (h'.count_mono h heq.ge hseconds.symm)
  exact ⟨hall unit h.mem unit' h'.mem hseconds, hcount⟩

/-- One more than the limit of a unit makes up a longer unit. -/
theorem count_le_limit (h : d.RoundsDown unit count) {limit : String × Nat} (hlimit : limit ∈ limits)
    (hname : unit.name = limit.1) : count ≤ limit.2 := by
  have hall : ∀ unit ∈ TimeUnit.all, ∀ limit ∈ limits, unit.name = limit.1 →
      ∃ other ∈ TimeUnit.all, unit.seconds < other.seconds ∧
        other.seconds ≤ (limit.2 + 1) * unit.seconds := by decide
  obtain ⟨other, hother, hlonger, hmost⟩ := hall unit h.mem limit hlimit hname
  have hless : count * unit.seconds < other.seconds := by
    exact_mod_cast h.le.trans_lt (h.shorter other hother hlonger)
  exact Nat.lt_succ_iff.mp (Nat.lt_of_mul_lt_mul_right (hless.trans_le hmost))

/-- A second is missing for a year. -/
example : TimeUnit.largest (365 * 86400 - 1) 1 = (⟨"month", 30 * 86400⟩, 12) := by decide

end RoundsDown

end Duration

/-! ## Texts -/

/-- An elapsed time in seconds, as it is counted in floating point. -/
def elapsedSeconds (elapsed : Int) : ℚ :=
  (secondsOfMicros elapsed.natAbs).1 / (secondsOfMicros elapsed.natAbs).2

/-- The formatter can show the value and the time of the clock, the value lies within the bounds, and so
many microseconds have passed since. -/
inductive Formatter.Measures (f : Formatter) (value clock earliest latest : Value) : Int → Prop
  | mk {target now : Moment} (shown : f.coerce value (some clock) = .ok target)
      (shownNow : f.coerce .null (some clock) = .ok now)
      (reached : f.isBeyond target earliest 1 = .ok false)
      (notPassed : f.isBeyond target latest (-1) = .ok false) :
      Measures f value clock earliest latest (now.since target)

variable {f : Formatter} {value clock earliest latest : Value} {elapsed : Int} {d : Duration}
  {unit : TimeUnit} {count : Nat}

theorem Formatter.Measures.relative_eq (h : f.Measures value clock earliest latest elapsed) :
    f.relative value clock earliest latest = .ok (relativeText elapsed) := by
  obtain ⟨shown, shownNow, reached, notPassed⟩ := h
  unfold relative
  simp [shown, shownNow, reached, notPassed, bind, Except.bind, pure, Except.pure]

/-- An elapsed time is told in the unit and the count that its seconds are rounded down to. -/
theorem relativeText_of_roundsDown (h : d.RoundsDown unit count) (heq : elapsedSeconds elapsed = d.value) :
    relativeText elapsed =
      if 0 < elapsed then unit.label count ++ " ago" else "in " ++ unit.label count := by
  have hden := den_pos_secondsOfMicros elapsed.natAbs
  have hone : (secondsOfMicros elapsed.natAbs).2 ≤ (secondsOfMicros elapsed.natAbs).1 := by
    have hvalue : 1 ≤ elapsedSeconds elapsed := heq ▸ d.one_le_value
    rw [elapsedSeconds, one_le_div (by exact_mod_cast hden)] at hvalue
    exact_mod_cast hvalue
  obtain ⟨unit', count', hlargest, hrounds⟩ := Duration.exists_roundsDown ⟨_, _, hden, hone⟩
  obtain ⟨rfl, rfl⟩ := h.unique hrounds heq.symm
  unfold relativeText
  dsimp only at hlargest ⊢
  rw [if_neg (Nat.not_lt.mpr hone), hlargest]

/-- A duration of at least a second is rounded down to the longest unit of which there is one. The counts
do not reach the next longer unit, and a longer duration is not rounded down to less. All times that have
passed or lie ahead for this duration are told by its unit and count, the unit in the singular just for a
count of one. -/
theorem Duration.largest_roundsDown (d : Duration) :
    ∃ unit count noun, TimeUnit.largest d.num d.den = (unit, count) ∧ d.RoundsDown unit count ∧
      (∀ limit ∈ limits, unit.name = limit.1 → count ≤ limit.2) ∧
      (∀ (d' : Duration) unit' count', d.value ≤ d'.value →
        TimeUnit.largest d'.num d'.den = (unit', count') →
          count * unit.seconds ≤ count' * unit'.seconds) ∧
      (noun = unit.name ∧ count = 1 ∨ noun = unit.name ++ "s" ∧ count ≠ 1) ∧
      ∀ (f : Formatter) (value clock earliest latest : Value) (elapsed : Int),
        f.Measures value clock earliest latest elapsed → elapsedSeconds elapsed = d.value →
          (0 < elapsed → f.relative value clock earliest latest =
            .ok (toString count ++ " " ++ noun ++ " ago")) ∧
          (elapsed < 0 → f.relative value clock earliest latest =
            .ok ("in " ++ (toString count ++ " " ++ noun))) := by
  obtain ⟨unit, count, hlargest, hrounds⟩ := d.exists_roundsDown
  obtain ⟨noun, hnoun, hlabel⟩ : ∃ noun,
      (noun = unit.name ∧ count = 1 ∨ noun = unit.name ++ "s" ∧ count ≠ 1) ∧
        unit.label count = toString count ++ " " ++ noun := by
    by_cases hone : count = 1
    · exact ⟨unit.name, .inl ⟨rfl, hone⟩, by simp [TimeUnit.label, hone]⟩
    · exact ⟨unit.name ++ "s", .inr ⟨rfl, hone⟩, by simp [TimeUnit.label, hone, String.append_assoc]⟩
  refine ⟨unit, count, noun, hlargest, hrounds, fun limit => hrounds.count_le_limit, ?_, hnoun, ?_⟩
  · intro d' unit' count' hle hlargest'
    obtain ⟨_, _, heq, hrounds'⟩ := d'.exists_roundsDown
    obtain ⟨rfl, rfl⟩ := Prod.mk.inj (heq.symm.trans hlargest')
    exact hrounds.mono hrounds' hle
  · intro f value clock earliest latest elapsed hmeasures heq
    rw [hmeasures.relative_eq, relativeText_of_roundsDown hrounds heq, hlabel]
    refine ⟨fun hpassed => ?_, fun hahead => ?_⟩
    · rw [if_pos hpassed]
    · rw [if_neg (not_lt.mpr hahead.le)]

namespace Formatter

/-- Without a zone, a moment of universal time is measured by its distance from another. -/
theorem measures_universal {target now : Moment} (htarget : target.anchor = .offset 0)
    (hnow : now.anchor = .offset 0) :
    Measures ⟨none⟩ (.moment target) (.moment now) .null .null (now.since target) :=
  .mk (localize_of_onClock htarget) (localize_of_onClock hnow) rfl rfl

/-- 2025-12-17T05:30:00 of universal time, forty-five days after `halfPastOne`. -/
def fortyFiveDaysLater : Moment := ⟨63901546200000000, .offset 0, by decide⟩

end Formatter

open Formatter in
/-- Forty-five days are told as a month. -/
theorem Duration.largest_roundsDown_month :
    Measures ⟨none⟩ (.moment halfPastOne) (.moment fortyFiveDaysLater) .null .null 3888000000000 ∧
      Measures ⟨none⟩ (.moment fortyFiveDaysLater) (.moment halfPastOne) .null .null (-3888000000000) ∧
      relative ⟨none⟩ (.moment halfPastOne) (.moment fortyFiveDaysLater) .null .null =
        .ok "1 month ago" ∧
      relative ⟨none⟩ (.moment fortyFiveDaysLater) (.moment halfPastOne) .null .null =
        .ok "in 1 month" := by
  have hago : Measures ⟨none⟩ (.moment halfPastOne) (.moment fortyFiveDaysLater) .null .null
      3888000000000 := measures_universal rfl rfl
  have hahead : Measures ⟨none⟩ (.moment fortyFiveDaysLater) (.moment halfPastOne) .null .null
      (-3888000000000) := measures_universal rfl rfl
  have hseconds : secondsOfMicros 3888000000000 = (8349416423424000, 2147483648) := by decide
  have hvalue : elapsedSeconds 3888000000000 = Duration.value ⟨3888000, 1, by decide, by decide⟩ := by
    rw [elapsedSeconds, value]
    norm_num [hseconds]
  obtain ⟨unit, count, noun, hlargest, -, -, -, hnoun, htexts⟩ :=
    largest_roundsDown ⟨3888000, 1, by decide, by decide⟩
  obtain ⟨rfl, rfl⟩ : unit = ⟨"month", 30 * 86400⟩ ∧ count = 1 := by
    refine Prod.mk.inj (hlargest.symm.trans ?_)
    decide
  obtain rfl : noun = "month" := by simpa using hnoun
  refine ⟨hago, hahead, ?_, ?_⟩
  · exact (htexts _ _ _ _ _ _ hago hvalue).1 (by decide)
  · exact (htexts _ _ _ _ _ _ hahead hvalue).2 (by decide)

end PromptTemplates
