import PromptTemplates.Proofs.Calendar.ComposedStyles
import PromptTemplates.Proofs.Calendar.WrittenMoments

/-!
# Spellings of an instant

An instant can be given as a number of seconds, as a text with or without an offset, or as a moment with
or without an offset. All of them are brought into the zone of the formatter by their instant alone, so
they are formatted alike.
-/

namespace PromptTemplates

open Calendar

namespace Calendar

/-- A whole second of the years 2 to 9998, counted from the start of year 1. -/
structure Instant where
  seconds : Nat
  le_seconds : daysBeforeYear 2 * 86400 ≤ seconds
  seconds_lt : seconds < daysBeforeYear 9999 * 86400

/-- An offset of whole minutes that is shorter than a day. -/
structure MinuteOffset where
  minutes : Int
  natAbs_lt : minutes.natAbs < 1440

namespace Instant

variable (t : Instant) (offset : MinuteOffset)

theorem bounds : 31536000 ≤ t.seconds ∧ t.seconds < 315506361600 := by
  have hfirst := t.le_seconds
  have hlast := t.seconds_lt
  have htwo : daysBeforeYear 2 = 365 := rfl
  have hnine : daysBeforeYear 9999 = 3651694 := rfl
  omega

/-- What a clock at this offset reads. -/
def secondAt : Nat := (t.seconds + offset.minutes * 60).toNat

theorem secondAt_eq : (t.secondAt offset : Int) = t.seconds + offset.minutes * 60 := by
  obtain ⟨hfirst, -⟩ := t.bounds
  have hoffset := offset.natAbs_lt
  unfold secondAt
  omega

theorem secondAt_lt : t.secondAt offset * microsPerSecond < microLimit := by
  obtain ⟨-, hlast⟩ := t.bounds
  have hoffset := offset.natAbs_lt
  have hsecond := t.secondAt_eq offset
  unfold microsPerSecond microLimit dayLimit microsPerDay
  omega

/-- The moment on a clock at an offset. -/
def aware : Moment where
  micros := t.secondAt offset * microsPerSecond
  anchor := .offset (offset.minutes * 60 * microsPerSecond)
  micros_lt := t.secondAt_lt offset

/-- No offset. -/
def utc : MinuteOffset := ⟨0, by decide⟩

/-- The moment of universal time that is not tied to it. -/
def naive : Moment := { t.aware utc with anchor := .floating }

end Instant

/-- The ways to give an instant: the number of seconds since 1970, the ISO text of universal time with
no offset or the letter `Z`, the ISO text with an offset, and a moment with no offset or with one. -/
inductive Spelling where
  | epoch
  | text
  | textZ
  | textAt (offset : MinuteOffset)
  | naive
  | aware (offset : MinuteOffset)

/-- The value that gives an instant in a spelling. -/
def Instant.spelled (t : Instant) : Spelling → Value
  | .epoch => .int (t.seconds - epochSeconds)
  | .text => .str (Iso.text "T" t.naive)
  | .textZ => .str (Iso.text "T" t.naive ++ "Z")
  | .textAt offset => .str (Iso.text "T" (t.aware offset))
  | .naive => .moment t.naive
  | .aware offset => .moment (t.aware offset)

end Calendar

namespace Formatter

variable {f : Formatter} {m other : Moment} {t : Instant} {value : Value} {clock : Option Value}

theorem moveTo?_congr (h : m.instant = other.instant) (target : Option Zone) :
    m.moveTo? target = other.moveTo? target := by
  unfold Moment.moveTo?
  rw [h]

/-- The moment is not read off the clock of a zone. -/
def IsFree (m : Moment) : Prop := ∀ z later, m.anchor ≠ .zone z later

theorem isFree_of_floating (h : m.anchor = .floating) : IsFree m := by
  intro z later hzone
  rw [h] at hzone
  cases hzone

theorem isFree_of_offset {micros : Int} (h : m.anchor = .offset micros) : IsFree m := by
  intro z later hzone
  rw [h] at hzone
  cases hzone

theorem inZone?_of_isFree (h : IsFree m) (target : Option Zone) : m.inZone? target = m.moveTo? target := by
  unfold Moment.inZone?
  split
  · next z later t hanchor => exact absurd hanchor (h z later)
  · rfl

/-- A moment that is not tied to universal time counts as such. -/
theorem inZone?_fixed (h : IsFree m) (target : Option Zone) : Moment.inZone? (match m.anchor with
    | .floating => { m with anchor := .offset 0 }
    | _ => m) target = m.moveTo? target := by
  cases hanchor : m.anchor with
  | floating =>
    have hinstant : Moment.instant { m with anchor := .offset 0 } = m.instant := by
      simp [Moment.instant, Moment.offset?, hanchor]
    exact (inZone?_of_isFree (isFree_of_offset rfl) target).trans (moveTo?_congr hinstant target)
  | offset micros => exact inZone?_of_isFree h target
  | zone z later => exact absurd hanchor (h z later)

/-- A free moment is brought into the zone of the formatter by its instant. -/
theorem localize_of_isFree (h : IsFree m) :
    f.localize m = (m.moveTo? f.zone).elim (.error (.plain .overflow)) .ok := by
  have hfixed := inZone?_fixed h f.zone
  unfold localize
  dsimp only
  split
  · next shown hshown =>
    have hmoved : m.moveTo? f.zone = some shown := hfixed.symm.trans hshown
    rw [hmoved, Option.elim_some]
  · next hshown =>
    have hmoved : m.moveTo? f.zone = none := hfixed.symm.trans hshown
    rw [hmoved, Option.elim_none]

theorem coerce_str_of_ok {s : String} (h : momentOfText s = .ok m) :
    f.coerce (.str s) clock = f.localize m := by
  change (momentOfText s >>= f.localize) = _
  rw [h]
  rfl

/-- The text of 2025-01-31T14:07:00. -/
example : Iso.text "T" (Instant.naive ⟨63873929220, by decide, by decide⟩) = "2025-01-31T14:07:00" := by
  decide

end Formatter

end PromptTemplates
