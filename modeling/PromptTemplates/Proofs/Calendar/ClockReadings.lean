import PromptTemplates.Proofs.Calendar.ElapsedTime
import PromptTemplates.Proofs.Journal.Outcomes

/-!
# Relative times on the clock of a zone

A formatter shows all moments on the clock of its zone and compares what the clock reads. So moments are
told relative to one another as the clock shows them: by their instants as long as the clock is not moved
between them, and otherwise with an elapsed time that is off by the distance it was moved. Without a zone
the clock shows universal time and is never moved.
-/

namespace PromptTemplates

open Calendar

/-- How far the clocks of a zone are ahead of universal time at an instant, in microseconds. -/
def Zone.offsetAt (z : Zone) (instant : Int) : Int :=
  match Moment.ofMicros? instant (.offset 0) with
  | some utc => (z.periodAt utc.wallSecond utc.yearMonthDay.year).1.offset * microsPerSecond
  | none => 0

namespace Formatter

variable {f : Formatter} {m t a b target : Moment} {value bound : Value} {clock : Option Value}

/-- How far the clock of the formatter is ahead of universal time when it shows a moment. A moment that has
been read off this clock keeps its reading. -/
def clockOffset (f : Formatter) (m : Moment) : Int :=
  match f.zone, m.anchor with
  | none, _ => 0
  | some z, .zone y _ => if y.name = z.name then m.offset?.getD 0 else z.offsetAt m.instant
  | some z, _ => z.offsetAt m.instant

/-- What the clock of the formatter reads at a moment. -/
def reading (f : Formatter) (m : Moment) : Int := m.instant + f.clockOffset m

/-- The moment is tied to the clock of the formatter. -/
def OnClock (f : Formatter) (m : Moment) : Prop :=
  match f.zone with
  | none => m.anchor = .offset 0
  | some z => ∃ y later, m.anchor = .zone y later ∧ y.name = z.name

theorem eq_of_ofMicros? {micros : Int} {anchor : Anchor} (h : Moment.ofMicros? micros anchor = some m) :
    (m.micros : Int) = micros ∧ m.anchor = anchor := by
  unfold Moment.ofMicros? at h
  split at h
  · cases h
    exact ⟨Int.toNat_of_nonneg (by omega), rfl⟩
  · cases h

theorem moveTo?_zone_eq_some {z : Zone} (h : m.moveTo? (some z) = some t) :
    (t.micros : Int) = m.instant + z.offsetAt m.instant ∧ ∃ later, t.anchor = .zone z later := by
  unfold Moment.moveTo? at h
  obtain ⟨utc, hutc, h⟩ := Option.bind_eq_some_iff.mp h
  change Moment.ofMicros? (utc.micros + (z.periodAt utc.wallSecond utc.yearMonthDay.year).1.offset *
    microsPerSecond) (.zone z _) = some t at h
  obtain ⟨hmicros, hanchor⟩ := eq_of_ofMicros? h
  refine ⟨?_, _, hanchor⟩
  rw [hmicros, (eq_of_ofMicros? hutc).1, Zone.offsetAt, hutc]

theorem moveTo?_none_eq_some (h : m.moveTo? none = some t) :
    (t.micros : Int) = m.instant ∧ t.anchor = .offset 0 := by
  unfold Moment.moveTo? at h
  obtain ⟨utc, hutc, h⟩ := Option.bind_eq_some_iff.mp h
  cases h
  exact eq_of_ofMicros? hutc

theorem inZone?_none : m.inZone? none = m.moveTo? none := by
  unfold Moment.inZone?
  split
  · next heq => cases heq
  · rfl

/-- A moment that is not read off the clock of a zone is moved to it. -/
theorem inZone?_some_of_away {z : Zone} (h : ∀ y later, m.anchor = .zone y later → y.name ≠ z.name) :
    m.inZone? (some z) = m.moveTo? (some z) ∧ clockOffset ⟨some z⟩ m = z.offsetAt m.instant := by
  unfold Moment.inZone? clockOffset
  cases hanchor : m.anchor with
  | zone y later =>
    have hne := h y later hanchor
    simp [hne]
  | _ => exact ⟨rfl, rfl⟩

theorem onClock_of_inZone? (h : m.inZone? f.zone = some t) :
    (t.micros : Int) = f.reading m ∧ f.OnClock t := by
  obtain ⟨zone⟩ := f
  cases zone with
  | none =>
    rw [inZone?_none] at h
    obtain ⟨hmicros, hanchor⟩ := moveTo?_none_eq_some h
    exact ⟨by rw [hmicros, reading, clockOffset, add_zero], hanchor⟩
  | some z =>
    by_cases hhere : ∃ y later, m.anchor = .zone y later ∧ y.name = z.name
    · obtain ⟨y, later, hanchor, hname⟩ := hhere
      have hkept : m.inZone? (some z) = some m := by simp [Moment.inZone?, hanchor, hname]
      obtain rfl : m = t := Option.some.inj (hkept.symm.trans h)
      refine ⟨?_, y, later, hanchor, hname⟩
      simp [reading, clockOffset, hanchor, hname, Moment.instant]
    · obtain ⟨hmoved, hoffset⟩ := inZone?_some_of_away fun y later hanchor hname =>
        hhere ⟨y, later, hanchor, hname⟩
      rw [hmoved] at h
      obtain ⟨hmicros, later, hanchor⟩ := moveTo?_zone_eq_some h
      exact ⟨by rw [hmicros, reading, hoffset], z, later, hanchor, rfl⟩

theorem reading_of_floating (h : m.anchor = .floating) :
    f.reading { m with anchor := .offset 0 } = f.reading m := by
  have hinstant : Moment.instant { m with anchor := .offset 0 } = m.instant := by
    simp [Moment.instant, Moment.offset?, h]
  rw [reading, reading, hinstant, clockOffset, clockOffset, h, hinstant]
  cases f.zone <;> rfl

/-- A moment is shown as what the clock reads; one that is not tied to universal time counts as such. -/
theorem onClock_of_localize (h : f.localize m = .ok t) : (t.micros : Int) = f.reading m ∧ f.OnClock t := by
  unfold localize at h
  dsimp only at h
  split at h
  · next shown hshown =>
    cases h
    cases hanchor : m.anchor with
    | floating =>
      rw [hanchor] at hshown
      rw [← reading_of_floating hanchor]
      exact onClock_of_inZone? hshown
    | _ =>
      rw [hanchor] at hshown
      exact onClock_of_inZone? hshown
  · cases h

theorem since_of_onClock (ha : f.OnClock a) (hb : f.OnClock b) : a.since b = a.micros - b.micros := by
  unfold OnClock at ha hb
  unfold Moment.since Moment.sameClock
  cases hzone : f.zone with
  | none =>
    rw [hzone] at ha hb
    simp [ha, hb, Moment.instant, Moment.offset?]
  | some z =>
    rw [hzone] at ha hb
    obtain ⟨x, _, ha, hx⟩ := ha
    obtain ⟨y, _, hb, hy⟩ := hb
    simp [ha, hb, hx, hy]

/-! ## What values stand for -/

/-- For the formatter, a value stands for a moment that its clock can show. -/
structure Means (f : Formatter) (value : Value) (clock : Option Value) (m : Moment) : Prop where
  coerce_eq : f.coerce value clock = f.localize m
  shown : ∃ t, f.localize m = .ok t

/-- A bound is null or stands for a moment; no clock is asked for it. -/
inductive Bounds (f : Formatter) : Value → Option Moment → Prop
  | unbounded : Bounds f .null none
  | bounded {value : Value} {m : Moment} (means : f.Means value none m) : Bounds f value (some m)

/-- A moment stands for itself. -/
theorem means_moment (h : ∃ t, f.localize m = .ok t) : f.Means (.moment m) clock m :=
  ⟨rfl, h⟩

/-- Null stands for the moment that the clock is at. -/
theorem means_null (h : ∃ t, f.localize m = .ok t) : f.Means .null (some (.moment m)) m :=
  ⟨rfl, h⟩

theorem moveTo?_none_of_universal (h : m.anchor = .offset 0) : m.moveTo? none = some m := by
  obtain ⟨micros, anchor, hlt⟩ := m
  cases h
  have hinstant : Moment.instant ⟨micros, .offset 0, hlt⟩ = micros := by
    simp [Moment.instant, Moment.offset?]
  unfold Moment.moveTo?
  rw [hinstant, Moment.ofMicros?, dif_pos ⟨by omega, by omega⟩]
  rfl

/-- A moment on the clock of the formatter is shown as it is. -/
theorem localize_of_onClock (h : f.OnClock m) : f.localize m = .ok m := by
  obtain ⟨zone⟩ := f
  unfold localize
  cases zone with
  | none =>
    have hanchor : m.anchor = .offset 0 := h
    simp only [hanchor, inZone?_none, moveTo?_none_of_universal hanchor]
  | some z =>
    obtain ⟨y, later, hanchor, hname⟩ := h
    have hkept : m.inZone? (some z) = some m := by simp [Moment.inZone?, hanchor, hname]
    simp only [hanchor, hkept]

theorem isBeyond_eq {limit : Option Moment} (hbound : f.Bounds bound limit) (ht : f.localize target = .ok t)
    (sign : Int) : f.isBeyond t bound sign =
      .ok (limit.any fun m => decide (0 < sign * (f.reading m - f.reading target))) := by
  obtain ⟨hmicros, hclock⟩ := onClock_of_localize ht
  cases hbound with
  | unbounded => rfl
  | @bounded value m means =>
    obtain ⟨hcoerce, shown, hshown⟩ := means
    obtain ⟨hlimit, hclock'⟩ := onClock_of_localize hshown
    have hsince := since_of_onClock hclock' hclock
    rw [hmicros, hlimit] at hsince
    unfold isBeyond
    rw [hshown] at hcoerce
    split
    · cases hcoerce
    · rw [hcoerce]
      change Except.ok (decide (0 < sign * shown.since t)) = _
      rw [hsince]
      rfl

/-! ## Relative times -/

/-- How a target is told relative to now, in microseconds of one clock: by its date if it lies before the
earliest or after the latest time, and otherwise by the time between the two. -/
inductive Tells (date : String) (target now : Int) (earliest latest : Option Int) : String → Prop
  | beyond (outside : (∃ first ∈ earliest, target < first) ∨ ∃ last ∈ latest, last < target) :
      Tells date target now earliest latest date
  | between {seconds : Nat} {text : String} (afterFirst : ∀ first ∈ earliest, first ≤ target)
      (beforeLast : ∀ last ∈ latest, target ≤ last)
      (counts : CountsAs (now - target).natAbs seconds) (told : Told (now - target) seconds text) :
      Tells date target now earliest latest text

/-- Only the distances of the times matter. -/
theorem Tells.of_shift {date text : String} {time now k : Int} {earliest latest : Option Int}
    (h : Tells date (time + k) (now + k) (earliest.map (· + k)) (latest.map (· + k)) text) :
    Tells date time now earliest latest text := by
  have hdistance : now + k - (time + k) = now - time := by omega
  cases h with
  | beyond outside =>
    refine .beyond (outside.imp ?_ ?_)
    · rintro ⟨_, hfirst, hlt⟩
      obtain ⟨first, hmem, rfl⟩ := Option.map_eq_some_iff.mp hfirst
      exact ⟨first, hmem, by omega⟩
    · rintro ⟨_, hlast, hlt⟩
      obtain ⟨last, hmem, rfl⟩ := Option.map_eq_some_iff.mp hlast
      exact ⟨last, hmem, by omega⟩
  | between afterFirst beforeLast counts told =>
    rw [hdistance] at counts told
    refine .between (fun first hfirst => ?_) (fun last hlast => ?_) counts told
    · have := afterFirst (first + k) (Option.map_eq_some_iff.mpr ⟨first, hfirst, rfl⟩)
      omega
    · have := beforeLast (last + k) (Option.map_eq_some_iff.mpr ⟨last, hlast, rfl⟩)
      omega

variable {present : Moment} {first last limit : Option Moment}

theorem map_reading {k : Int} (h : ∀ m ∈ limit, f.clockOffset m = k) :
    limit.map f.reading = (limit.map (·.instant)).map (· + k) := by
  cases limit with
  | none => rfl
  | some m => exact congrArg (fun offset => some (m.instant + offset)) (h m rfl)

/-- The clock tells the instants if it is as far ahead of universal time at all of them. -/
theorem Tells.of_readings {date text : String}
    (h : Tells date (f.reading target) (f.reading present) (first.map f.reading) (last.map f.reading) text)
    (hsteady : ∀ m, m = present ∨ m ∈ first ∨ m ∈ last → f.clockOffset m = f.clockOffset target) :
    Tells date target.instant present.instant (first.map (·.instant)) (last.map (·.instant)) text := by
  rw [map_reading fun m hm => hsteady m (.inr (.inl hm)), map_reading fun m hm => hsteady m (.inr (.inr hm)),
    reading, reading, hsteady present (.inl rfl)] at h
  exact h.of_shift

/-- The moments within the bounds are told by the time between them. -/
theorem tells_relativeText {date : String} {shown shownNow : Moment} (hshown : f.localize target = .ok shown)
    (hshownNow : f.localize present = .ok shownNow)
    (hafter : ∀ m ∈ first, f.reading m ≤ f.reading target)
    (hbefore : ∀ m ∈ last, f.reading target ≤ f.reading m) :
    Tells date (f.reading target) (f.reading present) (first.map f.reading) (last.map f.reading)
      (relativeText (shownNow.since shown)) := by
  obtain ⟨hmicros, hclock⟩ := onClock_of_localize hshown
  obtain ⟨hmicrosNow, hclockNow⟩ := onClock_of_localize hshownNow
  have helapsed : shownNow.since shown = f.reading present - f.reading target := by
    rw [since_of_onClock hclockNow hclock, hmicros, hmicrosNow]
  have hlimit : (f.reading present - f.reading target).natAbs < microLimit := by
    have := shown.micros_lt
    have := shownNow.micros_lt
    omega
  rw [helapsed]
  refine .between ?_ ?_ (countsAs_wholeSeconds hlimit) (told_relativeText hlimit)
  · rintro _ hfirst
    obtain ⟨m, hm, rfl⟩ := Option.map_eq_some_iff.mp hfirst
    exact hafter m hm
  · rintro _ hlast
    obtain ⟨m, hm, rfl⟩ := Option.map_eq_some_iff.mp hlast
    exact hbefore m hm

/-- The formatter tells a target relative to now by what its clock reads at the moments. That is what the
instants say, as long as the clock is as far ahead of universal time at all of them. -/
theorem relative_tells_readings (f : Formatter) {value now earliest latest : Value}
    {target present : Moment} {first last : Option Moment}
    (htarget : f.Means value (some now) target) (hpresent : f.Means .null (some now) present)
    (hfirst : f.Bounds earliest first) (hlast : f.Bounds latest last) :
    ∃ shown text, f.localize target = .ok shown ∧ f.relative value now earliest latest = .ok text ∧
      Tells shown.longDate (f.reading target) (f.reading present) (first.map f.reading)
        (last.map f.reading) text ∧
      ((∀ m, m = present ∨ m ∈ first ∨ m ∈ last → f.clockOffset m = f.clockOffset target) →
        Tells shown.longDate target.instant present.instant (first.map (·.instant))
          (last.map (·.instant)) text) := by
  obtain ⟨hcoerce, shown, hshown⟩ := htarget
  obtain ⟨hcoerceNow, shownNow, hshownNow⟩ := hpresent
  rw [hshown] at hcoerce
  rw [hshownNow] at hcoerceNow
  have htold : ∃ text, f.relative value now earliest latest = .ok text ∧
      Tells shown.longDate (f.reading target) (f.reading present) (first.map f.reading)
        (last.map f.reading) text := by
    unfold relative
    simp only [hcoerce, hcoerceNow, isBeyond_eq hfirst hshown, isBeyond_eq hlast hshown, bind, Except.bind,
      Option.any_eq_true, decide_eq_true_eq]
    split
    · next houtside =>
      obtain ⟨m, hm, hlt⟩ := houtside
      exact ⟨_, rfl, .beyond (.inl ⟨_, Option.map_eq_some_iff.mpr ⟨m, hm, rfl⟩, by omega⟩)⟩
    split
    · next houtside =>
      obtain ⟨m, hm, hlt⟩ := houtside
      exact ⟨_, rfl, .beyond (.inr ⟨_, Option.map_eq_some_iff.mpr ⟨m, hm, rfl⟩, by omega⟩)⟩
    next hafter hbefore =>
    refine ⟨_, rfl, tells_relativeText hshown hshownNow (fun m hm => ?_) fun m hm => ?_⟩
    · exact Int.not_lt.mp fun hlt => hafter ⟨m, hm, by omega⟩
    · exact Int.not_lt.mp fun hlt => hbefore ⟨m, hm, by omega⟩
  obtain ⟨text, hrelative, htells⟩ := htold
  exact ⟨shown, text, hshown, hrelative, htells, htells.of_readings⟩

/-- 2025-11-02T05:30:00 of universal time, half an hour before the clocks of New York go back. -/
def halfPastOne : Moment := ⟨63897658200000000, .offset 0, by decide⟩

/-- 2025-11-02T06:30:00 of universal time, half an hour after the clocks of New York have gone back. -/
def halfPastOneAgain : Moment := ⟨63897661800000000, .offset 0, by decide⟩

theorem exists_shown (h : (f.localize m).toOption.isSome = true) : ∃ t, f.localize m = .ok t := by
  cases hshown : f.localize m with
  | ok t => exact ⟨t, rfl⟩
  | error fault => simp [hshown, Except.toOption] at h

/-- An hour has passed, but the clock of the zone reads the same. -/
theorem relative_fallBack : Formatter.ofChoice (.named "America/New_York") = .ok ⟨some .newYork⟩ ∧
    halfPastOneAgain.instant - halfPastOne.instant = 3600 * microsPerSecond ∧
    (relative ⟨some .newYork⟩ (.moment halfPastOne) (.moment halfPastOneAgain) .null .null).toOption =
      some "just now" ∧
    (relative ⟨none⟩ (.moment halfPastOne) (.moment halfPastOneAgain) .null .null).toOption =
      some "1 hour ago" := by
  refine ⟨rfl, by decide +kernel, by decide +kernel, by decide +kernel⟩

/-- The target lies an hour before the earliest time, which is now, but the clock reads the same at both, so
it is told as now. -/
theorem relative_tells_fallBack :
    Means ⟨some .newYork⟩ (.moment halfPastOne) (some (.moment halfPastOneAgain)) halfPastOne ∧
      Means ⟨some .newYork⟩ .null (some (.moment halfPastOneAgain)) halfPastOneAgain ∧
      Bounds ⟨some .newYork⟩ (.moment halfPastOneAgain) (some halfPastOneAgain) ∧
      Bounds ⟨some .newYork⟩ .null none ∧
      relative ⟨some .newYork⟩ (.moment halfPastOne) (.moment halfPastOneAgain)
        (.moment halfPastOneAgain) .null = .ok "just now" := by
  have htarget : Means ⟨some .newYork⟩ (.moment halfPastOne) (some (.moment halfPastOneAgain))
      halfPastOne := means_moment (exists_shown (by decide))
  have hpresent : Means ⟨some .newYork⟩ .null (some (.moment halfPastOneAgain)) halfPastOneAgain :=
    means_null (exists_shown (by decide))
  have hearliest : Bounds ⟨some .newYork⟩ (.moment halfPastOneAgain) (some halfPastOneAgain) :=
    .bounded (means_moment hpresent.shown)
  have hsame : reading ⟨some .newYork⟩ halfPastOneAgain = reading ⟨some .newYork⟩ halfPastOne := by
    decide
  obtain ⟨shown, text, -, hrelative, htells, -⟩ :=
    relative_tells_readings ⟨some .newYork⟩ htarget hpresent hearliest .unbounded
  refine ⟨htarget, hpresent, hearliest, .unbounded, ?_⟩
  rw [hrelative]
  rw [hsame, Option.map_some, hsame] at htells
  cases htells with
  | beyond outside =>
    obtain ⟨_, hfirst, hlt⟩ | ⟨_, hlast, -⟩ := outside
    · cases hfirst
      exact absurd hlt (lt_irrefl _)
    · cases hlast
  | between _ _ _ told =>
    rw [sub_self] at told
    cases told with
    | now => rfl
    | ago before => exact absurd before (by decide)
    | ahead behind => exact absurd behind (by decide)

end Formatter

end PromptTemplates
