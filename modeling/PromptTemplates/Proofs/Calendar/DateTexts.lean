import PromptTemplates.Proofs.Calendar.Spellings

/-!
# Texts of dates

Every style of dates shows the day of a moment, nothing else, and tells any two days apart. A date keeps
its day in every zone. Its ISO text is read as the start of the day of universal time instead, so it shows
the day that the clock of the zone reads then, which is the day before wherever the clock is behind.
-/

namespace PromptTemplates

open Calendar Number

/-! ## Telling days apart -/

/-- Texts that are cut at the same character have the same parts. -/
theorem parts_eq_of_notMem {mark : Char} {front front' rest rest' : List Char} (hfront : mark ∉ front)
    (hfront' : mark ∉ front') (h : front ++ mark :: rest = front' ++ mark :: rest') :
    front = front' ∧ rest = rest' := by
  have hkept {s : List Char} (hs : mark ∉ s) : ∀ c ∈ s, decide (c ≠ mark) = true := by
    intro c hc
    rw [decide_eq_true_eq]
    rintro rfl
    exact hs hc
  have hstops (rest : List Char) : Stops (fun c => decide (c ≠ mark)) (mark :: rest) := by
    rintro c ⟨⟩
    simp
  have hfronts := congrArg (List.takeWhile fun c => decide (c ≠ mark)) h
  have hrests := congrArg (List.dropWhile fun c => decide (c ≠ mark)) h
  rw [takeWhile_append_of_stops (hkept hfront) (hstops rest),
    takeWhile_append_of_stops (hkept hfront') (hstops rest')] at hfronts
  rw [dropWhile_append_of_stops (hkept hfront) (hstops rest),
    dropWhile_append_of_stops (hkept hfront') (hstops rest')] at hrests
  exact ⟨hfronts, (List.cons.inj hrests).2⟩

theorem notMem_of_isDigit {mark : Char} {digits : List Char} (hmark : mark.isDigit = false)
    (h : ∀ c ∈ digits, c.isDigit = true) : mark ∉ digits := by
  intro hmem
  rw [h mark hmem] at hmark
  cases hmark

theorem repr_inj {n k : Nat} (h : (Nat.repr n).toList = (Nat.repr k).toList) : n = k := by
  have hvalue := congrArg valueOf h
  rwa [valueOf_repr, valueOf_repr] at hvalue

theorem padded_inj {width n k : Nat} (h : (padded width n).toList = (padded width k).toList) : n = k := by
  have hvalue := congrArg valueOf h
  rwa [toList_padded, toList_padded, valueOf_zeros_append, valueOf_zeros_append, valueOf_repr,
    valueOf_repr] at hvalue

namespace Calendar.Moment

variable {m other : Moment}

/-- The names of the months differ in their first three letters, and no name has a blank. -/
theorem monthName_spec : ∀ month ∈ List.range' 1 12, ' ' ∉ (monthName month).toList ∧
    ∀ other ∈ List.range' 1 12, monthAbbreviation month = monthAbbreviation other → month = other := by
  decide

theorem month_mem (m : Moment) : m.yearMonthDay.month ∈ List.range' 1 12 := by
  obtain ⟨-, -, hfirst, hlast, -, -⟩ := split_bounds (Iso.days_lt m)
  rw [List.mem_range'_1]
  exact ⟨hfirst, Nat.lt_succ_of_le hlast⟩

theorem notMem_monthName (m : Moment) : ' ' ∉ (monthName m.yearMonthDay.month).toList :=
  (monthName_spec _ m.month_mem).1

theorem notMem_monthAbbreviation (m : Moment) : ' ' ∉ (monthAbbreviation m.yearMonthDay.month).toList := by
  unfold monthAbbreviation
  rw [String.toList_ofList]
  intro hmem
  exact m.notMem_monthName (List.mem_of_mem_take hmem)

theorem month_eq_of_abbreviation (h : (monthAbbreviation m.yearMonthDay.month).toList =
    (monthAbbreviation other.yearMonthDay.month).toList) :
    m.yearMonthDay.month = other.yearMonthDay.month :=
  (monthName_spec _ m.month_mem).2 _ other.month_mem (String.toList_injective h)

theorem month_eq_of_name (h : (monthName m.yearMonthDay.month).toList =
    (monthName other.yearMonthDay.month).toList) : m.yearMonthDay.month = other.yearMonthDay.month := by
  apply month_eq_of_abbreviation
  unfold monthAbbreviation
  rw [h]

/-- Year, month and day determine the day. -/
theorem days_eq_of_parts (hyear : m.yearMonthDay.year = other.yearMonthDay.year)
    (hmonth : m.yearMonthDay.month = other.yearMonthDay.month)
    (hday : m.yearMonthDay.day = other.yearMonthDay.day) : m.days = other.days := by
  apply split_inj (Iso.days_lt m) (Iso.days_lt other)
  change m.yearMonthDay = other.yearMonthDay
  cases hm : m.yearMonthDay
  cases hother : other.yearMonthDay
  rw [hm, hother] at hyear hmonth hday
  cases hyear
  cases hmonth
  cases hday
  rfl

/-- What is written of a moment shows its day and nothing else. -/
structure WritesDay (written : Moment → String) : Prop where
  congr : ∀ {m other : Moment}, m.days = other.days → written m = written other
  inj : ∀ {m other : Moment}, written m = written other → m.days = other.days

theorem yearMonthDay_congr (h : m.days = other.days) : m.yearMonthDay = other.yearMonthDay :=
  congrArg Date.split h

theorem notMem_repr {mark : Char} (hmark : mark.isDigit = false) (n : Nat) : mark ∉ (Nat.repr n).toList :=
  notMem_of_isDigit hmark fun _ => isDigit_of_mem_repr

theorem writesDay_plainDate : WritesDay plainDate := by
  constructor
  · intro m other h
    unfold plainDate
    rw [yearMonthDay_congr h]
  · intro m other h
    have hhyphen (m : Moment) : '-' ∉ (padded 2 m.yearMonthDay.month).toList := by
      obtain ⟨-, -, -, hlast, -, -⟩ := split_bounds (Iso.days_lt m)
      apply notMem_of_isDigit (by decide)
      exact (writes_two (Nat.lt_of_le_of_lt hlast (by decide))).isDigit
    have hchars (m : Moment) : m.plainDate.toList = (Nat.repr m.yearMonthDay.year).toList ++ '-' ::
        ((padded 2 m.yearMonthDay.month).toList ++ '-' :: (padded 2 m.yearMonthDay.day).toList) := by
      simp [plainDate, Nat.toString_eq_repr]
    have htexts := congrArg String.toList h
    rw [hchars, hchars] at htexts
    obtain ⟨hyear, hrest⟩ := parts_eq_of_notMem (notMem_repr (by decide) _) (notMem_repr (by decide) _) htexts
    obtain ⟨hmonth, hday⟩ := parts_eq_of_notMem (hhyphen m) (hhyphen other) hrest
    exact days_eq_of_parts (repr_inj hyear) (padded_inj hmonth) (padded_inj hday)

/-- The name of a month, the day and the year. -/
theorem writesDay_named {name : Nat → String} {written : Moment → String}
    (hwritten : ∀ m : Moment, written m = name m.yearMonthDay.month ++ " " ++
      toString m.yearMonthDay.day ++ ", " ++ toString m.yearMonthDay.year)
    (hblank : ∀ m : Moment, ' ' ∉ (name m.yearMonthDay.month).toList)
    (hname : ∀ {m other : Moment}, (name m.yearMonthDay.month).toList =
      (name other.yearMonthDay.month).toList → m.yearMonthDay.month = other.yearMonthDay.month) :
    WritesDay written := by
  constructor
  · intro m other h
    rw [hwritten, hwritten, yearMonthDay_congr h]
  · intro m other h
    have hchars (m : Moment) : (written m).toList = (name m.yearMonthDay.month).toList ++ ' ' ::
        ((Nat.repr m.yearMonthDay.day).toList ++ ',' :: ' ' :: (Nat.repr m.yearMonthDay.year).toList) := by
      simp [hwritten, Nat.toString_eq_repr]
    have htexts := congrArg String.toList h
    rw [hchars, hchars] at htexts
    obtain ⟨hmonth, hrest⟩ := parts_eq_of_notMem (hblank m) (hblank other) htexts
    obtain ⟨hday, hyear⟩ := parts_eq_of_notMem (notMem_repr (by decide) _) (notMem_repr (by decide) _) hrest
    exact days_eq_of_parts (repr_inj (List.cons.inj hyear).2) (hname hmonth) (repr_inj hday)

theorem writesDay_longDate : WritesDay longDate :=
  writesDay_named (fun _ => rfl) notMem_monthName month_eq_of_name

theorem writesDay_mediumDate : WritesDay mediumDate :=
  writesDay_named (fun _ => rfl) notMem_monthAbbreviation month_eq_of_abbreviation

theorem writesDay_shortDate : WritesDay shortDate := by
  constructor
  · intro m other h
    unfold shortDate
    rw [yearMonthDay_congr h]
  · intro m other h
    have hchars (m : Moment) : m.shortDate.toList = (Nat.repr m.yearMonthDay.month).toList ++ '/' ::
        ((Nat.repr m.yearMonthDay.day).toList ++ '/' :: (Nat.repr m.yearMonthDay.year).toList) := by
      simp [shortDate, Nat.toString_eq_repr]
    have htexts := congrArg String.toList h
    rw [hchars, hchars] at htexts
    obtain ⟨hmonth, hrest⟩ := parts_eq_of_notMem (notMem_repr (by decide) _) (notMem_repr (by decide) _) htexts
    obtain ⟨hday, hyear⟩ := parts_eq_of_notMem (notMem_repr (by decide) _) (notMem_repr (by decide) _) hrest
    exact days_eq_of_parts (repr_inj hyear) (repr_inj hmonth) (repr_inj hday)

theorem days_midnight (d : Date) (anchor : Anchor) : (midnight d anchor).days = d.days :=
  Nat.mul_div_cancel _ (by decide)

end Calendar.Moment

/-- The styles of dates, with what they write of a moment. -/
def dateStyles : List (Style × (Moment → String)) :=
  [(.date, Moment.plainDate), (.dateLong, Moment.longDate), (.dateMedium, Moment.mediumDate),
   (.dateShort, Moment.shortDate)]

variable {f : Formatter} {d : Date} {m t : Moment} {style : Style} {written : Moment → String}
  {meridiem zone : Value} {clock : Option Value}

theorem writesDay_of_mem (h : (style, written) ∈ dateStyles) : Moment.WritesDay written := by
  simp only [dateStyles, List.mem_cons, Prod.mk.injEq, List.not_mem_nil, or_false] at h
  rcases h with ⟨-, rfl⟩ | ⟨-, rfl⟩ | ⟨-, rfl⟩ | ⟨-, rfl⟩
  · exact Moment.writesDay_plainDate
  · exact Moment.writesDay_longDate
  · exact Moment.writesDay_mediumDate
  · exact Moment.writesDay_shortDate

namespace Formatter

theorem write_of_mem (h : (style, written) ∈ dateStyles) : f.write m style meridiem zone = pure (written m) := by
  simp only [dateStyles, List.mem_cons, Prod.mk.injEq, List.not_mem_nil, or_false] at h
  rcases h with ⟨rfl, rfl⟩ | ⟨rfl, rfl⟩ | ⟨rfl, rfl⟩ | ⟨rfl, rfl⟩
  · rfl
  · rfl
  · rfl
  · rfl

/-- A date is shown as its day, if the local zone can tell that the clock was not moved. -/
theorem format_date (hstyle : (style, written) ∈ dateStyles) (hfirst : 0 < d.days) :
    f.format (.date d) style meridiem zone clock = pure (written (Moment.midnight d .floating)) := by
  obtain ⟨anchor, hstart⟩ : ∃ anchor, f.startOfDay d = .ok (Moment.midnight d anchor) := by
    unfold startOfDay
    cases f.zone with
    | some z => exact ⟨_, rfl⟩
    | none => exact ⟨_, if_neg hfirst.ne'⟩
  have hcoerce : f.coerce (.date d) clock = .ok (Moment.midnight d anchor) := hstart
  have hday : written (Moment.midnight d anchor) = written (Moment.midnight d .floating) := by
    apply (writesDay_of_mem hstyle).congr
    rw [Moment.days_midnight, Moment.days_midnight]
  rw [format_of_ok hcoerce, write_of_mem hstyle, hday]

/-- A free moment is shown as what the clock of the formatter reads at it. -/
theorem exists_localize_eq (hfree : IsFree m) (hlow : 0 ≤ m.instant) (hhigh : m.instant < microLimit) :
    ∃ anchor, f.localize m =
      (Moment.ofMicros? (f.reading m) anchor).elim (.error (.plain .overflow)) .ok := by
  obtain ⟨utc, hutc⟩ : ∃ utc, Moment.ofMicros? m.instant (.offset 0) = some utc :=
    ⟨_, dif_pos ⟨hlow, hhigh⟩⟩
  rw [localize_of_isFree hfree]
  obtain ⟨zone⟩ := f
  cases zone with
  | none =>
    have hreading : reading ⟨none⟩ m = m.instant := Int.add_zero m.instant
    have hmoved : m.moveTo? none = Moment.ofMicros? m.instant (.offset 0) := by
      unfold Moment.moveTo?
      rw [hutc]
      rfl
    exact ⟨.offset 0, by rw [hreading, hmoved]⟩
  | some z =>
    have hoffset := (inZone?_some_of_away (z := z) fun y later hanchor => absurd hanchor (hfree y later)).2
    have hreading : reading ⟨some z⟩ m =
        utc.micros + (z.periodAt utc.wallSecond utc.yearMonthDay.year).1.offset * microsPerSecond := by
      unfold reading
      rw [hoffset, Zone.offsetAt, hutc, (eq_of_ofMicros? hutc).1]
    have hmoved : m.moveTo? (some z) = Moment.ofMicros? (reading ⟨some z⟩ m)
        (.zone z (z.periodAt utc.wallSecond utc.yearMonthDay.year).2) := by
      unfold Moment.moveTo?
      rw [hutc, hreading]
      rfl
    exact ⟨_, by rw [hmoved]⟩

theorem ofMicros?_anchor (micros : Int) (anchor other : Anchor) :
    Moment.ofMicros? micros anchor =
      (Moment.ofMicros? micros other).map fun m => { m with anchor := anchor } := by
  unfold Moment.ofMicros?
  split
  · rfl
  · rfl

/-- The start of a day of universal time. -/
theorem instant_midnight (d : Date) : (Moment.midnight d .floating).instant = d.days * microsPerDay := by
  unfold Moment.instant Moment.offset? Moment.midnight
  dsimp only [Option.getD]
  push_cast
  ring

theorem coerce_dateText (f : Formatter) (d : Date) (clock : Option Value) :
    f.coerce (.str d.text) clock = f.localize (Moment.midnight d .floating) := by
  apply coerce_str_of_ok
  exact momentOfText_of_isPlain (Iso.isPlain_dateText d) (Iso.parse?_dateText d)

/-- The ISO text of a date is shown as the day that the clock reads when the day starts in universal time. -/
theorem format_dateText (hstyle : (style, written) ∈ dateStyles) :
    f.format (.str d.text) style meridiem zone clock =
      (Moment.ofMicros? (f.reading (Moment.midnight d .floating)) .floating).elim
        (throw (.plain .overflow)) fun m => pure (written m) := by
  have hlow : 0 ≤ (Moment.midnight d .floating).instant := by
    rw [instant_midnight]
    unfold microsPerDay
    omega
  have hhigh : (Moment.midnight d .floating).instant < microLimit := by
    have hdays := d.days_lt
    rw [instant_midnight]
    unfold microLimit microsPerDay
    omega
  obtain ⟨anchor, hlocalize⟩ := exists_localize_eq (f := f) (isFree_of_floating rfl) hlow hhigh
  have hcoerce := (f.coerce_dateText d clock).trans hlocalize
  rw [ofMicros?_anchor _ anchor .floating] at hcoerce
  cases hread : Moment.ofMicros? (f.reading (Moment.midnight d .floating)) .floating with
  | none =>
    rw [hread, Option.map_none, Option.elim_none] at hcoerce
    rw [format_of_error hcoerce, Option.elim_none]
  | some m =>
    rw [hread, Option.map_some, Option.elim_some] at hcoerce
    have hday : written { m with anchor := anchor } = written m := (writesDay_of_mem hstyle).congr rfl
    rw [format_of_ok hcoerce, write_of_mem hstyle, Option.elim_some, hday]

theorem pure_ne_throw {text : String} {fault : Fault} : (pure text : Action String) ≠ throw fault := by
  intro h
  have houtcome := congrFun h []
  cases houtcome

theorem pure_inj {text other : String} (h : (pure text : Action String) = pure other) : text = other := by
  have houtcome := congrFun h []
  cases houtcome
  rfl

/-- The clock shows the day that starts in universal time exactly if it is ahead, by less than a day. -/
theorem days_eq_iff {offset : Int} (hread : (m.micros : Int) = d.days * microsPerDay + offset) :
    m.days = d.days ↔ 0 ≤ offset ∧ offset < microsPerDay := by
  unfold Moment.days microsPerDay at *
  omega

/-- In every style of dates, a date is formatted as its own day, and its ISO text as the day that the clock
reads when this day starts in universal time. The two agree exactly where the clock is not behind universal
time then, nor a day ahead. -/
theorem format_dateText_eq_iff (f : Formatter) (hstyle : (style, written) ∈ dateStyles)
    (hfirst : 0 < d.days) (meridiem zone : Value) (clock : Option Value) :
    f.format (.date d) style meridiem zone clock = pure (written (Moment.midnight d .floating)) ∧
    f.format (.str d.text) style meridiem zone clock =
      (Moment.ofMicros? (f.reading (Moment.midnight d .floating)) .floating).elim
        (throw (.plain .overflow)) (fun m => pure (written m)) ∧
    (f.format (.str d.text) style meridiem zone clock = f.format (.date d) style meridiem zone clock ↔
      0 ≤ f.clockOffset (Moment.midnight d .floating) ∧
        f.clockOffset (Moment.midnight d .floating) < microsPerDay) := by
  have hdate : f.format (.date d) style meridiem zone clock = _ := format_date hstyle hfirst
  have htext : f.format (.str d.text) style meridiem zone clock = _ := format_dateText hstyle
  have hreading : f.reading (Moment.midnight d .floating) =
      d.days * microsPerDay + f.clockOffset (Moment.midnight d .floating) := by
    rw [reading, instant_midnight]
  have hday := writesDay_of_mem hstyle
  refine ⟨hdate, htext, ?_⟩
  rw [hdate, htext]
  generalize f.clockOffset (Moment.midnight d .floating) = offset at hreading
  rw [hreading]
  cases hread : Moment.ofMicros? (d.days * microsPerDay + offset) .floating with
  | none =>
    rw [Option.elim_none]
    constructor
    · intro h
      exact absurd h.symm pure_ne_throw
    · rintro ⟨hlow, hhigh⟩
      have hlt := d.days_lt
      rw [Moment.ofMicros?, dif_pos (by unfold microLimit microsPerDay at *; omega)] at hread
      cases hread
  | some m =>
    rw [Option.elim_some, ← days_eq_iff (eq_of_ofMicros? hread).1]
    constructor
    · intro h
      exact (hday.inj (pure_inj h)).trans (Moment.days_midnight d .floating)
    · intro h
      rw [hday.congr (h.trans (Moment.days_midnight d .floating).symm)]

/-- 2025-01-01. -/
def newYear : Date := ⟨739251, by decide⟩

/-- When 2025 starts in universal time, the clock of New York still shows 2024, and that of Kathmandu does
not. -/
theorem format_dateText_newYear : (Style.date, Moment.plainDate) ∈ dateStyles ∧ 0 < newYear.days ∧
    format ⟨some .newYork⟩ (.str newYear.text) .date .null .null none ≠
      format ⟨some .newYork⟩ (.date newYear) .date .null .null none ∧
    format ⟨some .kathmandu⟩ (.str newYear.text) .date .null .null none =
      format ⟨some .kathmandu⟩ (.date newYear) .date .null .null none := by
  have hstyle : (Style.date, Moment.plainDate) ∈ dateStyles := List.mem_cons_self
  have hfirst : 0 < newYear.days := by decide
  obtain ⟨-, -, hnewYork⟩ := format_dateText_eq_iff ⟨some .newYork⟩ hstyle hfirst .null .null none
  obtain ⟨-, -, hkathmandu⟩ := format_dateText_eq_iff ⟨some .kathmandu⟩ hstyle hfirst .null .null none
  refine ⟨hstyle, hfirst, ?_, ?_⟩
  · intro h
    exact absurd (hnewYork.mp h) (by decide)
  · exact hkathmandu.mpr (by decide)

/-- The ISO text of a date shows the day before in New York. -/
theorem format_newYear_behind : newYear.text = "2025-01-01" ∧
    format ⟨some .newYork⟩ (.date newYear) .date .null .null none = pure "2025-01-01" ∧
    format ⟨some .newYork⟩ (.str "2025-01-01") .date .null .null none = pure "2024-12-31" := by
  have hstyle : (Style.date, Moment.plainDate) ∈ dateStyles := List.mem_cons_self
  have htext : newYear.text = "2025-01-01" := by decide
  have hdate : Moment.plainDate (Moment.midnight newYear .floating) = "2025-01-01" := by decide
  have hread : (Moment.ofMicros? (reading ⟨some .newYork⟩ (Moment.midnight newYear .floating)) .floating).map
      Moment.plainDate = some "2024-12-31" := by
    decide
  obtain ⟨m, hm, hshown⟩ := Option.map_eq_some_iff.mp hread
  refine ⟨htext, ?_, ?_⟩
  · rw [format_date hstyle (by decide), hdate]
  · rw [← htext, format_dateText hstyle, hm, Option.elim_some, hshown]

end Formatter

end PromptTemplates
