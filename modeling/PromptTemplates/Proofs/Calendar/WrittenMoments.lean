import PromptTemplates.Calendar.Coerce
import PromptTemplates.Proofs.Calendar.DayNumbers
import PromptTemplates.Proofs.Number.Numerals
import PromptTemplates.Proofs.Text.Octets

/-!
# Written moments read back

The ISO 8601 text of a moment on a whole second is read as this moment, if its offset is a number of
minutes, and the text of a date as the start of this day, of no particular zone.
-/

namespace PromptTemplates

namespace Calendar

open Number Text

/-! ## Numbers of a fixed width -/

/-- The characters are digits, `width` of them, and write the number. -/
structure Writes (width n : Nat) (digits : List Char) : Prop where
  isDigit : ∀ c ∈ digits, c.isDigit = true
  length_eq : digits.length = width
  valueOf_eq : valueOf digits = n

theorem toList_padded (width n : Nat) : (padded width n).toList =
    List.replicate (width - (Nat.repr n).toList.length) '0' ++ (Nat.repr n).toList := by
  unfold padded
  rw [String.toList_ofList]

theorem writes_padded {width n : Nat} (hwidth : 0 < width) (h : n < 10 ^ width) :
    Writes width n (padded width n).toList := by
  have hlength : (Nat.repr n).toList.length ≤ width := by
    rw [String.length_toList]
    exact (Nat.length_repr_le_iff hwidth).mpr h
  rw [toList_padded]
  constructor
  · intro c hc
    rcases List.mem_append.mp hc with hc | hc
    · rw [List.eq_of_mem_replicate hc]
      rfl
    · exact isDigit_of_mem_repr hc
  · rw [List.length_append, List.length_replicate]
    omega
  · rw [valueOf_zeros_append, valueOf_repr]

theorem writes_two {n : Nat} (h : n < 100) : Writes 2 n (padded 2 n).toList :=
  writes_padded (by decide) h

theorem writes_four {n : Nat} (h : n < 10000) : Writes 4 n (padded 4 n).toList :=
  writes_padded (by decide) h

namespace Iso

variable {digits : List Char} {rest : Octets}

theorem digits?_asciiOctets (h : ∀ c ∈ digits, c.isDigit = true) (n : Nat) (rest : Octets) :
    digits? digits.length n (asciiOctets digits ++ rest) = some (Nat.ofDigitChars 10 digits n, rest) := by
  induction digits generalizing n with
  | nil => rfl
  | cons c digits ih =>
    obtain ⟨hc, hdigits⟩ := List.forall_mem_cons.mp h
    obtain ⟨hlower, hupper⟩ := isDigit_iff.mp hc
    have hvalue : (UInt8.ofNat c.toNat).toNat = c.toNat :=
      UInt8.toNat_ofNat_of_lt' (Nat.lt_of_le_of_lt hupper (by decide))
    have hdigit : (48 : UInt8) ≤ UInt8.ofNat c.toNat ∧ UInt8.ofNat c.toNat ≤ 57 := by
      rw [UInt8.le_iff_toNat_le, UInt8.le_iff_toNat_le, hvalue]
      exact ⟨hlower, hupper⟩
    change ((if (48 : UInt8) ≤ UInt8.ofNat c.toNat ∧ UInt8.ofNat c.toNat ≤ 57 then
      some ((UInt8.ofNat c.toNat).toNat - 48) else none).bind fun d =>
        digits? digits.length (n * 10 + d) (asciiOctets digits ++ rest)) = _
    rw [if_pos hdigit, hvalue, Option.bind_some, ih hdigits, Nat.ofDigitChars_cons, Nat.mul_comm]
    rfl

theorem digits?_of_writes {width n : Nat} (h : Writes width n digits) (rest : Octets) :
    digits? width 0 (asciiOctets digits ++ rest) = some (n, rest) := by
  obtain ⟨hdigits, rfl, rfl⟩ := h
  exact digits?_asciiOctets hdigits 0 rest

/-- Digits are none of the marks that structure a text. -/
theorem octetAt_ne_of_writes {width n : Nat} {mark : UInt8} (h : Writes width n digits) (hwidth : 0 < width)
    (hmark : mark < 48 ∨ 57 < mark) (rest : Octets) : octetAt (asciiOctets digits ++ rest) 0 ≠ mark := by
  obtain ⟨hdigits, hlength, -⟩ := h
  cases digits with
  | nil =>
    rw [List.length_nil] at hlength
    omega
  | cons c digits =>
    obtain ⟨hlower, hupper⟩ := isDigit_iff.mp (hdigits c List.mem_cons_self)
    intro heq
    have hvalue : mark.toNat = c.toNat := by
      rw [← heq]
      exact UInt8.toNat_ofNat_of_lt' (Nat.lt_of_le_of_lt hupper (by decide))
    rw [UInt8.lt_iff_toNat_lt, UInt8.lt_iff_toNat_lt, hvalue] at hmark
    have h48 : (48 : UInt8).toNat = 48 := rfl
    have h57 : (57 : UInt8).toNat = 57 := rfl
    omega

theorem octetAt_append {front rest : Octets} {i k : Nat} (h : front.length + i = k) :
    octetAt (front ++ rest) k = octetAt rest i := by
  subst h
  unfold octetAt
  rw [List.getElem?_append_right (by omega), Nat.add_sub_cancel_left]

/-! ## Dates -/

/-- The characters of a date with hyphens. -/
def dateChars (d : YearMonthDay) : List Char :=
  (padded 4 d.year).toList ++ '-' :: (padded 2 d.month).toList ++ '-' :: (padded 2 d.day).toList

theorem toList_text (d : YearMonthDay) : d.text.toList = dateChars d := by
  unfold YearMonthDay.text dateChars
  simp

variable {n : Nat}

theorem asciiOctets_dateChars (d : YearMonthDay) (rest : Octets) :
    asciiOctets (dateChars d) ++ rest = asciiOctets (padded 4 d.year).toList ++ 45 ::
      (asciiOctets (padded 2 d.month).toList ++ 45 :: (asciiOctets (padded 2 d.day).toList ++ rest)) := by
  unfold dateChars asciiOctets
  simp

theorem date?_dateChars (hn : n < dayLimit) (rest : Octets) :
    date? (asciiOctets (dateChars (Date.split n)) ++ rest) 10 = some n := by
  obtain ⟨-, hyear, -, hmonth, -, hday⟩ := split_bounds hn
  have hyears := writes_four (n := (Date.split n).year) (by omega)
  have hmonths := writes_two (n := (Date.split n).month) (by omega)
  have hdays := writes_two (n := (Date.split n).day) (by omega)
  have hweek (rest : Octets) :
      octetAt (asciiOctets (padded 2 (Date.split n).month).toList ++ rest) 0 ≠ 87 :=
    octetAt_ne_of_writes hmonths (by decide) (by decide) rest
  have hhyphen (rest : Octets) : octetAt (45 :: rest) 0 = 45 := rfl
  have hoctet (rest : Octets) : octet? 45 (45 :: rest) = some rest := rfl
  rw [asciiOctets_dateChars]
  unfold date?
  simp only [digits?_of_writes hyears, digits?_of_writes hmonths, digits?_of_writes hdays, hhyphen,
    hweek, hoctet, Option.bind_eq_bind, Option.bind_some, if_true, if_false, List.drop_one,
    List.tail_cons]
  exact dayNumber?_split hn

theorem length_dateChars (hn : n < dayLimit) : (dateChars (Date.split n)).length = 10 := by
  obtain ⟨-, hyear, -, hmonth, -, hday⟩ := split_bounds hn
  have hyears := writes_four (n := (Date.split n).year) (by omega)
  have hmonths := writes_two (n := (Date.split n).month) (by omega)
  have hdays := writes_two (n := (Date.split n).day) (by omega)
  unfold dateChars
  rw [List.length_append, List.length_cons, List.length_append, List.length_cons, hyears.length_eq,
    hmonths.length_eq, hdays.length_eq]

/-- The fifth octet is a hyphen and no week follows, so the text starts with a date of ten octets. -/
theorem dateLength?_of_hyphen {front : Octets} (hlength : front.length = 4)
    (hweek : octetAt rest 0 ≠ 87) (hlong : 2 < rest.length) :
    dateLength? (front ++ 45 :: rest) = some 10 := by
  have hshort : (front ++ 45 :: rest).length ≠ 7 := by
    rw [List.length_append, List.length_cons]
    omega
  have hhyphen : octetAt (front ++ 45 :: rest) 4 = 45 := octetAt_append (i := 0) hlength
  have hnext : octetAt (front ++ 45 :: rest) 5 = octetAt rest 0 :=
    octetAt_append (i := 1) (by rw [hlength])
  unfold dateLength?
  dsimp only
  rw [if_neg hshort, if_pos hhyphen, hnext, if_neg hweek]

theorem dateLength?_dateChars (hn : n < dayLimit) (rest : Octets) :
    dateLength? (asciiOctets (dateChars (Date.split n)) ++ rest) = some 10 := by
  obtain ⟨-, hyear, -, hmonth, -, hday⟩ := split_bounds hn
  have hyears := writes_four (n := (Date.split n).year) (by omega)
  have hmonths := writes_two (n := (Date.split n).month) (by omega)
  rw [asciiOctets_dateChars]
  apply dateLength?_of_hyphen
  · rw [length_asciiOctets, hyears.length_eq]
  · exact octetAt_ne_of_writes hmonths (by decide) (by decide) _
  · rw [List.length_append, length_asciiOctets, hmonths.length_eq, List.length_cons]
    omega

/-! ## Clocks -/

variable {hour minute second : Nat}

variable {m : Moment}

theorem days_lt (m : Moment) : m.days < dayLimit := by
  have hlt := m.micros_lt
  unfold microLimit at hlt
  exact Nat.div_lt_of_lt_mul (by rwa [Nat.mul_comm])

theorem ofMicros?_micros (m : Moment) : Moment.ofMicros? m.micros m.anchor = some m := by
  have hlt := m.micros_lt
  unfold Moment.ofMicros?
  rw [dif_pos ⟨by omega, by omega⟩]
  rfl

/-- A date alone is read as the start of its day. -/
theorem parseOctets?_dateChars (hn : n < dayLimit) :
    parseOctets? (asciiOctets (dateChars (Date.split n))) = some (Moment.midnight ⟨n, hn⟩ .floating) := by
  have hten : (asciiOctets (dateChars (Date.split n))).length = 10 := by
    rw [length_asciiOctets, length_dateChars hn]
  have hlong : ¬ (asciiOctets (dateChars (Date.split n))).length < 7 := by omega
  have hlength := dateLength?_dateChars hn []
  have hday := date?_dateChars hn []
  rw [List.append_nil] at hlength hday
  have hvalid : Clock.isValid {} = true := rfl
  have hmicros : n * microsPerDay + Clock.micros {} = (Moment.midnight ⟨n, hn⟩ .floating).micros := by
    have hzero : Clock.micros {} = 0 := rfl
    rw [hzero, Nat.add_zero]
    rfl
  unfold parseOctets?
  rw [if_neg hlong, hlength, Option.bind_eq_bind, Option.bind_some, hday, Option.bind_eq_bind,
    Option.bind_some, if_pos (Nat.le_of_eq hten), Option.bind_eq_bind, Option.bind_some]
  dsimp only
  rw [Option.bind_some, if_pos hvalid, hmicros]
  exact ofMicros?_micros (Moment.midnight ⟨n, hn⟩ .floating)

/-! ## Texts -/

/-- A character of one octet that is not the letter of universal time. -/
def IsPlain (c : Char) : Prop := c.toNat < 128 ∧ c ≠ 'Z'

instance (c : Char) : Decidable (IsPlain c) := inferInstanceAs (Decidable (_ ∧ _))

theorem isPlain_of_code {c : Char} (h : 48 ≤ c.toNat ∧ c.toNat ≤ 58) : IsPlain c := by
  obtain ⟨hlower, hupper⟩ := h
  constructor
  · omega
  · rintro rfl
    exact absurd hupper (by decide)

theorem isPlain_of_writes {width n : Nat} {digits : List Char} (h : Writes width n digits) :
    ∀ c ∈ digits, IsPlain c := by
  intro c hc
  obtain ⟨hlower, hupper⟩ := isDigit_iff.mp (h.isDigit c hc)
  exact isPlain_of_code ⟨hlower, by omega⟩

theorem isPlain_dateChars (hn : n < dayLimit) : ∀ c ∈ dateChars (Date.split n), IsPlain c := by
  obtain ⟨-, hyear, -, hmonth, -, hday⟩ := split_bounds hn
  intro c hc
  unfold dateChars at hc
  simp only [List.mem_append, List.mem_cons] at hc
  rcases hc with (hc | rfl | hc) | rfl | hc
  · exact isPlain_of_writes (writes_four (by omega)) c hc
  · decide
  · exact isPlain_of_writes (writes_two (by omega)) c hc
  · decide
  · exact isPlain_of_writes (writes_two (by omega)) c hc

theorem encode_of_isPlain {s : String} (h : ∀ c ∈ s.toList, IsPlain c) :
    Utf8.encode s = asciiOctets s.toList := by
  have hencode := encode_of_ascii fun c hc => (h c hc).1
  rwa [String.ofList_toList] at hencode

theorem notMem_of_isPlain {s : String} (h : ∀ c ∈ s.toList, IsPlain c) : 'Z' ∉ s.toList := by
  intro hmem
  exact (h 'Z' hmem).2 rfl

theorem replaceAll_of_isPlain {s : String} (h : ∀ c ∈ s.toList, IsPlain c) (new : String) :
    replaceAll "Z" new s = s := by
  have hkept := replaceFrom_of_notMem (notMem_of_isPlain h) new.toList []
  rw [List.append_nil] at hkept
  unfold replaceAll
  exact (congrArg String.ofList hkept).trans (by rw [replaceFrom, List.append_nil, String.ofList_toList])

theorem toList_dateText (d : Date) : d.text.toList = dateChars (Date.split d.days) :=
  toList_text d.yearMonthDay

theorem isPlain_dateText (d : Date) : ∀ c ∈ d.text.toList, IsPlain c := by
  rw [toList_dateText]
  exact isPlain_dateChars d.days_lt

/-- A date is read from its text as the start of its day. -/
theorem parse?_dateText (d : Date) : parse? d.text = some (Moment.midnight d .floating) := by
  unfold parse?
  rw [encode_of_isPlain (isPlain_dateText d), toList_dateText]
  exact parseOctets?_dateChars d.days_lt

end Iso

end Calendar

namespace Formatter

open Calendar

variable {m : Moment}

theorem momentOfText_of_parse? {s plain : String} (hplain : Text.replaceAll "Z" "+00:00" s = plain)
    (hparse : Iso.parse? plain = some m) : momentOfText s = .ok m := by
  unfold momentOfText
  rw [hplain, hparse]

theorem momentOfText_of_isPlain {s : String} (h : ∀ c ∈ s.toList, Iso.IsPlain c)
    (hparse : Iso.parse? s = some m) : momentOfText s = .ok m :=
  momentOfText_of_parse? (Iso.replaceAll_of_isPlain h _) hparse

end Formatter

end PromptTemplates
