import PromptTemplates.Json.Reader
import PromptTemplates.Json.Writer
import PromptTemplates.Proofs.Number.Numerals

/-!
# Written tokens read back

What is written for a text, a number or a word is read as that text, number or word, and reading stops
where the token ends.
-/

namespace PromptTemplates.Json

open Number Text

variable {c : Char} {s rest : List Char}

/-! ## Characters of a text -/

theorem digitInBase?_hexDigit : ∀ k < 16, digitInBase? 16 (hexDigit k) = some k := by decide

/-- The four hexadecimal digits of a unit. -/
theorem exists_unitEscape {n : Nat} (hn : n < 65536) :
    ∃ a b c d, unitEscape n = ['\\', 'u', a, b, c, d] ∧ unit? a b c d = some n := by
  refine ⟨hexDigit (n / 16 / 16 / 16 % 16), hexDigit (n / 16 / 16 % 16), hexDigit (n / 16 % 16),
    hexDigit (n % 16), rfl, ?_⟩
  have hdigit (k : Nat) : digitInBase? 16 (hexDigit (k % 16)) = some (k % 16) :=
    digitInBase?_hexDigit _ (Nat.mod_lt k (by decide))
  unfold unit? digitsInBase?
  simp only [List.isEmpty_cons, Bool.false_eq_true, if_false, List.foldl_cons, List.foldl_nil, hdigit]
  change some _ = some n
  congr 1
  omega

/-- What is read goes on with a character. -/
def followed (c : Char) (read : List Char × List Char) : List Char × List Char := (c :: read.1, read.2)

/-- A letter behind a backslash stands for its character. -/
theorem readChars_escape {letter : Char} (h : (letter, c) ∈ escapes) (s : List Char) :
    readChars ('\\' :: letter :: s) = (readChars s).map (followed c) := by
  have hall : ∀ entry ∈ escapes,
      readChars ('\\' :: entry.1 :: s) = (readChars s).map (followed entry.2) := by
    simp only [escapes, List.forall_mem_cons, List.not_mem_nil, false_implies, implies_true, and_true]
    exact ⟨rfl, rfl, rfl, rfl, rfl, rfl, rfl, rfl⟩
  exact hall _ h

theorem readChars_plain (hquote : c ≠ '"') (hslash : c ≠ '\\') (hc : ¬ c.toNat < 32) (s : List Char) :
    readChars (c :: s) = (readChars s).map (followed c) := by
  rw [readChars, if_neg hc]
  · rfl
  · exact hquote
  · intro _ _ _ _ _ _ _ _ _ h
    exact absurd h hslash
  · intro _ _ _ _ _ h
    exact absurd h hslash
  · intro _ _ h
    exact absurd h hslash

section units

variable {a b d e f g h : Char} {n m : Nat}

/-- A unit that another unit follows. -/
theorem readChars_units (a b c d e f g h : Char) (s : List Char) :
    readChars ('\\' :: 'u' :: a :: b :: c :: d :: '\\' :: 'u' :: e :: f :: g :: h :: s) =
      (unit? a b c d).bind fun n => (unit? e f g h).bind fun m =>
        if isFirstHalf n && isSecondHalf m then (readChars s).map (followed (ofPair n m))
        else (readChars ('\\' :: 'u' :: e :: f :: g :: h :: s)).map (followed (ofUnit n)) := by
  change Option.bind (unit? a b c d) _ = _
  cases unit? a b c d with
  | none => rfl
  | some n =>
    cases unit? e f g h with
    | none => rfl
    | some m => rfl

/-- A unit that no unit follows. -/
theorem readChars_lone (hs : ∀ e f g h rest, s ≠ '\\' :: 'u' :: e :: f :: g :: h :: rest) :
    readChars ('\\' :: 'u' :: a :: b :: c :: d :: s) =
      (unit? a b c d).bind fun n => (readChars s).map (followed (ofUnit n)) := by
  rw [readChars]
  · rfl
  · exact hs

/-- Two halves of a character. -/
theorem readChars_pair (hn : unit? a b c d = some n) (hm : unit? e f g h = some m)
    (hfirst : isFirstHalf n = true) (hsecond : isSecondHalf m = true) (s : List Char) :
    readChars ('\\' :: 'u' :: a :: b :: c :: d :: '\\' :: 'u' :: e :: f :: g :: h :: s) =
      (readChars s).map (followed (ofPair n m)) := by
  rw [readChars_units, hn, hm, Option.bind_some, Option.bind_some, hfirst, hsecond]
  rfl

theorem readChars_none (hn : unit? a b c d = none) (s : List Char) :
    readChars ('\\' :: 'u' :: a :: b :: c :: d :: s) = none := by
  by_cases hs : ∃ e f g h rest, s = '\\' :: 'u' :: e :: f :: g :: h :: rest
  · obtain ⟨e, f, g, h, rest, rfl⟩ := hs
    rw [readChars_units, hn, Option.bind_none]
  · rw [readChars_lone fun e f g h rest heq => hs ⟨e, f, g, h, rest, heq⟩, hn, Option.bind_none]

/-- A unit that is not the first half of a character is a character of its own. -/
theorem readChars_unit (hn : unit? a b c d = some n) (hfirst : isFirstHalf n = false) (s : List Char) :
    readChars ('\\' :: 'u' :: a :: b :: c :: d :: s) = (readChars s).map (followed (ofUnit n)) := by
  by_cases hs : ∃ e f g h rest, s = '\\' :: 'u' :: e :: f :: g :: h :: rest
  · obtain ⟨e, f, g, h, rest, rfl⟩ := hs
    rw [readChars_units, hn, Option.bind_some]
    cases hm : unit? e f g h with
    | none =>
      rw [readChars_none hm]
      rfl
    | some m =>
      rw [Option.bind_some, hfirst]
      rfl
  · rw [readChars_lone fun e f g h rest heq => hs ⟨e, f, g, h, rest, heq⟩, hn, Option.bind_some]

end units

theorem isValid_toNat (c : Char) : c.toNat.isValidChar := c.valid

theorem ofUnit_toNat (c : Char) : ofUnit c.toNat = c := by
  unfold ofUnit
  rw [if_pos (isValid_toNat c), Char.ofNat_toNat]

theorem not_isFirstHalf (c : Char) : isFirstHalf c.toNat = false := by
  have hvalid := isValid_toNat c
  unfold Nat.isValidChar at hvalid
  unfold isFirstHalf
  simp only [Bool.and_eq_false_iff, decide_eq_false_iff_not]
  omega

/-! A character beyond the first 65536 is written in two halves. -/

theorem toNat_range (c : Char) (hunit : ¬ c.toNat < 65536) : 65536 ≤ c.toNat ∧ c.toNat < 0x110000 := by
  have hvalid := isValid_toNat c
  unfold Nat.isValidChar at hvalid
  omega

theorem isFirstHalf_add {k : Nat} (hk : k < 1024) : isFirstHalf (0xD800 + k) = true := by
  unfold isFirstHalf
  simp only [Bool.and_eq_true, decide_eq_true_eq]
  omega

theorem isSecondHalf_add {k : Nat} (hk : k < 1024) : isSecondHalf (0xDC00 + k) = true := by
  unfold isSecondHalf
  simp only [Bool.and_eq_true, decide_eq_true_eq]
  omega

theorem ofPair_halves (c : Char) (hc : 65536 ≤ c.toNat) :
    ofPair (0xD800 + (c.toNat - 0x10000) / 1024) (0xDC00 + (c.toNat - 0x10000) % 1024) = c := by
  have hvalue : 0x10000 + (0xD800 + (c.toNat - 0x10000) / 1024 - 0xD800) * 1024 +
      (0xDC00 + (c.toNat - 0x10000) % 1024 - 0xDC00) = c.toNat := by omega
  unfold ofPair
  rw [hvalue, Char.ofNat_toNat]

/-- What is written for a character is read as that character. -/
theorem readChars_writeChar (c : Char) (s : List Char) :
    readChars (writeChar c ++ s) = (readChars s).map (followed c) := by
  unfold writeChar
  split_ifs with hquote hslash hline hreturn htab hback hfeed hplain hunit
  · exact readChars_escape (by rw [hquote]; decide) s
  · exact readChars_escape (by rw [hslash]; decide) s
  · exact readChars_escape (by rw [hline]; decide) s
  · exact readChars_escape (by rw [hreturn]; decide) s
  · exact readChars_escape (by rw [htab]; decide) s
  · exact readChars_escape (by rw [hback]; decide) s
  · exact readChars_escape (by rw [hfeed]; decide) s
  · have hlower : 32 ≤ c.toNat := hplain.1
    exact readChars_plain hquote hslash (by omega) s
  · obtain ⟨a, b, x, d, hescape, hn⟩ := exists_unitEscape hunit
    rw [hescape]
    exact (readChars_unit hn (not_isFirstHalf c) s).trans (by rw [ofUnit_toNat])
  · have hrange := toNat_range c hunit
    have hfirst : isFirstHalf (0xD800 + (c.toNat - 0x10000) / 1024) = true := isFirstHalf_add (by omega)
    have hsecond : isSecondHalf (0xDC00 + (c.toNat - 0x10000) % 1024) = true :=
      isSecondHalf_add (Nat.mod_lt _ (by decide))
    have hn : 0xD800 + (c.toNat - 0x10000) / 1024 < 65536 := by omega
    have hm : 0xDC00 + (c.toNat - 0x10000) % 1024 < 65536 := by omega
    obtain ⟨a, b, x, d, hescape, hn⟩ := exists_unitEscape hn
    obtain ⟨e, f, g, h, hescape', hm⟩ := exists_unitEscape hm
    dsimp only
    rw [hescape, hescape']
    exact (readChars_pair hn hm hfirst hsecond s).trans (by rw [ofPair_halves c hrange.1])

/-- What is written for a text is read as its characters, up to the closing quote. -/
theorem readChars_flatMap (cs rest : List Char) :
    readChars (cs.flatMap writeChar ++ '"' :: rest) = some (cs, rest) := by
  induction cs with
  | nil => rfl
  | cons c cs ih =>
    rw [List.flatMap_cons, List.append_assoc, readChars_writeChar, ih]
    rfl

/-! ## Numbers -/

/-- The characters with which a number can go on. -/
def isNumberChar (c : Char) : Bool := c.isDigit || c == '.' || c == 'e' || c == 'E'

/-- A text does not go on with a character of a number. -/
def Ends (rest : List Char) : Prop := Stops isNumberChar rest

theorem Ends.stops (h : Ends rest) : Stops Char.isDigit rest := by
  intro c hc
  have hnumber := h c hc
  unfold isNumberChar at hnumber
  simp only [Bool.or_eq_false_iff] at hnumber
  exact hnumber.1.1.1

theorem digits?_append {digits : List Char} (hne : digits ≠ []) (hdigits : ∀ c ∈ digits, c.isDigit = true)
    (hrest : Stops Char.isDigit rest) : digits? (digits ++ rest) = some (digits, rest) := by
  unfold digits?
  rw [takeWhile_append_of_stops hdigits hrest, dropWhile_append_of_stops hdigits hrest]
  exact if_neg (by simpa using hne)

variable {n : Numeral}

theorem whole?_append (h : n.IsProper) (hrest : Stops Char.isDigit rest) :
    whole? (n.whole ++ rest) = some (n.whole, rest) := by
  have hne := h.whole_ne
  have hdigits := h.isDigit_of_mem_whole
  rcases h.whole with hzero | hleading
  · rw [hzero]
    rfl
  · have hread := digits?_append hne hdigits hrest
    obtain ⟨c, cs, hwhole⟩ := List.exists_cons_of_ne_nil hne
    have hhead := hleading.head_ne
    rw [hwhole] at hhead hread ⊢
    rw [List.cons_append, whole?, ← List.cons_append]
    · exact hread
    · intro _ heq
      cases heq
      exact hhead rfl

theorem fraction_append (h : ∀ c ∈ n.fraction, c.isDigit = true) (hdigits : Stops Char.isDigit rest)
    (hpoint : Stops (· == '.') rest) : fraction (n.pointChars ++ rest) = (n.pointChars, rest) := by
  unfold Numeral.pointChars
  cases hfraction : n.fraction with
  | nil =>
    cases rest with
    | nil => rfl
    | cons c s =>
      have hc : c ≠ '.' := by simpa using hpoint c rfl
      rw [List.nil_append, fraction]
      intro _ heq
      cases heq
      exact hc rfl
  | cons c cs =>
    rw [hfraction] at h
    rw [List.cons_append, fraction, digits?_append (List.cons_ne_nil c cs) h hdigits]

theorem exponent_append (h : n.IsProper) (hrest : Ends rest) :
    exponent (n.powerChars ++ rest) = (n.powerChars, rest) := by
  unfold Numeral.powerChars
  cases hpower : n.power with
  | none =>
    cases rest with
    | nil => rfl
    | cons c s =>
      have hc : ¬ (c = 'e' ∨ c = 'E') := by
        have hnumber := hrest c rfl
        unfold isNumberChar at hnumber
        simp only [Bool.or_eq_false_iff, beq_eq_false_iff_ne] at hnumber
        exact fun h => h.elim hnumber.1.2 hnumber.2
      unfold exponent
      exact if_neg hc
  | some power =>
    obtain ⟨down, digits⟩ := power
    obtain ⟨hne, hdigits⟩ := h.power down digits hpower
    have hread := digits?_append hne hdigits hrest.stops
    cases down <;> simp [exponent, hread]

theorem stops_isDigit_powerChars (hrest : Stops Char.isDigit rest) :
    Stops Char.isDigit (n.powerChars ++ rest) := by
  apply Numeral.stops_powerChars _ hrest
  rintro c rfl
  decide

theorem stops_isDigit_pointChars (hrest : Stops Char.isDigit rest) :
    Stops Char.isDigit (n.pointChars ++ (n.powerChars ++ rest)) := by
  apply Numeral.stops_pointChars _ (stops_isDigit_powerChars hrest)
  rintro c rfl
  decide

theorem stops_point_powerChars (hrest : Ends rest) : Stops (· == '.') (n.powerChars ++ rest) := by
  apply Numeral.stops_powerChars
  · rintro c rfl
    decide
  · intro c hc
    have hnumber := hrest c hc
    unfold isNumberChar at hnumber
    simp only [Bool.or_eq_false_iff] at hnumber
    exact hnumber.1.1.2

/-- The parts that a numeral is read in. -/
theorem unsigned?_chars (h : n.IsProper) (hrest : Ends rest) (negative : Bool) :
    unsigned? negative (n.chars ++ rest) =
      if n.pointChars.isEmpty && n.powerChars.isEmpty then
        (digitsInBase? 10 n.whole).map fun k => (.int (if negative then -(k : Int) else k), rest)
      else (decimal? negative n.chars).map fun x => (.float x, rest) := by
  unfold unsigned? Numeral.chars
  rw [List.append_assoc, List.append_assoc, whole?_append h (stops_isDigit_pointChars hrest.stops)]
  simp only [Option.bind_eq_bind, Option.bind_some]
  rw [fraction_append h.fraction (stops_isDigit_powerChars hrest.stops) (stops_point_powerChars hrest)]
  dsimp only
  rw [exponent_append h hrest]
  dsimp only
  rw [List.append_assoc]
  split
  · cases digitsInBase? 10 n.whole <;> rfl
  · cases decimal? negative (n.whole ++ (n.pointChars ++ n.powerChars)) <;> rfl

/-- A numeral with a point or an exponent is read as a floating-point number. -/
theorem unsigned?_fractional (h : n.IsProper) (hfractional : n.IsFractional) (hrest : Ends rest)
    (negative : Bool) : unsigned? negative (n.chars ++ rest) =
      some (.float (Binary64.ofDecimal negative n.mantissa n.exponent), rest) := by
  have hparts : ¬ (n.pointChars.isEmpty && n.powerChars.isEmpty) = true := by
    unfold Numeral.pointChars Numeral.powerChars
    rcases hfractional with hfraction | hpower
    · obtain ⟨c, cs, hcs⟩ := List.exists_cons_of_ne_nil hfraction
      simp [hcs]
    · obtain ⟨power, hp⟩ := Option.ne_none_iff_exists'.mp hpower
      simp [hp]
  rw [unsigned?_chars h hrest, if_neg hparts, Numeral.decimal?_chars h]
  rfl

/-- The digits of a natural number are read as an integer. -/
theorem unsigned?_repr (k : Nat) (hrest : Ends rest) (negative : Bool) :
    unsigned? negative ((Nat.repr k).toList ++ rest) =
      some (.int (if negative then -(k : Int) else k), rest) := by
  have hproper : Numeral.IsProper { whole := (Nat.repr k).toList } := by
    refine ⟨?_, by simp, nofun⟩
    by_cases hk : k = 0
    · rw [hk]
      exact .inl rfl
    · exact .inr (isLeading_repr (Nat.pos_of_ne_zero hk))
  have hread := unsigned?_chars hproper hrest negative
  have hchars : Numeral.chars { whole := (Nat.repr k).toList } = (Nat.repr k).toList := by
    simp [Numeral.chars, Numeral.pointChars, Numeral.powerChars]
  rw [hchars] at hread
  rw [hread]
  change (digitsInBase? 10 (Nat.repr k).toList).map _ = _
  rw [digitsInBase?_eq (repr_ne_nil k) fun _ => isDigit_of_mem_repr, valueOf_repr]
  rfl

/-! ## Words and numbers -/

/-- What is read for what is neither a text nor a list nor an object. -/
def scalar? (s : List Char) : Option (Json × List Char) := word? s <|> number? s

/-- Words do not start with a character, nor with one after a minus sign, if it is not one of theirs. -/
theorem word?_digit (hc : c.isDigit = true) (s : List Char) :
    word? (c :: s) = none ∧ word? ('-' :: c :: s) = none := by
  have hne {letter : Char} (hletter : letter.isDigit = false) : letter ≠ c := by
    rintro rfl
    simp [hletter] at hc
  have hn : 'n' ≠ c := hne rfl
  have ht : 't' ≠ c := hne rfl
  have hf : 'f' ≠ c := hne rfl
  have hN : 'N' ≠ c := hne rfl
  have hI : 'I' ≠ c := hne rfl
  have hminus : '-' ≠ c := hne rfl
  unfold word? words
  constructor
  · simp [after?, hn, ht, hf, hN, hI, hminus]
  · simp [after?, hI]

/-- A number with a sign is read as what follows the sign. -/
theorem scalar?_signed {j : Json} (hs : ∃ c t, s = c :: t ∧ c.isDigit = true) (negative : Bool)
    (hread : unsigned? negative (s ++ rest) = some (j, rest)) :
    scalar? ((if negative then ['-'] else []) ++ s ++ rest) = some (j, rest) := by
  obtain ⟨c, t, rfl, hc⟩ := hs
  obtain ⟨hword, hword'⟩ := word?_digit hc (t ++ rest)
  unfold scalar?
  cases negative with
  | true =>
    change (word? ('-' :: c :: (t ++ rest)) <|> unsigned? true ((c :: t) ++ rest)) = _
    rw [hword', hread]
    rfl
  | false =>
    have hminus : c ≠ '-' := by
      rintro rfl
      cases hc
    change (word? (c :: (t ++ rest)) <|> number? ((c :: t) ++ rest)) = _
    rw [hword, List.cons_append, number?]
    · exact hread
    · intro _ heq
      cases heq
      exact hminus rfl

theorem exists_digit_repr (k : Nat) : ∃ c t, (Nat.repr k).toList = c :: t ∧ c.isDigit = true := by
  obtain ⟨c, t, hrepr⟩ := List.exists_cons_of_ne_nil (repr_ne_nil k)
  have hc : c ∈ (Nat.repr k).toList := by simp [hrepr]
  exact ⟨c, t, hrepr, isDigit_of_mem_repr hc⟩

theorem scalar?_int (k : Int) (hrest : Ends rest) :
    scalar? ((toString k).toList ++ rest) = some (.int k, rest) := by
  cases k with
  | ofNat k => exact scalar?_signed (exists_digit_repr k) false (unsigned?_repr k hrest false)
  | negSucc k =>
    have htext : (toString (Int.negSucc k)).toList = ['-'] ++ (Nat.repr (k + 1)).toList :=
      String.toList_append
    rw [htext]
    exact scalar?_signed (exists_digit_repr (k + 1)) true (unsigned?_repr (k + 1) hrest true)

theorem exists_digit_chars (h : n.IsProper) : ∃ c t, n.chars = c :: t ∧ c.isDigit = true := by
  obtain ⟨c, t, hwhole⟩ := List.exists_cons_of_ne_nil h.whole_ne
  have hc : c ∈ n.whole := by simp [hwhole]
  refine ⟨c, t ++ n.pointChars ++ n.powerChars, ?_, h.isDigit_of_mem_whole c hc⟩
  rw [Numeral.chars, hwhole]
  rfl

/-- The text of a finite number is a sign and a numeral that finds the number again. -/
theorem exists_numeral {negative : Bool} {m : Nat} {e : Int}
    (hx : (Binary64.finite negative m e).IsCanonical) :
    ∃ n : Numeral, n.IsProper ∧ n.IsFractional ∧
      (floatText (.finite negative m e)).toList = (if negative then ['-'] else []) ++ n.chars ∧
      Binary64.ofDecimal negative n.mantissa n.exponent = .finite negative m e := by
  obtain ⟨hnormal, hzero⟩ := hx
  by_cases hm : m = 0
  · subst hm
    rw [hzero rfl]
    refine ⟨{ whole := ['0'], fraction := ['0'] }, ⟨.inl rfl, by simp, nofun⟩, ?_, ?_, ?_⟩
    · exact .inl (List.cons_ne_nil _ _)
    · cases negative <;> rfl
    · rfl
  · have hm : 0 < m := Nat.pos_of_ne_zero hm
    exact ⟨Numeral.ofNumber m e, Numeral.isProper_ofNumber hm hnormal,
      Numeral.isFractional_ofNumber hm hnormal, toList_text hm hnormal negative,
      Numeral.ofDecimal_ofNumber hm hnormal negative⟩

theorem scalar?_float {x : Binary64} (hx : x.IsCanonical) (hrest : Ends rest) :
    scalar? ((floatText x).toList ++ rest) = some (.float x, rest) := by
  cases x with
  | nan => rfl
  | infinite negative => cases negative <;> rfl
  | finite negative m e =>
    obtain ⟨n, hproper, hfractional, htext, hvalue⟩ := exists_numeral hx
    have hread := unsigned?_fractional hproper hfractional hrest negative
    rw [hvalue] at hread
    rw [htext]
    exact scalar?_signed (exists_digit_chars hproper) negative hread

end PromptTemplates.Json
