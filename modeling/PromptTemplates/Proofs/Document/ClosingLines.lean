import PromptTemplates.Document.Basic
import PromptTemplates.Proofs.Document.Delimiters

/-!
# The line that closes a header block

A header block is opened by the first line of a text. It ends at the first closing line after another
line, and only if there is none, at a closing line right after the opening one. So the first closing
line ends the block, unless it stands right after the opening line and is not the last one.
-/

namespace PromptTemplates.HeaderBlock

open Text Section

/-- The end of a line, LF or CR LF. -/
def IsLineEnd (stop : List Char) : Prop := stop = ['\n'] ∨ stop = ['\r', '\n']

/-- A line that holds a mark and, behind it, only spaces and tabs. -/
def IsMarked (mark line : List Char) : Prop :=
  ∃ blanks, line = mark ++ blanks ∧ ∀ c ∈ blanks, isSpaceOrTab c = true

def IsOpening (line : List Char) : Prop := IsMarked ['-', '-', '-'] line

def IsClosing (line : List Char) : Prop :=
  IsMarked ['-', '-', '-'] line ∨ IsMarked ['.', '.', '.'] line

/-- A text begins with a line, after which it goes on with `rest`. The last line may have no end. -/
def BeginsWith (line s rest : List Char) : Prop :=
  (s = line ∧ rest = []) ∨ ∃ stop, IsLineEnd stop ∧ s = line ++ (stop ++ rest)

/-- The first line of a text, after a byte order mark if there is one, opens a header block. -/
def Opens (s rest : List Char) : Prop :=
  ∃ bom line body, (bom = [] ∨ bom = ['\uFEFF']) ∧ s = bom ++ body ∧ IsOpening line ∧
    BeginsWith line body rest

/-- A closing line of a text, and the texts before and after that line. -/
structure ClosesAt (s before after : List Char) : Prop where
  atLineStart : beginsLine true before = true
  exists_line : ∃ line body, s = before ++ body ∧ IsClosing line ∧ BeginsWith line body after

/-- The first closing line of a text. -/
structure FirstClosing (s before after : List Char) : Prop extends ClosesAt s before after where
  least : ∀ front back, ClosesAt s front back → before.length ≤ front.length

/-- The first closing line after another line. -/
structure FirstInner (s before after : List Char) : Prop extends ClosesAt s before after where
  ne_nil : before ≠ []
  least : ∀ front back, ClosesAt s front back → front ≠ [] → before.length ≤ front.length

/-- The closing line at which a block ends that goes on with the given text: the first one after another
line and, if there is none, the first line. -/
inductive EndsBlock (s : List Char) : (before after : List Char) → Prop
  | inner {before after} : FirstInner s before after → EndsBlock s before after
  | first {after} : ClosesAt s [] after → (∀ front back, ClosesAt s front back → front = []) →
      EndsBlock s [] after

/-- The lines of a text without the end of the last one. -/
def dropLineEnd : List Char → List Char
  | [] => []
  | ['\n'] => []
  | ['\r', '\n'] => []
  | c :: cs => c :: dropLineEnd cs

variable {c : Char} {s cs line body rest before after front back stop : List Char}

/-! ## Single lines -/

theorem lineEnd?_eq_some_iff :
    lineEnd? s = some rest ↔ ∃ stop, IsLineEnd stop ∧ s = stop ++ rest := by
  constructor
  · intro h
    unfold lineEnd? at h
    split at h
    · cases h
      exact ⟨_, .inl rfl, rfl⟩
    · cases h
      exact ⟨_, .inr rfl, rfl⟩
    · cases h
  · rintro ⟨stop, rfl | rfl, rfl⟩ <;> rfl

theorem IsLineEnd.head? (h : IsLineEnd stop) :
    ∀ c ∈ (stop ++ rest).head?, isSpaceOrTab c = false := by
  rcases h with rfl | rfl <;> simp [isSpaceOrTab]

/-- Behind a mark and blanks, a line ends or the text does. -/
theorem beginsWith_marked_iff {mark : List Char} :
    (∃ line, IsMarked mark line ∧ BeginsWith line s rest) ↔ ∃ t, after? mark s = some t ∧
      ((t.dropWhile isSpaceOrTab = [] ∧ rest = []) ∨
        lineEnd? (t.dropWhile isSpaceOrTab) = some rest) := by
  simp only [after?_eq_some_iff, lineEnd?_eq_some_iff]
  constructor
  · rintro ⟨_, ⟨blanks, rfl, hblanks⟩, ⟨rfl, rfl⟩ | ⟨stop, hstop, rfl⟩⟩
    · exact ⟨blanks, rfl, .inl ⟨List.dropWhile_eq_nil_iff.mpr hblanks, rfl⟩⟩
    · refine ⟨blanks ++ (stop ++ rest), by simp, .inr ⟨stop, hstop, ?_⟩⟩
      exact dropWhile_append_stop hblanks hstop.head?
  · rintro ⟨t, rfl, hend⟩
    have hblanks : ∀ c ∈ t.takeWhile isSpaceOrTab, isSpaceOrTab c = true :=
      fun c hc => List.mem_takeWhile_imp hc
    have ht : t = t.takeWhile isSpaceOrTab ++ t.dropWhile isSpaceOrTab :=
      List.takeWhile_append_dropWhile.symm
    refine ⟨mark ++ t.takeWhile isSpaceOrTab, ⟨_, rfl, hblanks⟩, ?_⟩
    rcases hend with ⟨hnil, rfl⟩ | ⟨stop, hstop, hrest⟩
    · rw [hnil, List.append_nil] at ht
      exact .inl ⟨by rw [← ht], rfl⟩
    · rw [hrest] at ht
      exact .inr ⟨stop, hstop, by rw [List.append_assoc, ← ht]⟩

/-- A line that opens a block is dropped. The only line of a text has no end and is not. -/
theorem opening?_of_opens (h : Opens s rest) :
    opening? s = some rest ∨ (opening? s = none ∧ rest = []) := by
  obtain ⟨bom, line, body, hbom, rfl, hline, hbegins⟩ := h
  obtain ⟨t, ht, hend⟩ := beginsWith_marked_iff.mp ⟨line, hline, hbegins⟩
  have hopen : opening? (bom ++ body) = lineEnd? (t.dropWhile isSpaceOrTab) := by
    rw [after?_eq_some_iff] at ht
    subst ht
    rcases hbom with rfl | rfl <;> rfl
  rw [hopen]
  rcases hend with ⟨hnil, rfl⟩ | hrest
  · rw [hnil]
    exact .inr ⟨rfl, rfl⟩
  · exact .inl hrest

theorem closing?_eq_some_iff :
    closing? s = some rest ↔ ∃ line, IsClosing line ∧ BeginsWith line s rest := by
  have hor : (∃ line, IsClosing line ∧ BeginsWith line s rest) ↔
      (∃ line, IsMarked ['-', '-', '-'] line ∧ BeginsWith line s rest) ∨
        ∃ line, IsMarked ['.', '.', '.'] line ∧ BeginsWith line s rest := by
    simp only [IsClosing, or_and_right, exists_or]
  have hmark : ∀ t, ((after? ['-', '-', '-'] s <|> after? ['.', '.', '.'] s) = some t) ↔
      after? ['-', '-', '-'] s = some t ∨ after? ['.', '.', '.'] s = some t := by
    intro t
    cases hdashes : after? ['-', '-', '-'] s with
    | none => simp
    | some u =>
      rw [after?_eq_some_iff] at hdashes
      subst hdashes
      simp [after?]
  rw [hor, beginsWith_marked_iff, beginsWith_marked_iff, ← exists_or]
  simp only [closing?, Option.bind_eq_bind, Option.bind_eq_some_iff, hmark, ← or_and_right]
  refine exists_congr fun t => and_congr_right fun _ => ?_
  cases t.dropWhile isSpaceOrTab with
  | nil => simp [lineEnd?, eq_comm]
  | cons d u => simp

/-! ## Closing lines in a text -/

theorem closesAt_iff : ClosesAt s before after ↔
    beginsLine true before = true ∧ ∃ body, s = before ++ body ∧ closing? body = some after := by
  simp only [closing?_eq_some_iff]
  constructor
  · rintro ⟨hstart, line, body, rfl, hline, hbegins⟩
    exact ⟨hstart, body, rfl, line, hline, hbegins⟩
  · rintro ⟨hstart, body, rfl, line, hline, hbegins⟩
    exact ⟨hstart, line, body, rfl, hline, hbegins⟩

theorem closesAt_nil_iff : ClosesAt s [] after ↔ closing? s = some after := by
  simp [closesAt_iff]

/-- The texts before two closing lines are the same if they have the same length. -/
theorem ClosesAt.unique (h : ClosesAt s before after) (h' : ClosesAt s front back)
    (hlength : before.length = front.length) : before = front ∧ after = back := by
  obtain ⟨-, body, rfl, hafter⟩ := closesAt_iff.mp h
  obtain ⟨-, body', heq, hback⟩ := closesAt_iff.mp h'
  obtain ⟨rfl, rfl⟩ := List.append_inj heq hlength
  exact ⟨rfl, Option.some.inj (hafter.symm.trans hback)⟩

/-- A closing line after other lines is found one character later in a text with one more character. -/
theorem closesAt_cons_iff (h : before ≠ []) :
    ClosesAt (c :: cs) (c :: before) after ↔ ClosesAt cs before after := by
  have hstart : beginsLine true (c :: before) = beginsLine true before := by
    obtain ⟨d, u, rfl⟩ := List.exists_cons_of_ne_nil h
    simp
  simp [closesAt_iff, hstart]

theorem closesAt_lineEnd_append (h : IsLineEnd stop) (hafter : closing? s = some after) :
    ClosesAt (stop ++ s) stop after := by
  refine closesAt_iff.mpr ⟨?_, s, rfl, hafter⟩
  rcases h with rfl | rfl <;> rfl

/-! ## The search for the end of a block -/

theorem dropLineEnd_isLineEnd (h : IsLineEnd stop) : dropLineEnd stop = [] := by
  rcases h with rfl | rfl <;> rfl

theorem dropLineEnd_cons (hne : cs ≠ []) (hcr : c = '\r' → cs ≠ ['\n']) :
    dropLineEnd (c :: cs) = c :: dropLineEnd cs := by
  rw [dropLineEnd]
  · rintro rfl rfl
    exact hne rfl
  · rintro rfl rfl
    exact hcr rfl rfl

/-- A closing line right after the first character of a text follows a line end. -/
theorem lineEnd?_of_closesAt_singleton (h : ClosesAt (c :: cs) [c] after) :
    (lineEnd? (c :: cs)).bind closing? = some after := by
  obtain ⟨hstart, body, heq, hclosing⟩ := closesAt_iff.mp h
  obtain rfl : c = '\n' := by simpa using hstart
  obtain rfl : cs = body := by simpa using heq
  exact hclosing

/-- A line end that a closing line follows is found at once. -/
theorem firstInner_of_lineEnd? (h : (lineEnd? s).bind closing? = some after) :
    ∃ before, FirstInner s before after ∧ dropLineEnd before = [] := by
  obtain ⟨t, ht, hafter⟩ := Option.bind_eq_some_iff.mp h
  obtain ⟨stop, hstop, rfl⟩ := lineEnd?_eq_some_iff.mp ht
  refine ⟨stop, ⟨closesAt_lineEnd_append hstop hafter, ?_, ?_⟩, dropLineEnd_isLineEnd hstop⟩
  · rcases hstop with rfl | rfl <;> simp
  · intro front back hat hne
    obtain ⟨hstart, body, heq, -⟩ := closesAt_iff.mp hat
    obtain ⟨d, u, rfl⟩ := List.exists_cons_of_ne_nil hne
    -- after a carriage return alone no line begins
    rcases hstop with rfl | rfl
    · simp
    · cases u with
      | nil => simp_all
      | cons e u => simp

/-- Where no closing line follows a line end at the start of a text, its first inner closing line is
that of its tail. -/
theorem firstInner_cons (hnone : (lineEnd? (c :: cs)).bind closing? = none)
    (h : FirstInner cs before after) :
    FirstInner (c :: cs) (c :: before) after ∧
      dropLineEnd (c :: before) = c :: dropLineEnd before := by
  refine ⟨⟨(closesAt_cons_iff h.ne_nil).mpr h.toClosesAt, List.cons_ne_nil c before, ?_⟩, ?_⟩
  · intro front back hat hne
    obtain ⟨d, u, rfl⟩ := List.exists_cons_of_ne_nil hne
    obtain ⟨-, body, heq, -⟩ := closesAt_iff.mp hat
    obtain rfl : c = d := (List.cons.inj heq).1
    rcases eq_or_ne u [] with rfl | hu
    · rw [lineEnd?_of_closesAt_singleton hat] at hnone
      cases hnone
    · have := h.least u back ((closesAt_cons_iff hu).mp hat) hu
      simpa using this
  · refine dropLineEnd_cons h.ne_nil ?_
    rintro rfl rfl
    obtain ⟨-, body, rfl, hclosing⟩ := closesAt_iff.mp h.toClosesAt
    simp [lineEnd?, hclosing] at hnone

/-- The search finds the first closing line that is not the first line, and the lines before it. -/
theorem firstInner_of_untilClosing? (h : untilClosing? s = some (front, after)) :
    ∃ before, FirstInner s before after ∧ front = dropLineEnd before := by
  induction s generalizing front with
  | nil => cases h
  | cons c cs ih =>
    rw [untilClosing?] at h
    split at h
    · next rest hfound =>
      cases h
      obtain ⟨before, hfirst, hdrop⟩ := firstInner_of_lineEnd? hfound
      exact ⟨before, hfirst, hdrop.symm⟩
    · next hnone =>
      obtain ⟨⟨f, r⟩, hrest, he⟩ := Option.map_eq_some_iff.mp h
      cases he
      obtain ⟨before, hfirst, rfl⟩ := ih hrest
      obtain ⟨hfirst', hdrop⟩ := firstInner_cons hnone hfirst
      exact ⟨c :: before, hfirst', hdrop.symm⟩

theorem eq_nil_of_untilClosing?_eq_none (h : untilClosing? s = none) (hat : ClosesAt s front back) :
    front = [] := by
  induction s generalizing front with
  | nil =>
    obtain ⟨-, body, heq, -⟩ := closesAt_iff.mp hat
    exact (List.append_eq_nil_iff.mp heq.symm).1
  | cons c cs ih =>
    rw [untilClosing?] at h
    split at h
    · cases h
    · next hnone =>
      by_contra hne
      obtain ⟨d, u, rfl⟩ := List.exists_cons_of_ne_nil hne
      obtain ⟨-, body, heq, -⟩ := closesAt_iff.mp hat
      obtain rfl : c = d := (List.cons.inj heq).1
      rcases eq_or_ne u [] with rfl | hu
      · rw [lineEnd?_of_closesAt_singleton hat] at hnone
        cases hnone
      · exact hu (ih (Option.map_eq_none_iff.mp h) ((closesAt_cons_iff hu).mp hat))

/-- The search fails when every closing line is the first line. -/
theorem untilClosing?_eq_none_iff :
    untilClosing? s = none ↔ ∀ front back, ClosesAt s front back → front = [] := by
  constructor
  · intro h front back hat
    exact eq_nil_of_untilClosing?_eq_none h hat
  · intro h
    cases hfound : untilClosing? s with
    | none => rfl
    | some p =>
      obtain ⟨before, hfirst, -⟩ := firstInner_of_untilClosing? hfound
      exact absurd (h before p.2 hfirst.toClosesAt) hfirst.ne_nil

theorem FirstInner.unique (h : FirstInner s before after) (h' : FirstInner s front back) :
    before = front ∧ after = back :=
  h.toClosesAt.unique h'.toClosesAt <|
    Nat.le_antisymm (h.least front back h'.toClosesAt h'.ne_nil)
      (h'.least before after h.toClosesAt h.ne_nil)

/-! ## Where a block ends -/

theorem EndsBlock.unique (h : EndsBlock s before after) (h' : EndsBlock s front back) :
    before = front ∧ after = back := by
  cases h with
  | inner hinner =>
    cases h' with
    | inner hinner' => exact hinner.unique hinner'
    | first _ honly => exact absurd (honly _ _ hinner.toClosesAt) hinner.ne_nil
  | first hat honly =>
    cases h' with
    | inner hinner' => exact absurd (honly _ _ hinner'.toClosesAt) hinner'.ne_nil
    | first hat' _ => exact hat.unique hat' rfl

theorem exists_endsBlock (h : ClosesAt s before after) : ∃ front back, EndsBlock s front back := by
  cases hfound : untilClosing? s with
  | none =>
    have honly := untilClosing?_eq_none_iff.mp hfound
    obtain rfl := honly before after h
    exact ⟨[], after, .first h honly⟩
  | some p =>
    obtain ⟨front, hfirst, -⟩ := firstInner_of_untilClosing? hfound
    exact ⟨front, p.2, .inner hfirst⟩

/-- The first closing line ends the block, unless it is the first line and another one closes. -/
theorem FirstClosing.endsBlock_iff (h : FirstClosing s before after) : EndsBlock s before after ↔
    (before = [] → ∀ front back, ClosesAt s front back → front = []) := by
  constructor
  · rintro hends rfl
    cases hends with
    | inner hinner => exact absurd rfl hinner.ne_nil
    | first _ honly => exact honly
  · intro honly
    rcases eq_or_ne before [] with rfl | hne
    · exact .first h.toClosesAt (honly rfl)
    · exact .inner ⟨h.toClosesAt, hne, fun front back hat _ => h.least front back hat⟩

/-- If the first line closes, the lines up to a later closing line are not empty. -/
theorem FirstInner.dropLineEnd_ne_nil (h : FirstInner s before after) (hfirst : ClosesAt s [] back) :
    dropLineEnd before ≠ [] := by
  obtain ⟨hstart, body, rfl, -⟩ := closesAt_iff.mp h.toClosesAt
  obtain ⟨line, hline, hbegins⟩ := closing?_eq_some_iff.mp (closesAt_nil_iff.mp hfirst)
  obtain ⟨c, u, rfl⟩ := List.exists_cons_of_ne_nil h.ne_nil
  have hmark : c = '-' ∨ c = '.' := by
    rcases hline with ⟨blanks, rfl, -⟩ | ⟨blanks, rfl, -⟩ <;>
      rcases hbegins with ⟨heq, -⟩ | ⟨stop, -, heq⟩ <;> simp_all
  have hne : u ≠ [] := by
    rintro rfl
    rcases hmark with rfl | rfl <;> simp at hstart
  rw [dropLineEnd_cons hne (by rcases hmark with rfl | rfl <;> simp)]
  exact List.cons_ne_nil c _

theorem EndsBlock.eq_first (h : EndsBlock s before after) (hfirst : FirstClosing s front back)
    (heq : dropLineEnd before = dropLineEnd front) : EndsBlock s front back := by
  rcases eq_or_ne front [] with rfl | hne
  · cases h with
    | inner hinner => exact absurd heq (hinner.dropLineEnd_ne_nil hfirst.toClosesAt)
    | first hat honly => exact .first hfirst.toClosesAt honly
  · exact hfirst.endsBlock_iff.mpr fun hnil => absurd hnil hne

theorem split?_of_opens (h : Opens s rest) : split? s = some (front, after) ↔
    ∃ before, EndsBlock rest before after ∧ front = dropLineEnd before := by
  rcases opening?_of_opens h with hopen | ⟨hopen, rfl⟩
  · have hsplit : split? s =
        (untilClosing? rest).or ((closing? rest).map fun after => ([], after)) := by
      rw [split?, hopen]
      change (untilClosing? rest <|> (closing? rest).map fun after => ([], after)) = _
      cases untilClosing? rest <;> rfl
    rw [hsplit]
    cases hfound : untilClosing? rest with
    | none =>
      have honly := untilClosing?_eq_none_iff.mp hfound
      simp only [Option.none_or, Option.map_eq_some_iff, Prod.mk.injEq]
      constructor
      · rintro ⟨after, hafter, rfl, rfl⟩
        exact ⟨[], .first (closesAt_nil_iff.mpr hafter) honly, rfl⟩
      · rintro ⟨before, hends, rfl⟩
        cases hends with
        | inner hinner => exact absurd (honly _ _ hinner.toClosesAt) hinner.ne_nil
        | first hat _ => exact ⟨after, closesAt_nil_iff.mp hat, rfl, rfl⟩
    | some p =>
      obtain ⟨before, hinner, hp⟩ := firstInner_of_untilClosing? hfound
      have hpair : p = (front, after) ↔ dropLineEnd before = front ∧ p.2 = after := by
        rw [← hp, Prod.ext_iff]
      rw [Option.some_or, Option.some.injEq, hpair]
      constructor
      · rintro ⟨rfl, rfl⟩
        exact ⟨before, .inner hinner, rfl⟩
      · rintro ⟨before', hends, rfl⟩
        obtain ⟨rfl, rfl⟩ := (EndsBlock.inner hinner).unique hends
        exact ⟨rfl, rfl⟩
  · rw [split?, hopen]
    refine iff_of_false (by simp) ?_
    rintro ⟨before, hends, -⟩
    have hat : ClosesAt [] before after := by
      cases hends with
      | inner hinner => exact hinner.toClosesAt
      | first hat _ => exact hat
    obtain ⟨-, body, heq, hclosing⟩ := closesAt_iff.mp hat
    obtain ⟨-, rfl⟩ := List.append_eq_nil_iff.mp heq.symm
    cases hclosing

/-- A text whose first line opens a block is its own body if no line closes the block. Otherwise the
block consists of the lines before the closing line at which it ends, and the body is the text after
it. This is the first closing line, unless that one is the first line and another one closes. -/
theorem ofText_of_opens (text : String) (rest : List Char) (h : Opens text.toList rest) :
    ((∀ before after, ¬ ClosesAt rest before after) → HeadedText.ofText text = .ok { body := text }) ∧
    ∀ before after, FirstClosing rest before after →
      (split? text.toList = some (dropLineEnd before, after) ↔
        (before = [] → ∀ front back, ClosesAt rest front back → front = [])) ∧
      ∃ front back, EndsBlock rest front back ∧
        split? text.toList = some (dropLineEnd front, back) ∧
        HeadedText.ofText text = do
          return { attributes := ← HeadedText.attributesOf (dropLineEnd front), body := String.ofList back } := by
  refine ⟨fun hnone => ?_, fun before after hfirst => ⟨?_, ?_⟩⟩
  · have hsplit : split? text.toList = none := by
      rw [Option.eq_none_iff_forall_ne_some]
      rintro ⟨front, back⟩ hsome
      obtain ⟨before, hends, -⟩ := (split?_of_opens h).mp hsome
      cases hends with
      | inner hinner => exact hnone _ _ hinner.toClosesAt
      | first hat _ => exact hnone _ _ hat
    rw [HeadedText.ofText, hsplit]
  · rw [split?_of_opens h, ← hfirst.endsBlock_iff]
    constructor
    · rintro ⟨front, hends, heq⟩
      exact hends.eq_first hfirst heq.symm
    · intro hends
      exact ⟨before, hends, rfl⟩
  · obtain ⟨front, back, hends⟩ := exists_endsBlock hfirst.toClosesAt
    have hsplit := (split?_of_opens h).mpr ⟨front, hends, rfl⟩
    refine ⟨front, back, hends, hsplit, ?_⟩
    rw [HeadedText.ofText, hsplit]

/-- The only closing line ends the block also when it is the first line. -/
theorem split?_of_only_first :
    Opens "---\n---\nBody".toList "---\nBody".toList ∧
    FirstClosing "---\nBody".toList [] "Body".toList ∧
    split? "---\n---\nBody".toList = some ([], "Body".toList) := by
  have hopens : Opens "---\n---\nBody".toList "---\nBody".toList :=
    ⟨[], ['-', '-', '-'], _, .inl rfl, rfl, ⟨[], rfl, by simp⟩, .inr ⟨['\n'], .inl rfl, by decide⟩⟩
  have hfirst : FirstClosing "---\nBody".toList [] "Body".toList :=
    ⟨closesAt_nil_iff.mpr (by decide), fun _ _ _ => Nat.zero_le _⟩
  exact ⟨hopens, hfirst, ((ofText_of_opens _ _ hopens).2 _ _ hfirst).1.mpr fun _ =>
    untilClosing?_eq_none_iff.mp (by decide)⟩

/-- Two closing lines follow the opening one, and the block ends at the second. -/
theorem split?_of_second_closing :
    Opens "---\n---\na: 1\n---\nrest".toList "---\na: 1\n---\nrest".toList ∧
    FirstClosing "---\na: 1\n---\nrest".toList [] "a: 1\n---\nrest".toList ∧
    split? "---\n---\na: 1\n---\nrest".toList = some ("---\na: 1".toList, "rest".toList) :=
  ⟨⟨[], ['-', '-', '-'], _, .inl rfl, rfl, ⟨[], rfl, by simp⟩, .inr ⟨['\n'], .inl rfl, by decide⟩⟩,
    ⟨closesAt_nil_iff.mpr (by decide), fun _ _ _ => Nat.zero_le _⟩, by decide⟩

end PromptTemplates.HeaderBlock
