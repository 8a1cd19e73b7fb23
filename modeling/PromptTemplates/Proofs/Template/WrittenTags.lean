import Mathlib.Data.List.Basic
import PromptTemplates.Proofs.Template.TripleBraces

/-!
# Tags as they are written

The arguments of a tag are texts in double quotes, in which every other character is allowed, and blanks,
paths and other text without quotes and braces. The scan finds the end of a tag by its closing braces
alone, so closing braces in a quoted text end the tag early. This does not change what the tag means for
the nesting of blocks, and the scan passes over the rest of it unless that opens another tag. But a plain
tag with opening braces in a quoted text counts as unterminated, unless closing braces stand before them.
-/

namespace PromptTemplates

open Text

/-- A part of the arguments of a tag: blanks, paths and the like, or a text in quotes. -/
inductive ArgumentPart
  | bare (s : List Char) (allowed : ∀ c ∈ s, c ≠ '"' ∧ c ≠ '{' ∧ c ≠ '}')
  | quoted (s : List Char) (allowed : '"' ∉ s)

namespace ArgumentPart

def text : ArgumentPart → List Char
  | bare s _ => s
  | quoted s _ => '"' :: s ++ ['"']

/-- A pattern stands in a text in quotes. -/
def Quotes (pat : List Char) : ArgumentPart → Prop
  | bare _ _ => False
  | quoted s _ => pat <:+: s

end ArgumentPart

/-- What makes a tag a block tag: its sign, and the blanks behind the sign. -/
inductive Mark
  | none
  | opening (sign : Char) (blanks : List Char)
  | closing (blanks : List Char)

namespace Mark

def text : Mark → List Char
  | none => []
  | opening sign blanks => sign :: blanks
  | closing blanks => '/' :: blanks

/-- A tag without a mark does not begin like a block tag or a comment, and a lone sign has no arguments.
A closing tag has none either. -/
def Allows (name : List Char) (parts : List ArgumentPart) : Mark → Prop
  | none => name.head? ≠ some '!' ∧ name.head? ≠ some '/' ∧
      (name.head? = some '#' ∨ name.head? = some '^' → name.length = 1 ∧ parts = [])
  | opening sign blanks => (sign = '#' ∨ sign = '^') ∧ AllBlank blanks
  | closing blanks => AllBlank blanks ∧ parts = []

end Mark

/-- A character that a name in a tag may have. -/
def IsPlainNameChar (c : Char) : Prop :=
  isBlank c = false ∧ c ≠ '"' ∧ c ≠ '{' ∧ c ≠ '}' ∧ c ≠ '~'

/-- What is written between the braces of a tag: tildes and blanks at both ends, and between them the
mark, the name and the arguments. -/
structure WrittenTag where
  front : List Char
  gap : List Char
  mark : Mark
  name : List Char
  parts : List ArgumentPart
  tail : List Char
  back : List Char
  front_tilde : ∀ c ∈ front, c = '~'
  gap_blank : AllBlank gap
  mark_allows : mark.Allows name parts
  name_ne : name ≠ []
  name_plain : ∀ c ∈ name, IsPlainNameChar c
  parts_spaced : ∀ c ∈ (parts.flatMap ArgumentPart.text).head?, isBlank c = true
  tail_blank : AllBlank tail
  back_tilde : ∀ c ∈ back, c = '~'

namespace WrittenTag

/-- The mark and the name. -/
def core (t : WrittenTag) : List Char := t.mark.text ++ t.name

def arguments (t : WrittenTag) : List Char := t.parts.flatMap ArgumentPart.text

def inner (t : WrittenTag) : List Char := t.front ++ t.gap ++ t.core ++ t.arguments ++ t.tail ++ t.back

def text (t : WrittenTag) : List Char := ['{', '{'] ++ t.inner ++ ['}', '}']

/-- The tag with three braces. -/
def rawText (t : WrittenTag) : List Char := ['{', '{', '{'] ++ t.inner ++ ['}', '}', '}']

def Quotes (pat : List Char) (t : WrittenTag) : Prop := ∃ part ∈ t.parts, part.Quotes pat

/-- What the tag means for the nesting of blocks. -/
def tag (t : WrittenTag) : Tag :=
  match t.mark with
  | .none => .leaf
  | .opening _ _ => .opening (String.ofList t.name)
  | .closing _ => .closing (String.ofList t.name)

/-- Two opening braces stand in the tag before any two closing ones. -/
def RunsOver (t : WrittenTag) : Prop :=
  ∃ u v, t.inner = u ++ ['{', '{'] ++ v ∧ ¬ ['}', '}'] <:+: u

/-- Two opening braces stand in the tag behind the first closing braces. -/
def Exposes (closer : List Char) (t : WrittenTag) : Prop :=
  ∃ u v, FirstAt closer t.inner u v ∧ ['{', '{'] <:+: v

end WrittenTag

/-! ## The text of a tag -/

/-- A text without braces. -/
def BraceFree (s : List Char) : Prop := ∀ c ∈ s, c ≠ '{' ∧ c ≠ '}'

/-- A text whose last character is no brace. -/
def EndsPlain (s : List Char) : Prop := ∀ c ∈ s.getLast?, c ≠ '{' ∧ c ≠ '}'

variable {s s' : List Char}

theorem BraceFree.append (h : BraceFree s) (h' : BraceFree s') : BraceFree (s ++ s') := fun c hc =>
  (List.mem_append.mp hc).elim (h c) (h' c)

theorem BraceFree.endsPlain (h : BraceFree s) : EndsPlain s := fun c hc => h c (List.mem_of_getLast? hc)

theorem EndsPlain.append (h : EndsPlain s) (h' : EndsPlain s') : EndsPlain (s ++ s') :=
  forall_getLast?_append h h'

theorem braceFree_of_allBlank (h : AllBlank s) : BraceFree s := by
  intro c hc
  have hblank := h c hc
  constructor <;> rintro rfl <;> exact absurd hblank (by decide)

theorem braceFree_of_tilde (h : ∀ c ∈ s, c = '~') : BraceFree s := by
  intro c hc
  rw [h c hc]
  decide

theorem EndsPlain.opening_append_iff (h : EndsPlain s) :
    ['{', '{'] <:+: s ++ s' ↔ ['{', '{'] <:+: s ∨ ['{', '{'] <:+: s' :=
  infix_append_of_getLast? fun c hc hmem => (h c hc).1 (by simpa using hmem)

theorem BraceFree.not_opening (h : BraceFree s) : ¬ ['{', '{'] <:+: s := fun hmark =>
  (h '{' (List.IsInfix.subset hmark (by simp))).1 rfl

theorem BraceFree.exists_append {u w : List Char} (h : BraceFree s) (heq : s ++ s' = u ++ '}' :: w) :
    ∃ x, u = s ++ x ∧ s' = x ++ '}' :: w := by
  rcases List.append_eq_append_iff.mp heq with hx | ⟨x, rfl, hx⟩
  · exact hx
  · cases x with
    | nil => exact ⟨[], by simpa using hx.symm⟩
    | cons c x =>
      obtain rfl : '}' = c := (List.cons.inj hx).1
      exact absurd rfl (h '}' (by simp)).2

theorem BraceFree.opening_append_iff (h : BraceFree s) :
    ['{', '{'] <:+: s ++ s' ↔ ['{', '{'] <:+: s' := by
  rw [h.endsPlain.opening_append_iff, or_iff_right h.not_opening]

namespace ArgumentPart

variable {part : ArgumentPart} {parts : List ArgumentPart}

theorem endsPlain_text : EndsPlain part.text := by
  cases part with
  | bare s allowed => exact BraceFree.endsPlain fun c hc => (allowed c hc).2
  | quoted s allowed =>
    intro c hc
    rw [text, List.getLast?_concat] at hc
    cases hc
    decide

theorem opening_text_iff : ['{', '{'] <:+: part.text ↔ part.Quotes ['{', '{'] := by
  cases part with
  | bare s allowed => exact iff_of_false (BraceFree.not_opening fun c hc => (allowed c hc).2) id
  | quoted s allowed =>
    have hquote : BraceFree ['"'] := by simp [BraceFree]
    change ['{', '{'] <:+: ['"'] ++ (s ++ ['"']) ↔ ['{', '{'] <:+: s
    rw [hquote.opening_append_iff, infix_append_of_head? (by simp), or_iff_left hquote.not_opening]

theorem endsPlain_texts : EndsPlain (parts.flatMap text) := by
  induction parts with
  | nil => simp [EndsPlain]
  | cons part parts ih => exact endsPlain_text.append ih

theorem opening_texts_iff :
    ['{', '{'] <:+: parts.flatMap text ↔ ∃ part ∈ parts, part.Quotes ['{', '{'] := by
  induction parts with
  | nil => simp
  | cons part parts ih =>
    rw [List.flatMap_cons, endsPlain_text.opening_append_iff, opening_text_iff, ih]
    simp

end ArgumentPart

namespace WrittenTag

variable (t : WrittenTag)

theorem braceFree_mark : BraceFree t.mark.text := by
  have hallows := t.mark_allows
  cases hmark : t.mark with
  | none => simp [BraceFree, Mark.text]
  | opening sign blanks =>
    rw [hmark] at hallows
    obtain ⟨hsign, hblanks⟩ := hallows
    refine BraceFree.append (s := [sign]) ?_ (braceFree_of_allBlank hblanks)
    rcases hsign with rfl | rfl <;> simp [BraceFree]
  | closing blanks =>
    rw [hmark] at hallows
    have hslash : BraceFree ['/'] := by simp [BraceFree]
    exact hslash.append (braceFree_of_allBlank hallows.1)

theorem core_ne : t.core ≠ [] := by
  simp [core, t.name_ne]

/-- A mark or a name begins neither with what is dropped at the front of a tag nor like a comment. -/
theorem head?_core : ∀ c ∈ t.core.head?, c ≠ '!' ∧ c ≠ '~' ∧ isBlank c = false := by
  have hallows := t.mark_allows
  rw [core]
  cases hmark : t.mark with
  | none =>
    rw [hmark] at hallows
    intro c hc
    have hplain := t.name_plain c (List.mem_of_mem_head? hc)
    exact ⟨fun h => hallows.1 (h ▸ hc), hplain.2.2.2.2, hplain.1⟩
  | opening sign blanks =>
    rw [hmark] at hallows
    intro c hc
    obtain rfl : sign = c := Option.some.inj hc
    rcases hallows.1 with rfl | rfl <;> decide
  | closing blanks =>
    intro c hc
    obtain rfl : '/' = c := Option.some.inj hc
    decide

theorem getLast?_core : ∀ c ∈ t.core.getLast?, c ≠ '~' ∧ isBlank c = false := by
  intro c hc
  rw [core, List.getLast?_append_of_ne_nil _ t.name_ne] at hc
  have hplain := t.name_plain c (List.mem_of_getLast? hc)
  exact ⟨hplain.2.2.2.2, hplain.1⟩

theorem braceFree_beginning : BraceFree (t.front ++ t.gap ++ t.core) :=
  ((braceFree_of_tilde t.front_tilde).append (braceFree_of_allBlank t.gap_blank)).append
    (t.braceFree_mark.append fun c hc => ⟨(t.name_plain c hc).2.2.1, (t.name_plain c hc).2.2.2.1⟩)

theorem braceFree_end : BraceFree (t.tail ++ t.back) :=
  (braceFree_of_allBlank t.tail_blank).append (braceFree_of_tilde t.back_tilde)

theorem inner_eq : t.inner = t.front ++ t.gap ++ t.core ++ (t.arguments ++ (t.tail ++ t.back)) := by
  simp [inner]

theorem endsPlain_inner : EndsPlain t.inner := by
  rw [inner_eq]
  exact t.braceFree_beginning.endsPlain.append
    (ArgumentPart.endsPlain_texts.append t.braceFree_end.endsPlain)

theorem opening_inner_iff : ['{', '{'] <:+: t.inner ↔ t.Quotes ['{', '{'] := by
  rw [inner_eq, t.braceFree_beginning.opening_append_iff, arguments,
    ArgumentPart.endsPlain_texts.opening_append_iff, or_iff_left t.braceFree_end.not_opening]
  exact ArgumentPart.opening_texts_iff

/-- The beginning of a tag is neither that of a comment nor that of a tag with three braces. -/
theorem head?_beginning (x : List Char) :
    ∀ c ∈ (t.front ++ t.gap ++ t.core ++ x).head?, c ≠ '!' ∧ c ≠ '{' := by
  have hne : t.front ++ t.gap ++ t.core ≠ [] := by simp [t.core_ne]
  rw [List.head?_append_of_ne_nil _ hne]
  intro c hc
  refine ⟨?_, (t.braceFree_beginning c (List.mem_of_mem_head? hc)).1⟩
  have hfront : ∀ c ∈ t.front.head?, c ≠ '!' := fun c hc => by
    rw [t.front_tilde c (List.mem_of_mem_head? hc)]
    decide
  have hgap : ∀ c ∈ t.gap.head?, c ≠ '!' := by
    rintro c hc rfl
    exact absurd (t.gap_blank _ (List.mem_of_mem_head? hc)) (by decide)
  exact forall_head?_append (forall_head?_append hfront hgap) (fun c hc => (t.head?_core c hc).1) c hc

theorem isTrimmed_name : IsTrimmed t.name :=
  ⟨fun c hc => (t.name_plain c (List.mem_of_mem_head? hc)).1,
    fun c hc => (t.name_plain c (List.mem_of_getLast? hc)).1⟩

/-- What follows the name of a tag behind a blank does not change what the tag means. -/
theorem means_tag {left : List Char} (hblank : ∀ c ∈ left.head?, isBlank c = true)
    (hlone : t.parts = [] → left = []) : Means (t.core ++ left) t.tag := by
  have hallows := t.mark_allows
  have hhead : (t.name ++ left).head? = t.name.head? := List.head?_append_of_ne_nil _ t.name_ne
  cases hmark : t.mark with
  | none =>
    rw [hmark] at hallows
    obtain ⟨-, hslash, hsign⟩ := hallows
    simp only [core, tag, hmark, Mark.text, List.nil_append]
    refine .leaf (by rwa [hhead]) fun sign rest hcontent hkind => ?_
    obtain ⟨hlength, hparts⟩ : t.name.length = 1 ∧ t.parts = [] := by
      apply hsign
      rw [← hhead, hcontent]
      simpa using hkind
    have := congrArg List.length hcontent
    rw [hlone hparts, List.append_nil, hlength] at this
    exact List.eq_nil_of_length_eq_zero (by simpa using this.symm)
  | opening sign blanks =>
    rw [hmark] at hallows
    have hname : ∀ c ∈ t.name, IsNameChar c := fun c hc =>
      ⟨(t.name_plain c hc).1, (t.name_plain c hc).2.2.2.1⟩
    have hstart : ∀ c ∈ (t.name ++ left).head?, isBlank c = false := hhead ▸ t.isTrimmed_name.head
    have hleft : ∀ c ∈ left.head?, ¬ IsNameChar c := fun c hc ⟨h, _⟩ => by
      simp [hblank c hc] at h
    have hopening : Means (sign :: (blanks ++ t.name ++ left)) (.opening (String.ofList t.name)) :=
      .opening hallows.1 (by simp [t.name_ne]) hallows.2 hstart hname hleft
    simpa [core, tag, hmark, Mark.text] using hopening
  | closing blanks =>
    rw [hmark] at hallows
    have htrim : trimChars (blanks ++ t.name ++ []) = t.name :=
      trimChars_append hallows.1 allBlank_nil t.isTrimmed_name
    have hclosing : Means ('/' :: (blanks ++ t.name ++ [])) _ := .closing
    rw [htrim] at hclosing
    simpa [hlone hallows.2, core, tag, hmark, Mark.text] using hclosing

/-- A tag that ends behind its name, or somewhere behind a blank after its name, has its meaning. -/
theorem classify_eq_tag {rest back : List Char} (hblank : ∀ c ∈ rest.head?, isBlank c = true)
    (hlone : t.parts = [] → AllBlank rest) (hback : ∀ c ∈ back, c = '~') :
    Tag.classify (t.front ++ t.gap ++ t.core ++ rest ++ back) = t.tag := by
  obtain ⟨left, hcontent, hstart, hnil⟩ : ∃ left,
      tagContent (t.front ++ t.gap ++ t.core ++ rest ++ back) = t.core ++ left ∧ left <+: rest ∧
        (AllBlank rest → left = []) :=
    Tag.tagContent_append t.front_tilde t.gap_blank t.core_ne (fun c hc => (t.head?_core c hc).2)
      t.getLast?_core hback
  obtain ⟨more, rfl⟩ := hstart
  rw [Tag.classify_eq_iff, hcontent]
  refine t.means_tag (fun c hc => hblank c ?_) fun hparts => hnil (hlone hparts)
  rw [List.head?_append, hc, Option.some_or]
  rfl

/-! ### Where a tag ends -/

variable {t} {u w rest before closer : List Char}

/-- The first closing braces of a tag are those at its end, or others within it. -/
theorem cut_cases (hcloser : ∀ c ∈ closer, c = '}') (h : FirstAt closer (t.inner ++ closer) u w) :
    u = t.inner ∧ w = [] ∨ ∃ v, FirstAt closer t.inner u v ∧ w = v ++ closer := by
  by_cases hwithin : closer <:+: t.inner
  · obtain ⟨u', v, hfirst⟩ := exists_firstAt hwithin
    obtain ⟨rfl, rfl⟩ := h.unique (hfirst.append closer)
    exact .inr ⟨v, hfirst, rfl⟩
  · have hend : FirstAt closer (t.inner ++ closer ++ []) t.inner [] :=
      firstAt_append hwithin (fun c hc hmem => (t.endsPlain_inner c hc).2 (hcloser c hmem)) []
    rw [List.append_nil] at hend
    exact .inl (h.unique hend)

/-- The scan passes over what stands in a tag behind its first closing braces. -/
theorem scanAfter_behind_cut (hne : closer ≠ []) (hcloser : ∀ c ∈ closer, c = '}')
    (h : FirstAt closer (t.inner ++ closer) u w) (hexposes : ¬ t.Exposes closer)
    (before rest : List Char) :
    Tag.scanAfter before (w ++ rest) = Tag.scanAfter (before ++ w) rest := by
  rcases cut_cases hcloser h with ⟨-, rfl⟩ | ⟨v, hfirst, rfl⟩
  · rw [List.nil_append, List.append_nil]
  · have hbrace : '{' ∉ closer := fun hmem => absurd (hcloser _ hmem) (by decide)
    apply Tag.scanAfter_append
    · intro hmark
      have hheadless : ∀ c ∈ closer.head?, c ∉ ['{', '{'] := by
        intro c hc
        rw [hcloser c (List.mem_of_mem_head? hc)]
        decide
      rcases (infix_append_of_head? hheadless).mp hmark with hv | hrest
      · exact hexposes ⟨u, v, hfirst, hv⟩
      · exact hbrace (List.IsInfix.subset hrest (by simp))
    · rintro c hc rfl
      rw [List.getLast?_append_of_ne_nil _ hne] at hc
      exact hbrace (List.mem_of_getLast? hc)

/-- The first two closing braces of a tag stand behind its name, and what stands before them means what
the whole tag means. -/
theorem cut_means (h : FirstAt ['}', '}'] (t.inner ++ ['}', '}']) u w) :
    (∃ x, u = t.front ++ t.gap ++ t.core ++ x) ∧ Tag.classify u = t.tag := by
  have heq : t.inner ++ ['}', '}'] = u ++ '}' :: '}' :: w := by simpa using h.eq_append
  rw [inner_eq, List.append_assoc] at heq
  obtain ⟨x, rfl, hx⟩ := t.braceFree_beginning.exists_append heq
  refine ⟨⟨x, rfl⟩, ?_⟩
  -- without arguments the closing braces are those at the end; otherwise a blank follows the name
  by_cases harguments : t.arguments = []
  · obtain ⟨y, rfl, hy⟩ := t.braceFree_end.exists_append (by simpa [harguments] using hx)
    obtain rfl : y = [] := by
      have := congrArg List.length hy
      exact List.eq_nil_of_length_eq_zero (by simp at this; omega)
    have hblank : ∀ c ∈ t.tail.head?, isBlank c = true := fun c hc =>
      t.tail_blank c (List.mem_of_mem_head? hc)
    simpa using t.classify_eq_tag hblank (fun _ => t.tail_blank) t.back_tilde
  · have hlone : t.parts = [] → AllBlank x := fun hparts =>
      absurd (by simp [arguments, hparts]) harguments
    have hblank : ∀ c ∈ x.head?, isBlank c = true := by
      intro c hc
      obtain ⟨x, rfl⟩ := List.head?_eq_some_iff.mp hc
      apply t.parts_spaced
      have hhead := congrArg List.head? hx
      rw [List.append_assoc, List.head?_append_of_ne_nil _ harguments] at hhead
      exact hhead
    have hclassify : Tag.classify (t.front ++ t.gap ++ t.core ++ x ++ []) = t.tag :=
      t.classify_eq_tag hblank hlone (by simp)
    rwa [List.append_nil] at hclassify

theorem tagText (h : FirstAt ['}', '}'] (t.inner ++ ['}', '}']) u w) (rest : List Char) :
    TagText (t.inner ++ ['}', '}'] ++ rest) u (w ++ rest) := by
  have hhead : ∀ c ∈ (t.inner ++ ['}', '}'] ++ rest).head?, c ≠ '!' ∧ c ≠ '{' := by
    rw [inner_eq, List.append_assoc, List.append_assoc]
    exact t.head?_beginning _
  refine .plain (fun hmark => (hhead '!' hmark).1 rfl) (fun s hs => ?_) (h.append rest)
  rw [hs] at hhead
  exact absurd rfl (hhead '{' rfl).2

theorem Exposes.quotes (h : t.Exposes closer) : t.Quotes ['{', '{'] := by
  obtain ⟨u, v, hfirst, hv⟩ := h
  rw [← t.opening_inner_iff, hfirst.eq_append]
  exact hv.trans (List.suffix_append _ v).isInfix

/-- The scan goes on behind a tag without opening braces in a quoted text, wherever it ends the tag. -/
theorem scanAfter_text (hbefore : before.getLast? ≠ some '\\') (hquotes : ¬ t.Quotes ['{', '{'])
    (rest : List Char) : Tag.scanAfter before (t.text ++ rest) =
      ⟨t.tag, lineAfter before⟩ :: Tag.scanAfter (before ++ t.text) rest := by
  obtain ⟨u, w, hcut⟩ : ∃ u w, FirstAt ['}', '}'] (t.inner ++ ['}', '}']) u w :=
    exists_firstAt (List.suffix_append _ _).isInfix
  have hrun : ¬ RunsInto u := by
    rintro ⟨-, -, hu⟩
    have hinner : ['{', '{'] <:+: t.inner ++ ['}', '}'] := by
      rw [hcut.eq_append, List.append_assoc]
      exact hu.trans (List.prefix_append u _).isInfix
    rw [t.endsPlain_inner.opening_append_iff, t.opening_inner_iff] at hinner
    exact hinner.elim hquotes (by decide)
  have hstart : t.text ++ rest = '{' :: '{' :: (t.inner ++ ['}', '}'] ++ rest) := by simp [text]
  have htext : t.text = ['{', '{'] ++ u ++ ['}', '}'] ++ w := by
    simpa [text] using hcut.eq_append
  rw [hstart, Tag.scanAfter_tag hbefore (tagText hcut rest) hrun, (cut_means hcut).2,
    scanAfter_behind_cut (by simp) (by simp) hcut fun h => hquotes h.quotes, htext]
  simp

/-- The scan ends with a tag that runs into opening braces in a quoted text. -/
theorem scanAfter_of_runsOver (hbefore : before.getLast? ≠ some '\\') (hover : t.RunsOver)
    (rest : List Char) :
    Tag.scanAfter before (t.text ++ rest) = [⟨.unterminated, lineAfter before⟩] := by
  obtain ⟨a, b, hinner, hnone⟩ := hover
  obtain ⟨u, w, hcut⟩ : ∃ u w, FirstAt ['}', '}'] (t.inner ++ ['}', '}']) u w :=
    exists_firstAt (List.suffix_append _ _).isInfix
  have hopening : ['{', '{'] <:+: u ++ ['}', '}'] → ['{', '{'] <:+: u := fun h =>
    ((infix_append_of_head? (by simp)).mp h).resolve_right (by decide)
  have hclosing : ['}', '}'] <:+: a ++ ['{', '{'] → ['}', '}'] <:+: a := fun h =>
    ((infix_append_of_head? (by simp)).mp h).resolve_right (by decide)
  -- both the tag up to its closing braces and up to its opening ones begin the text
  have hu : u ++ ['}', '}'] <+: t.inner ++ ['}', '}'] := ⟨w, hcut.eq_append.symm⟩
  have ha : a ++ ['{', '{'] <+: t.inner ++ ['}', '}'] := ⟨b ++ ['}', '}'], by simp [hinner]⟩
  have hrun : RunsInto u := by
    obtain ⟨⟨x, rfl⟩, -⟩ := cut_means hcut
    have hhead := t.head?_beginning x
    refine ⟨fun h => (hhead _ h).1 rfl, fun h => (hhead _ h).2 rfl, ?_⟩
    rcases List.prefix_or_prefix_of_prefix hu ha with hle | hle
    · exact absurd (hclosing ((List.suffix_append _ _).isInfix.trans hle.isInfix)) hnone
    · exact hopening ((List.suffix_append _ _).isInfix.trans hle.isInfix)
  have hstart : t.text ++ rest = '{' :: '{' :: (t.inner ++ ['}', '}'] ++ rest) := by simp [text]
  rw [hstart, Tag.scanAfter_overrun hbefore (tagText hcut rest) hrun]

/-- Before opening braces in a quoted text either no closing braces stand, or closing braces end the tag
before them. -/
theorem runsOver_or_exposes (h : t.Quotes ['{', '{']) : t.RunsOver ∨ t.Exposes ['}', '}'] := by
  obtain ⟨a, b, hopening⟩ := exists_firstAt (t.opening_inner_iff.mpr h)
  by_cases hclosing : ['}', '}'] <:+: a
  · obtain ⟨u, v, hfirst⟩ := exists_firstAt hclosing
    have hinner := hfirst.append (['{', '{'] ++ b)
    rw [← List.append_assoc, ← hopening.eq_append] at hinner
    exact .inr ⟨u, _, hinner, v, b, by simp⟩
  · exact .inl ⟨a, b, hopening.eq_append, hclosing⟩

/-- The scan goes on behind a tag with three braces. -/
theorem scanAfter_rawText (hbefore : before.getLast? ≠ some '\\') (hexposes : ¬ t.Exposes ['}', '}', '}'])
    (rest : List Char) : Tag.scanAfter before (t.rawText ++ rest) =
      ⟨.leaf, lineAfter before⟩ :: Tag.scanAfter (before ++ t.rawText) rest := by
  obtain ⟨u, w, hcut⟩ : ∃ u w, FirstAt ['}', '}', '}'] (t.inner ++ ['}', '}', '}']) u w :=
    exists_firstAt (List.suffix_append _ _).isInfix
  have hend : EndsTriple (t.inner ++ ['}', '}', '}'] ++ rest) u ['}', '}', '}'] (w ++ rest) :=
    ⟨hcut.append rest, .inl rfl⟩
  have hstart : t.rawText ++ rest = '{' :: '{' :: '{' :: (t.inner ++ ['}', '}', '}'] ++ rest) := by
    simp [rawText]
  have htext : t.rawText = ['{', '{', '{'] ++ u ++ ['}', '}', '}'] ++ w := by
    simpa [rawText] using hcut.eq_append
  rw [hstart, Tag.scanAfter_triple hbefore hend,
    scanAfter_behind_cut (by simp) (by simp) hcut hexposes, htext]
  simp

end WrittenTag

end PromptTemplates
