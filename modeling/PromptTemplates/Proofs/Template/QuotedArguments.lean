import PromptTemplates.Proofs.Template.WrittenTags

/-!
# Quoted arguments

A template is written with text that has no braces and no backslashes, with tags and with blocks. The
check reads a quoted text in an argument like any other text. It accepts every template in which no quoted
text has opening braces. A template whose first tag with such a text has them before any closing braces is
rejected, as this tag counts as unterminated. Where closing braces stand before them, what the rest of the
quoted text opens and closes counts like the tags of the template.
-/

namespace PromptTemplates

open Text

/-- Text between the tags. -/
def PlainText : Type := {s : List Char // ∀ c ∈ s, c ≠ '{' ∧ c ≠ '}' ∧ c ≠ '\\'}

/-- A tag that is no block tag. -/
def LeafTag : Type := {t : WrittenTag // t.mark = .none}

/-- The tags of a block. -/
structure TagPair where
  opener : WrittenTag
  closer : WrittenTag
  opens : ∃ sign blanks, opener.mark = .opening sign blanks
  closes : ∃ blanks, closer.mark = .closing blanks
  named : closer.name = opener.name

/-- A template as it is written: what stands in front, and the template behind it. -/
inductive WrittenTemplate
  | done
  | plain (s : PlainText) (next : WrittenTemplate)
  | leaf (t : LeafTag) (next : WrittenTemplate)
  | raw (t : LeafTag) (next : WrittenTemplate)
  | block (tags : TagPair) (body next : WrittenTemplate)

namespace WrittenTemplate

def text : WrittenTemplate → List Char
  | done => []
  | plain s next => s.val ++ next.text
  | leaf t next => t.val.text ++ next.text
  | raw t next => t.val.rawText ++ next.text
  | block tags body next => tags.opener.text ++ body.text ++ tags.closer.text ++ next.text

section

variable (s : PlainText) (t : LeafTag) (tags : TagPair) (body next : WrittenTemplate)

@[simp] theorem text_done : done.text = [] := rfl

theorem text_plain : (plain s next).text = s.val ++ next.text := rfl

theorem text_leaf : (leaf t next).text = t.val.text ++ next.text := rfl

theorem text_raw : (raw t next).text = t.val.rawText ++ next.text := rfl

theorem text_block : (block tags body next).text =
    tags.opener.text ++ body.text ++ tags.closer.text ++ next.text := rfl

end

/-- No plain tag has two opening braces in a quoted text, and no tag with three braces has them behind
closing ones. -/
def Unharmed : WrittenTemplate → Prop
  | done => True
  | plain _ next => next.Unharmed
  | leaf t next => ¬ t.val.Quotes ['{', '{'] ∧ next.Unharmed
  | raw t next => ¬ t.val.Exposes ['}', '}', '}'] ∧ next.Unharmed
  | block tags body next => ¬ tags.opener.Quotes ['{', '{'] ∧ body.Unharmed ∧ next.Unharmed

/-- In some tag, opening braces stand behind closing braces. -/
def Exposes : WrittenTemplate → Prop
  | done => False
  | plain _ next => next.Exposes
  | leaf t next => t.val.Exposes ['}', '}'] ∨ next.Exposes
  | raw t next => t.val.Exposes ['}', '}', '}'] ∨ next.Exposes
  | block tags body next => tags.opener.Exposes ['}', '}'] ∨ body.Exposes ∨ next.Exposes

/-- The first tag of a template that is not read as it is written runs into opening braces in a quoted
text; `front` is the text before this tag. -/
inductive RunsOver : WrittenTemplate → (front : List Char) → Prop
  | plain {s next front} : RunsOver next front → RunsOver (.plain s next) (s.val ++ front)
  | leaf {t next} : t.val.RunsOver → RunsOver (.leaf t next) []
  | afterLeaf {t next front} : ¬ t.val.Quotes ['{', '{'] → RunsOver next front →
      RunsOver (.leaf t next) (t.val.text ++ front)
  | afterRaw {t next front} : ¬ t.val.Exposes ['}', '}', '}'] → RunsOver next front →
      RunsOver (.raw t next) (t.val.rawText ++ front)
  | opener {tags body next} : tags.opener.RunsOver → RunsOver (.block tags body next) []
  | body {tags body next front} : ¬ tags.opener.Quotes ['{', '{'] → RunsOver body front →
      RunsOver (.block tags body next) (tags.opener.text ++ front)
  | afterBlock {tags body next front} : ¬ tags.opener.Quotes ['{', '{'] → body.Unharmed →
      RunsOver next front → RunsOver (.block tags body next)
        (tags.opener.text ++ body.text ++ tags.closer.text ++ front)

end WrittenTemplate

/-! ## The check of a template -/

variable {s s' : List Char}

/-- What follows a text is not taken literally. -/
def Unescaped (s : List Char) : Prop := ∀ c ∈ s.getLast?, c ≠ '\\'

theorem Unescaped.append (h : Unescaped s) (h' : Unescaped s') : Unescaped (s ++ s') :=
  forall_getLast?_append h h'

theorem Unescaped.getLast?_ne (h : Unescaped s) : s.getLast? ≠ some '\\' := fun hlast => h _ hlast rfl

theorem WrittenTag.unescaped_text (t : WrittenTag) : Unescaped t.text := by
  intro c hc
  rw [WrittenTag.text, List.getLast?_append_cons] at hc
  cases hc
  decide

theorem WrittenTag.unescaped_rawText (t : WrittenTag) : Unescaped t.rawText := by
  intro c hc
  rw [WrittenTag.rawText, List.getLast?_append_cons] at hc
  cases hc
  decide

theorem PlainText.unescaped (s : PlainText) : Unescaped s.val := fun c hc =>
  (s.property c (List.mem_of_getLast? hc)).2.2

theorem PlainText.scanAfter_append (s : PlainText) (before rest : List Char) :
    Tag.scanAfter before (s.val ++ rest) = Tag.scanAfter (before ++ s.val) rest := by
  have hfree : BraceFree s.val := fun c hc => ⟨(s.property c hc).1, (s.property c hc).2.1⟩
  exact Tag.scanAfter_append hfree.not_opening fun c hc => (hfree.endsPlain c hc).1

namespace Nesting

variable {before rest : List Char} {opened : List OpenBlock}

/-- The check goes on behind a tag that is no block tag. -/
theorem checkFrom_leafTag (t : LeafTag) (hbefore : Unescaped before)
    (hquotes : ¬ t.val.Quotes ['{', '{']) :
    checkFrom opened (Tag.scanAfter before (t.val.text ++ rest)) =
      checkFrom opened (Tag.scanAfter (before ++ t.val.text) rest) := by
  have htag : t.val.tag = .leaf := by rw [WrittenTag.tag, t.property]
  rw [WrittenTag.scanAfter_text hbefore.getLast?_ne hquotes, htag, checkFrom_leaf]

theorem checkFrom_rawTag (t : LeafTag) (hbefore : Unescaped before)
    (hexposes : ¬ t.val.Exposes ['}', '}', '}']) :
    checkFrom opened (Tag.scanAfter before (t.val.rawText ++ rest)) =
      checkFrom opened (Tag.scanAfter (before ++ t.val.rawText) rest) := by
  rw [WrittenTag.scanAfter_rawText hbefore.getLast?_ne hexposes, checkFrom_leaf]

theorem checkFrom_opener (tags : TagPair) (hbefore : Unescaped before)
    (hquotes : ¬ tags.opener.Quotes ['{', '{']) :
    checkFrom opened (Tag.scanAfter before (tags.opener.text ++ rest)) =
      checkFrom (⟨String.ofList tags.opener.name, lineAfter before⟩ :: opened)
        (Tag.scanAfter (before ++ tags.opener.text) rest) := by
  obtain ⟨sign, blanks, hmark⟩ := tags.opens
  have htag : tags.opener.tag = .opening (String.ofList tags.opener.name) := by
    rw [WrittenTag.tag, hmark]
  rw [WrittenTag.scanAfter_text hbefore.getLast?_ne hquotes, htag, checkFrom_opening]

theorem checkFrom_closer (tags : TagPair) (line : Nat) (hbefore : Unescaped before) :
    checkFrom (⟨String.ofList tags.opener.name, line⟩ :: opened)
        (Tag.scanAfter before (tags.closer.text ++ rest)) =
      checkFrom opened (Tag.scanAfter (before ++ tags.closer.text) rest) := by
  obtain ⟨blanks, hmark⟩ := tags.closes
  have hallows := tags.closer.mark_allows
  rw [hmark] at hallows
  have hquotes : ¬ tags.closer.Quotes ['{', '{'] := by simp [WrittenTag.Quotes, hallows.2]
  have htag : tags.closer.tag = .closing (String.ofList tags.opener.name) := by
    rw [WrittenTag.tag, hmark, tags.named]
  rw [WrittenTag.scanAfter_text hbefore.getLast?_ne hquotes, htag, checkFrom_closing, if_pos rfl]

end Nesting

namespace WrittenTemplate

open Nesting

theorem unescaped_text (t : WrittenTemplate) : Unescaped t.text := by
  induction t with
  | done => simp [Unescaped]
  | plain s next ih => exact s.unescaped.append ih
  | leaf t next ih => exact t.val.unescaped_text.append ih
  | raw t next ih => exact t.val.unescaped_rawText.append ih
  | block tags body next ihbody ih =>
    exact ((tags.opener.unescaped_text.append ihbody).append tags.closer.unescaped_text).append ih

variable {t : WrittenTemplate} {before rest front : List Char} {opened : List OpenBlock}

/-- The check passes over a template without harmful quoted texts. -/
theorem checkFrom_of_unharmed (h : t.Unharmed) (hbefore : Unescaped before) :
    checkFrom opened (Tag.scanAfter before (t.text ++ rest)) =
      checkFrom opened (Tag.scanAfter (before ++ t.text) rest) := by
  induction t generalizing before opened rest with
  | done => simp
  | plain s next ih =>
    rw [text_plain, List.append_assoc, s.scanAfter_append, ih h (hbefore.append s.unescaped),
      List.append_assoc]
  | leaf t next ih =>
    rw [text_leaf, List.append_assoc, checkFrom_leafTag t hbefore h.1,
      ih h.2 (hbefore.append t.val.unescaped_text), List.append_assoc]
  | raw t next ih =>
    rw [text_raw, List.append_assoc, checkFrom_rawTag t hbefore h.1,
      ih h.2 (hbefore.append t.val.unescaped_rawText), List.append_assoc]
  | block tags body next ihbody ih =>
    obtain ⟨hquotes, hbody, hnext⟩ := h
    have hopener := hbefore.append tags.opener.unescaped_text
    have hinside := hopener.append body.unescaped_text
    rw [text_block, List.append_assoc, List.append_assoc, List.append_assoc,
      checkFrom_opener tags hbefore hquotes, ihbody hbody hopener, checkFrom_closer tags _ hinside,
      ih hnext (hinside.append tags.closer.unescaped_text)]
    simp only [List.append_assoc]

/-- The check stops at the first tag that runs into opening braces in a quoted text. -/
theorem checkFrom_of_runsOver (h : t.RunsOver front) (hbefore : Unescaped before) :
    checkFrom opened (Tag.scanAfter before (t.text ++ rest)) =
      .error (.unterminated (lineAfter (before ++ front))) := by
  induction h generalizing before opened rest with
  | @plain s next front _ ih =>
    rw [text_plain, List.append_assoc, s.scanAfter_append, ih (hbefore.append s.unescaped),
      List.append_assoc]
  | leaf hover =>
    rw [text_leaf, List.append_assoc, WrittenTag.scanAfter_of_runsOver hbefore.getLast?_ne hover,
      checkFrom_unterminated, List.append_nil]
  | @afterLeaf t next front hquotes _ ih =>
    rw [text_leaf, List.append_assoc, checkFrom_leafTag t hbefore hquotes,
      ih (hbefore.append t.val.unescaped_text), List.append_assoc]
  | @afterRaw t next front hexposes _ ih =>
    rw [text_raw, List.append_assoc, checkFrom_rawTag t hbefore hexposes,
      ih (hbefore.append t.val.unescaped_rawText), List.append_assoc]
  | opener hover =>
    rw [text_block, List.append_assoc, List.append_assoc, List.append_assoc,
      WrittenTag.scanAfter_of_runsOver hbefore.getLast?_ne hover, checkFrom_unterminated,
      List.append_nil]
  | @body tags body next front hquotes _ ih =>
    rw [text_block, List.append_assoc, List.append_assoc, List.append_assoc,
      checkFrom_opener tags hbefore hquotes, ih (hbefore.append tags.opener.unescaped_text),
      List.append_assoc]
  | @afterBlock tags body next front hquotes hbody _ ih =>
    have hopener := hbefore.append tags.opener.unescaped_text
    have hinside := hopener.append body.unescaped_text
    rw [text_block, List.append_assoc, List.append_assoc, List.append_assoc,
      checkFrom_opener tags hbefore hquotes, checkFrom_of_unharmed hbody hopener,
      checkFrom_closer tags _ hinside, ih (hinside.append tags.closer.unescaped_text)]
    simp only [List.append_assoc]

/-- A template with a harmful quoted text has a first one, which is run into or has braces that end its
tag. -/
theorem unharmed_or_runsOver_or_exposes (t : WrittenTemplate) :
    t.Unharmed ∨ (∃ front, t.RunsOver front) ∨ t.Exposes := by
  induction t with
  | done => exact .inl trivial
  | plain s next ih =>
    rcases ih with hnext | ⟨front, hnext⟩ | hnext
    · exact .inl hnext
    · exact .inr (.inl ⟨_, .plain hnext⟩)
    · exact .inr (.inr hnext)
  | leaf t next ih =>
    by_cases hquotes : t.val.Quotes ['{', '{']
    · rcases WrittenTag.runsOver_or_exposes hquotes with hover | hexposes
      · exact .inr (.inl ⟨_, .leaf hover⟩)
      · exact .inr (.inr (.inl hexposes))
    · rcases ih with hnext | ⟨front, hnext⟩ | hnext
      · exact .inl ⟨hquotes, hnext⟩
      · exact .inr (.inl ⟨_, .afterLeaf hquotes hnext⟩)
      · exact .inr (.inr (.inr hnext))
  | raw t next ih =>
    by_cases hexposes : t.val.Exposes ['}', '}', '}']
    · exact .inr (.inr (.inl hexposes))
    · rcases ih with hnext | ⟨front, hnext⟩ | hnext
      · exact .inl ⟨hexposes, hnext⟩
      · exact .inr (.inl ⟨_, .afterRaw hexposes hnext⟩)
      · exact .inr (.inr (.inr hnext))
  | block tags body next ihbody ih =>
    by_cases hquotes : tags.opener.Quotes ['{', '{']
    · rcases WrittenTag.runsOver_or_exposes hquotes with hover | hexposes
      · exact .inr (.inl ⟨_, .opener hover⟩)
      · exact .inr (.inr (.inl hexposes))
    · rcases ihbody with hbody | ⟨front, hbody⟩ | hbody
      · rcases ih with hnext | ⟨front, hnext⟩ | hnext
        · exact .inl ⟨hquotes, hbody, hnext⟩
        · exact .inr (.inl ⟨_, .afterBlock hquotes hbody hnext⟩)
        · exact .inr (.inr (.inr (.inr hnext)))
      · exact .inr (.inl ⟨_, .body hquotes hbody⟩)
      · exact .inr (.inr (.inr (.inl hbody)))

theorem check_text (t : WrittenTemplate) :
    check (String.ofList t.text) = checkFrom [] (Tag.scanAfter [] (t.text ++ [])) := by
  rw [check, Tag.scan, String.toList_ofList, List.append_nil]
  rfl

/-- The check accepts every template unless opening braces in a quoted text do harm. If the first harm is
a tag that runs into them, the check reports this tag as unterminated; otherwise closing braces in some
quoted text end their tag before opening ones. -/
theorem check_written (t : WrittenTemplate) :
    (t.Unharmed → check (String.ofList t.text) = .ok ()) ∧
    (∀ front, t.RunsOver front →
      check (String.ofList t.text) = .error (.unterminated (lineAfter front))) ∧
    (t.Unharmed ∨ (∃ front, t.RunsOver front) ∨ t.Exposes) := by
  have hstart : Unescaped [] := by simp [Unescaped]
  refine ⟨fun h => ?_, fun front h => ?_, t.unharmed_or_runsOver_or_exposes⟩
  · rw [check_text, checkFrom_of_unharmed h hstart, Tag.scanAfter_eq_nil (by simp), checkFrom]
  · rw [check_text, checkFrom_of_runsOver h hstart, List.nil_append]

/-- A tag with the name `f` and a text in quotes. -/
def quotedCall (s : List Char) (allowed : '"' ∉ s) : LeafTag where
  val := {
    front := []
    gap := []
    mark := .none
    name := ['f']
    parts := [.bare [' '] (by simp), .quoted s allowed]
    tail := []
    back := []
    front_tilde := by simp
    gap_blank := allBlank_nil
    mark_allows := by simp [Mark.Allows]
    name_ne := by simp
    name_plain := by
      simp only [List.mem_singleton, forall_eq, IsPlainNameChar]
      decide
    parts_spaced := by
      intro c hc
      obtain rfl : ' ' = c := Option.some.inj hc
      decide
    tail_blank := allBlank_nil
    back_tilde := by simp }
  property := rfl

/-- Closing braces in a quoted text do no harm. -/
theorem check_written_quotedClosing :
    check (String.ofList (leaf (quotedCall ['}', '}'] (by decide)) done).text) = .ok () := by
  refine (check_written _).1 ⟨?_, trivial⟩
  simp only [WrittenTag.Quotes, quotedCall, List.mem_cons, List.not_mem_nil, or_false, exists_eq_or_imp,
    exists_eq_left, ArgumentPart.Quotes, false_or]
  decide

/-- A tag with opening braces in a quoted text is reported as unterminated, and text in quotes behind
closing braces can open a block. -/
theorem check_written_quotedOpening :
    check (String.ofList (leaf (quotedCall ['{', '{'] (by decide)) done).text) =
      .error (.unterminated 1) ∧
    check (String.ofList
      (leaf (quotedCall ['}', '}', '{', '{', '#', 'x', '}', '}'] (by decide)) done).text) =
        .error (.neverClosed "x" 1) := by
  constructor
  · have hover : (leaf (quotedCall ['{', '{'] (by decide)) done).RunsOver [] :=
      .leaf ⟨['f', ' ', '"'], ['"'], rfl, by decide⟩
    rw [check_text, checkFrom_of_runsOver hover (by simp [Unescaped])]
    rfl
  · have hcall : TagText ['f', ' ', '"', '}', '}', '{', '{', '#', 'x', '}', '}', '"', '}', '}']
        ['f', ' ', '"'] _ := .plain (by decide) (by simp) (firstAt_of_cutAt? rfl)
    have hblock : TagText ['#', 'x', '}', '}', '"', '}', '}'] ['#', 'x'] _ :=
      .plain (by decide) (by simp) (firstAt_of_cutAt? rfl)
    have hlater : Tag.scanAfter ['{', '{', 'f', ' ', '"', '}', '}']
        ['{', '{', '#', 'x', '}', '}', '"', '}', '}'] = [⟨.opening "x", 1⟩] := by
      rw [Tag.scanAfter_tag (by decide) hblock fun h => absurd h.2.2 (by decide),
        Tag.scanAfter_eq_nil (by decide)]
      rfl
    have hscan : Tag.scanAfter [] ('{' :: '{' :: _) = ⟨.leaf, 1⟩ :: _ :=
      Tag.scanAfter_tag (by decide) hcall fun h => absurd h.2.2 (by decide)
    rw [check_text]
    exact congrArg (checkFrom []) (hscan.trans (congrArg _ hlater))

end WrittenTemplate

end PromptTemplates
