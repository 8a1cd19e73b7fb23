import PromptTemplates.Proofs.Text.Trimming
import PromptTemplates.Template.Nesting

/-!
# Reading the tags of a text

The tags of a text are described without a scan: where the braces of the next tag stand, which of the
four kinds of tags begins there, where it ends, and what its inner text means. The scan of a text finds
these tags, up to the first that has no end or runs into another one.
-/

namespace PromptTemplates

open Text

/-- The text after two opening braces begins with a tag: its inner text, and the text after the tag. A
long comment is preferred to a comment, and a triple-brace tag to a plain one. -/
inductive TagText : (s inner rest : List Char) → Prop
  | longComment {s body rest} : FirstAt ['-', '-', '}', '}'] s body rest →
      TagText ('!' :: '-' :: '-' :: s) ('!' :: '-' :: '-' :: body ++ ['-', '-']) rest
  | comment {s body rest} : (∀ t, s = '-' :: '-' :: t → ¬ ['-', '-', '}', '}'] <:+: t) →
      FirstAt ['}', '}'] s body rest → TagText ('!' :: s) ('!' :: body) rest
  | triple {s body rest} : FirstAt ['}', '}', '}'] s body rest →
      TagText ('{' :: s) ('{' :: body ++ ['}']) rest
  | plain {s inner rest} : s.head? ≠ some '!' → (∀ t, s = '{' :: t → ¬ ['}', '}', '}'] <:+: t) →
      FirstAt ['}', '}'] s inner rest → TagText s inner rest

/-- The text between the braces of a tag without the tildes and then the blanks at its ends. -/
def tagContent (inner : List Char) : List Char := trimChars (trimWhile (· == '~') inner)

/-- The characters of the name of a block. -/
def IsNameChar (c : Char) : Prop := isBlank c = false ∧ c ≠ '}'

/-- What the content of a tag means. -/
inductive Means : (content : List Char) → Tag → Prop
  | opening {sign blanks name rest} : sign = '#' ∨ sign = '^' → blanks ++ name ++ rest ≠ [] →
      (∀ c ∈ blanks, isBlank c = true) → (∀ c ∈ (name ++ rest).head?, isBlank c = false) →
      (∀ c ∈ name, IsNameChar c) → (∀ c ∈ rest.head?, ¬ IsNameChar c) →
      Means (sign :: (blanks ++ name ++ rest)) (.opening (String.ofList name))
  | closing {name} : Means ('/' :: name) (.closing (String.ofList (trimChars name)))
  | leaf {content} : content.head? ≠ some '/' →
      (∀ sign rest, content = sign :: rest → sign = '#' ∨ sign = '^' → rest = []) →
      Means content .leaf

/-- The inner text of a tag runs into another tag. -/
def RunsInto (inner : List Char) : Prop :=
  inner.head? ≠ some '!' ∧ inner.head? ≠ some '{' ∧ ['{', '{'] <:+: inner

/-- The number of the line on which a text ends. -/
def lineAfter (s : List Char) : Nat := s.count '\n' + 1

/-- The tags of a text that follows the text `before`. Two opening braces after a backslash are no tag.
A tag that has no end is the last one. -/
inductive Reads : (before s : List Char) → List LocatedTag → Prop
  | done {before s} : ¬ ['{', '{'] <:+: s → Reads before s []
  | literal {before s text rest tags} : FirstAt ['{', '{'] s text rest →
      (before ++ text).getLast? = some '\\' →
      Reads (before ++ text ++ ['{', '{']) rest tags → Reads before s tags
  | tag {before s text after inner rest tag tags} : FirstAt ['{', '{'] s text after →
      (before ++ text).getLast? ≠ some '\\' → TagText after inner rest → ¬ RunsInto inner →
      Means (tagContent inner) tag →
      Reads (before ++ text ++ ['{', '{'] ++ inner ++ ['}', '}']) rest tags →
      Reads before s (⟨tag, lineAfter (before ++ text)⟩ :: tags)
  | overrun {before s text after inner rest tags} : FirstAt ['{', '{'] s text after →
      (before ++ text).getLast? ≠ some '\\' → TagText after inner rest → RunsInto inner →
      Reads (before ++ text ++ ['{', '{'] ++ inner ++ ['}', '}']) rest tags →
      Reads before s (⟨.unterminated, lineAfter (before ++ text)⟩ :: tags)
  | unended {before s text after} : FirstAt ['{', '{'] s text after →
      (before ++ text).getLast? ≠ some '\\' → (∀ inner rest, ¬ TagText after inner rest) →
      Reads before s [⟨.unterminated, lineAfter (before ++ text)⟩]

/-- The tags up to the first unterminated one, which is included. -/
def untilUnterminated : List LocatedTag → List LocatedTag
  | [] => []
  | t :: tags => if t.tag = .unterminated then [t] else t :: untilUnterminated tags

namespace Tag

/-! ## The text of a tag -/

theorem cutKind?_eq_some_iff {opener closer : List Char} {kept : Nat} {s inner rest : List Char} :
    cutKind? opener closer kept s = some (inner, rest) ↔
      ∃ t body, s = opener ++ t ∧ FirstAt closer t body rest ∧
        inner = opener ++ body ++ closer.take kept := by
  unfold cutKind?
  cases hafter : after? opener s with
  | none =>
    have := after?_eq_none_iff.mp hafter
    simp [this]
  | some t =>
    obtain rfl := after?_eq_some_iff.mp hafter
    simp only [Option.map_eq_some_iff, Prod.exists, cutAt?_eq_some_iff, Prod.mk.injEq,
      List.append_cancel_left_eq]
    constructor
    · rintro ⟨body, r, hfirst, rfl, rfl⟩
      exact ⟨t, body, rfl, hfirst, rfl⟩
    · rintro ⟨t', body, rfl, hfirst, rfl⟩
      exact ⟨body, rest, hfirst, rfl, rfl⟩

theorem cutKind?_eq_none_iff {opener closer : List Char} {kept : Nat} {s : List Char} :
    cutKind? opener closer kept s = none ↔ ∀ t, s = opener ++ t → ¬ closer <:+: t := by
  unfold cutKind?
  cases hafter : after? opener s with
  | none => simpa using fun t ht => absurd ht (after?_eq_none_iff.mp hafter t)
  | some t =>
    obtain rfl := after?_eq_some_iff.mp hafter
    rw [Option.map_eq_none_iff, cutAt?_eq_none_iff]
    simp

theorem tagText_of_cut? {s inner rest : List Char} (h : cut? s = some (inner, rest)) :
    TagText s inner rest := by
  unfold cut? at h
  simp only [Option.orElse_eq_orElse, Option.orElse_eq_or, Option.or_eq_some_iff,
    cutKind?_eq_some_iff, cutKind?_eq_none_iff] at h
  rcases h with ⟨t, body, rfl, hfirst, rfl⟩ |
    ⟨hlong, ⟨t, body, rfl, hfirst, rfl⟩ | ⟨hcomment, ⟨t, body, rfl, hfirst, rfl⟩ |
      ⟨htriple, t, body, rfl, hfirst, rfl⟩⟩⟩
  · exact .longComment hfirst
  · simpa using TagText.comment (fun t ht => hlong t (by simp [ht])) hfirst
  · exact .triple hfirst
  · simp only [List.nil_append, List.take_zero, List.append_nil]
    refine .plain (fun hhead => ?_) htriple hfirst
    obtain ⟨t', rfl⟩ := List.head?_eq_some_iff.mp hhead
    have hmark : ['}', '}'] <:+: '!' :: t' := ⟨body, rest, hfirst.eq_append.symm⟩
    rcases List.infix_cons_iff.mp hmark with hprefix | hinfix
    · simp at hprefix
    · exact hcomment t' rfl hinfix

theorem cut?_of_tagText {s inner rest : List Char} (h : TagText s inner rest) :
    cut? s = some (inner, rest) := by
  unfold cut?
  simp only [Option.orElse_eq_orElse, Option.orElse_eq_or, Option.or_eq_some_iff,
    cutKind?_eq_some_iff, cutKind?_eq_none_iff]
  cases h with
  | longComment hfirst => exact .inl ⟨_, _, rfl, hfirst, by simp⟩
  | comment hlong hfirst => exact .inr ⟨by simpa using hlong, .inl ⟨_, _, rfl, hfirst, by simp⟩⟩
  | triple hfirst =>
    exact .inr ⟨by simp, .inr ⟨by simp, .inl ⟨_, _, rfl, hfirst, by simp⟩⟩⟩
  | plain hhead htriple hfirst =>
    refine .inr ⟨fun t ht => ?_, .inr ⟨fun t ht => ?_, .inr ⟨htriple, _, _, rfl, hfirst, by simp⟩⟩⟩
    · exact absurd (by simp [ht]) hhead
    · exact absurd (by simp [ht]) hhead

theorem cut?_eq_some_iff {s inner rest : List Char} :
    cut? s = some (inner, rest) ↔ TagText s inner rest :=
  ⟨tagText_of_cut?, cut?_of_tagText⟩

theorem cut?_eq_none_iff {s : List Char} :
    cut? s = none ↔ ∀ inner rest, ¬ TagText s inner rest := by
  rw [Option.eq_none_iff_forall_ne_some, Prod.forall]
  exact forall₂_congr fun inner rest => not_congr cut?_eq_some_iff

theorem tagText_unique {s inner rest inner' rest' : List Char} (h : TagText s inner rest)
    (h' : TagText s inner' rest') : inner = inner' ∧ rest = rest' := by
  rw [← cut?_eq_some_iff] at h h'
  rw [h, Option.some.injEq] at h'
  exact Prod.mk.inj h'

/-! ## The meaning of a tag -/

theorem blockName_append {blanks name rest : List Char} (hblanks : ∀ c ∈ blanks, isBlank c = true)
    (hstart : ∀ c ∈ (name ++ rest).head?, isBlank c = false) (hname : ∀ c ∈ name, IsNameChar c)
    (hrest : ∀ c ∈ rest.head?, ¬ IsNameChar c) :
    blockName (blanks ++ name ++ rest) = String.ofList name := by
  unfold blockName
  rw [List.append_assoc, dropWhile_append_stop hblanks hstart, takeWhile_append_stop]
  · simpa [IsNameChar] using hname
  · simpa [IsNameChar] using hrest

/-- A text has its blanks at the front, then a block name, then the rest. -/
theorem exists_blockName (s : List Char) :
    ∃ blanks name rest, s = blanks ++ name ++ rest ∧ (∀ c ∈ blanks, isBlank c = true) ∧
      (∀ c ∈ (name ++ rest).head?, isBlank c = false) ∧ (∀ c ∈ name, IsNameChar c) ∧
      ∀ c ∈ rest.head?, ¬ IsNameChar c := by
  let nameChar : Char → Bool := fun c => !isBlank c && c != '}'
  have hnameChar : ∀ c, nameChar c = true ↔ IsNameChar c := by simp [nameChar, IsNameChar]
  let t := s.dropWhile isBlank
  refine ⟨s.takeWhile isBlank, t.takeWhile nameChar, t.dropWhile nameChar, ?_, ?_, ?_, ?_, ?_⟩
  · rw [List.append_assoc, List.takeWhile_append_dropWhile, List.takeWhile_append_dropWhile]
  · exact fun c hc => List.mem_takeWhile_imp hc
  · rw [List.takeWhile_append_dropWhile]
    intro c hc
    have := List.head?_dropWhile_not isBlank s
    rw [Option.mem_def.mp hc] at this
    simpa using this
  · exact fun c hc => (hnameChar c).mp (List.mem_takeWhile_imp hc)
  · intro c hc
    have := List.head?_dropWhile_not nameChar t
    rw [Option.mem_def.mp hc] at this
    rw [← hnameChar]
    simpa using this

theorem means_classify (inner : List Char) : Means (tagContent inner) (classify inner) := by
  have hopening : ∀ sign, sign = '#' ∨ sign = '^' → ∀ c rest,
      Means (sign :: c :: rest) (.opening (blockName (c :: rest))) := by
    intro sign hsign c rest
    obtain ⟨blanks, name, tail, heq, hblanks, hstart, hname, htail⟩ := exists_blockName (c :: rest)
    rw [heq, blockName_append hblanks hstart hname htail]
    exact .opening hsign (by rw [← heq]; simp) hblanks hstart hname htail
  unfold classify tagContent
  generalize trimChars (trimWhile (· == '~') inner) = content
  split
  · exact hopening _ (.inl rfl) _ _
  · exact hopening _ (.inr rfl) _ _
  · exact .closing
  · next content hhash hcaret hslash =>
    refine .leaf (fun hhead => ?_) (fun sign rest heq hsign => ?_)
    · obtain ⟨rest, hrest⟩ := List.head?_eq_some_iff.mp hhead
      exact hslash rest hrest
    · cases rest with
      | nil => rfl
      | cons c rest =>
        rcases hsign with rfl | rfl
        · exact absurd heq (hhash c rest)
        · exact absurd heq (hcaret c rest)

theorem eq_of_means {content : List Char} {tag tag' : Tag} (h : Means content tag)
    (h' : Means content tag') : tag = tag' := by
  cases h with
  | opening hsign hne hblanks hstart hname hrest =>
    generalize hcontent : _ :: _ = content at h'
    cases h' with
    | opening _ _ hblanks' hstart' hname' hrest' =>
      rw [← blockName_append hblanks hstart hname hrest, (List.cons.inj hcontent).2,
        blockName_append hblanks' hstart' hname' hrest']
    | closing => rcases hsign with rfl | rfl <;> simp at hcontent
    | leaf _ hlone => exact absurd (hlone _ _ hcontent.symm hsign) hne
  | closing =>
    generalize hcontent : _ :: _ = content at h'
    cases h' with
    | opening hsign => rcases hsign with rfl | rfl <;> simp at hcontent
    | closing => rw [(List.cons.inj hcontent).2]
    | leaf hslash => simp [← hcontent] at hslash
  | leaf hslash hlone =>
    cases h' with
    | opening hsign hne => exact absurd (hlone _ _ rfl hsign) hne
    | closing => simp at hslash
    | leaf => rfl

theorem ne_unterminated_of_means {content : List Char} {tag : Tag} (h : Means content tag) :
    tag ≠ .unterminated := by
  cases h <;> exact Tag.noConfusion

theorem classify_eq_iff {inner : List Char} {tag : Tag} :
    classify inner = tag ↔ Means (tagContent inner) tag :=
  ⟨fun h => h ▸ means_classify inner, fun h => eq_of_means (means_classify inner) h⟩

/-- The content of a tag begins behind the tildes and blanks at its front, and ends before the tildes and
blanks at its end. -/
theorem tagContent_append {front gap core rest back : List Char} (hfront : ∀ c ∈ front, c = '~')
    (hgap : AllBlank gap) (hcore : core ≠ []) (hhead : ∀ c ∈ core.head?, c ≠ '~' ∧ isBlank c = false)
    (hlast : ∀ c ∈ core.getLast?, c ≠ '~' ∧ isBlank c = false) (hback : ∀ c ∈ back, c = '~') :
    ∃ left, tagContent (front ++ gap ++ core ++ rest ++ back) = core ++ left ∧ left <+: rest ∧
      (AllBlank rest → left = []) := by
  obtain ⟨d, core, rfl⟩ := List.exists_cons_of_ne_nil hcore
  obtain ⟨hd, hdblank⟩ := hhead d rfl
  have hgapTilde : ∀ c ∈ gap, (c == '~') = false := by
    intro c hc
    rw [beq_eq_false_iff_ne]
    rintro rfl
    exact absurd (hgap _ hc) (by decide)
  obtain ⟨tildes, hrest, htildes⟩ := exists_dropEndWhile_append (· == '~') rest
  have hkeptLast := getLast?_dropEndWhile (· == '~') rest
  generalize dropEndWhile (· == '~') rest = kept at hrest hkeptLast
  obtain ⟨blanks, hkept, hblanks⟩ := exists_dropEndWhile_append isBlank kept
  have hleftLast := getLast?_dropEndWhile isBlank kept
  generalize dropEndWhile isBlank kept = left at hkept hleftLast
  have houter : trimWhile (· == '~') (front ++ (gap ++ d :: core ++ kept) ++ (tildes ++ back)) =
      gap ++ d :: core ++ kept := by
    refine trimWhile_append (by simpa using hfront) ?_ ?_ ?_
    · exact fun c hc => (List.mem_append.mp hc).elim (htildes c) fun hc => by simpa using hback c hc
    · rw [List.append_assoc]
      exact forall_head?_append (fun c hc => hgapTilde c (List.mem_of_mem_head? hc)) (by simpa using hd)
    · refine forall_getLast?_append (forall_getLast?_append ?_ ?_) hkeptLast
      · exact fun c hc => hgapTilde c (List.mem_of_getLast? hc)
      · exact fun c hc => by simpa using (hlast c hc).1
  have hinner : trimChars (gap ++ (d :: core ++ left) ++ blanks) = d :: core ++ left :=
    trimChars_append hgap hblanks
      ⟨by simpa using hdblank, forall_getLast?_append (fun c hc => (hlast c hc).2) hleftLast⟩
  subst hrest hkept
  refine ⟨left, ?_, ⟨blanks ++ tildes, by simp⟩, fun hblank => ?_⟩
  · simp only [List.append_assoc] at houter hinner
    simp only [tagContent, List.append_assoc, houter, hinner]
  · cases hend : left.getLast? with
    | none => exact List.getLast?_eq_none_iff.mp hend
    | some c =>
      have hc : c ∈ left ++ blanks ++ tildes := by simp [List.mem_of_getLast? hend]
      exact absurd (hblank c hc) (by simp [hleftLast c hend])

theorem startsWith_singleton {c : Char} {s : List Char} :
    startsWith [c] s = true ↔ s.head? = some c := by
  simp [startsWith_iff, List.head?_eq_some_iff]

theorem runsOver_iff {inner : List Char} : runsOver inner = true ↔ RunsInto inner := by
  unfold runsOver RunsInto
  rw [Bool.and_eq_true, Bool.and_eq_true, occursIn_iff, Bool.not_eq_true', Bool.not_eq_true',
    ← Bool.not_eq_true, ← Bool.not_eq_true, startsWith_singleton, startsWith_singleton, and_assoc]

/-! ## The scan -/

theorem lineAfter_append {front rest : List Char} :
    lineAfter (front ++ rest) = lineAfter front + lineFeeds rest := by
  unfold lineAfter lineFeeds
  rw [List.count_append]
  omega

/-- The scan of a text that follows the text `before`. -/
def scanAfter (before s : List Char) : List LocatedTag :=
  scanFrom (before.getLast? == some '\\') (lineAfter before) s

theorem scanAfter_cons {before : List Char} {c : Char} {cs : List Char}
    (h : after? ['{', '{'] (c :: cs) = none) :
    scanAfter before (c :: cs) = scanAfter (before ++ [c]) cs := by
  have hline : lineAfter (before ++ [c]) =
      if c = '\n' then lineAfter before + 1 else lineAfter before := by
    rw [lineAfter_append]
    by_cases hc : c = '\n' <;> simp [lineFeeds, hc]
  have hlast : ((before ++ [c]).getLast? == some '\\') = (c == '\\') := by simp
  unfold scanAfter
  rw [scanFrom, hline, hlast]
  intro rest hc hcs
  rw [hc, hcs] at h
  simp [after?] at h

theorem scanAfter_eq_nil {before s : List Char} (h : ¬ ['{', '{'] <:+: s) : scanAfter before s = [] := by
  induction s generalizing before with
  | nil => rw [scanAfter, scanFrom]
  | cons c cs ih =>
    rw [List.infix_cons_iff, not_or] at h
    rw [scanAfter_cons (after?_eq_none_iff_not_start.mpr h.1), ih h.2]

/-- The scan passes over text without two opening braces. -/
theorem scanAfter_append {before s rest : List Char} (hnone : ¬ ['{', '{'] <:+: s)
    (hlast : ∀ c ∈ s.getLast?, c ≠ '{') : scanAfter before (s ++ rest) = scanAfter (before ++ s) rest := by
  induction s generalizing before with
  | nil => rw [List.nil_append, List.append_nil]
  | cons c cs ih =>
    rw [List.infix_cons_iff, not_or] at hnone
    have hstart : after? ['{', '{'] (c :: (cs ++ rest)) = none := by
      rw [after?_eq_none_iff]
      intro t ht
      obtain ⟨rfl, hcs⟩ := List.cons.inj ht
      cases cs with
      | nil => exact hlast '{' rfl rfl
      | cons d cs =>
        obtain rfl : d = '{' := (List.cons.inj hcs).1
        exact hnone.1 ⟨cs, rfl⟩
    rw [List.cons_append, scanAfter_cons hstart, ih hnone.2, List.append_assoc, List.singleton_append]
    intro d hd
    cases cs with
    | nil => simp at hd
    | cons e cs => exact hlast d (by simpa using hd)

/-- The scan passes over the text before the next two opening braces. -/
theorem scanAfter_firstAt {before s text after : List Char} (h : FirstAt ['{', '{'] s text after) :
    scanAfter before s = scanAfter (before ++ text) ('{' :: '{' :: after) := by
  have hnone : ¬ ['{', '{'] <:+: text := by
    rintro ⟨u, v, huv⟩
    have := h.least u (v ++ ['{', '{'] ++ after) (by simp [h.eq_append, ← huv])
    simp only [← huv, List.length_append, List.length_cons] at this
    omega
  have hlast : ∀ c ∈ text.getLast?, c ≠ '{' := by
    rintro c hc rfl
    obtain ⟨u, rfl⟩ := List.getLast?_eq_some_iff.mp hc
    have := h.least u ('{' :: after) (by simp [h.eq_append])
    rw [List.length_append, List.length_singleton] at this
    omega
  rw [h.eq_append, List.append_assoc, scanAfter_append hnone hlast]
  rfl

theorem scanFrom_escaped {line : Nat} {after : List Char} :
    scanFrom true line ('{' :: '{' :: after) = scanFrom false line after := by
  rw [scanFrom]
  simp

theorem scanFrom_unended {line : Nat} {after : List Char} (h : ∀ inner rest, ¬ TagText after inner rest) :
    scanFrom false line ('{' :: '{' :: after) = [⟨.unterminated, line⟩] := by
  rw [scanFrom]
  split
  · contradiction
  · split
    · rfl
    · next inner rest hcut => exact absurd (tagText_of_cut? hcut) (h inner rest)

theorem scanFrom_tag {line : Nat} {after inner rest : List Char} (h : TagText after inner rest) :
    scanFrom false line ('{' :: '{' :: after) =
      if runsOver inner then [⟨.unterminated, line⟩]
      else ⟨classify inner, line⟩ :: scanFrom false (line + lineFeeds inner) rest := by
  rw [scanFrom]
  split
  · contradiction
  · split
    · next hcut => exact absurd h (cut?_eq_none_iff.mp hcut inner rest)
    · next hcut =>
      rw [cut?_of_tagText h] at hcut
      cases hcut
      rfl

section Tags

variable {before after inner rest : List Char}

/-- The scan goes on behind two opening braces after a backslash. -/
theorem scanAfter_literal (h : before.getLast? = some '\\') :
    scanAfter before ('{' :: '{' :: rest) = scanAfter (before ++ ['{', '{']) rest := by
  have hline : lineAfter (before ++ ['{', '{']) = lineAfter before := by
    simp [lineAfter_append, lineFeeds]
  unfold scanAfter
  rw [h, hline, beq_self_eq_true, scanFrom_escaped]
  simp

/-- The scan goes on behind a tag that has an end and does not run into another one. -/
theorem scanAfter_tag (h : before.getLast? ≠ some '\\') (htag : TagText after inner rest)
    (hrun : ¬ RunsInto inner) : scanAfter before ('{' :: '{' :: after) =
      ⟨classify inner, lineAfter before⟩ ::
        scanAfter (before ++ ['{', '{'] ++ inner ++ ['}', '}']) rest := by
  have hline : lineAfter (before ++ ['{', '{'] ++ inner ++ ['}', '}']) =
      lineAfter before + lineFeeds inner := by
    simp [lineAfter_append, lineFeeds]
  have hlast : (before ++ ['{', '{'] ++ inner ++ ['}', '}']).getLast? = some '}' := by
    rw [List.getLast?_append]
    rfl
  unfold scanAfter
  rw [hline, hlast, beq_eq_false_iff_ne.mpr h, scanFrom_tag htag, if_neg (mt runsOver_iff.mp hrun)]
  rfl

/-- The scan ends with a tag that runs into another one. -/
theorem scanAfter_overrun (h : before.getLast? ≠ some '\\') (htag : TagText after inner rest)
    (hrun : RunsInto inner) :
    scanAfter before ('{' :: '{' :: after) = [⟨.unterminated, lineAfter before⟩] := by
  unfold scanAfter
  rw [beq_eq_false_iff_ne.mpr h, scanFrom_tag htag, if_pos (runsOver_iff.mpr hrun)]

/-- The scan ends with a tag that has no end. -/
theorem scanAfter_unended (h : before.getLast? ≠ some '\\')
    (hnone : ∀ inner rest, ¬ TagText after inner rest) :
    scanAfter before ('{' :: '{' :: after) = [⟨.unterminated, lineAfter before⟩] := by
  unfold scanAfter
  rw [beq_eq_false_iff_ne.mpr h, scanFrom_unended hnone]

end Tags

/-- Every reading of a text has the tags that the scan finds, up to the first unterminated one. -/
theorem scanAfter_of_reads {before s : List Char} {tags : List LocatedTag} (h : Reads before s tags) :
    scanAfter before s = untilUnterminated tags := by
  induction h with
  | done hnone => exact scanAfter_eq_nil hnone
  | literal hfirst hescaped _ ih => rw [scanAfter_firstAt hfirst, scanAfter_literal hescaped, ih]
  | tag hfirst hescaped htag hrun hmeans _ ih =>
    rw [scanAfter_firstAt hfirst, scanAfter_tag hescaped htag hrun, classify_eq_iff.mpr hmeans,
      untilUnterminated, if_neg (ne_unterminated_of_means hmeans), ih]
  | overrun hfirst hescaped htag hrun hrest ih =>
    rw [scanAfter_firstAt hfirst, scanAfter_overrun hescaped htag hrun, untilUnterminated, if_pos rfl]
  | unended hfirst hescaped hnone =>
    rw [scanAfter_firstAt hfirst, scanAfter_unended hescaped hnone, untilUnterminated, if_pos rfl]

theorem exists_reads (before s : List Char) : ∃ tags, Reads before s tags := by
  induction hlength : s.length using Nat.strong_induction_on generalizing before s with
  | _ n ih =>
    subst hlength
    by_cases hmark : ['{', '{'] <:+: s
    · obtain ⟨text, after, hfirst⟩ := exists_firstAt hmark
      have hafter : after.length < s.length := by simp [hfirst.eq_append]; omega
      by_cases hescaped : (before ++ text).getLast? = some '\\'
      · obtain ⟨tags, htags⟩ := ih _ hafter (before ++ text ++ ['{', '{']) after rfl
        exact ⟨tags, .literal hfirst hescaped htags⟩
      · by_cases htag : ∃ inner rest, TagText after inner rest
        · obtain ⟨inner, rest, htag⟩ := htag
          have hrest : rest.length < s.length :=
            (length_lt_of_cut? (cut?_of_tagText htag)).trans hafter
          obtain ⟨tags, htags⟩ :=
            ih _ hrest (before ++ text ++ ['{', '{'] ++ inner ++ ['}', '}']) rest rfl
          by_cases hrun : RunsInto inner
          · exact ⟨_, .overrun hfirst hescaped htag hrun htags⟩
          · exact ⟨_, .tag hfirst hescaped htag hrun (means_classify inner) htags⟩
        · exact ⟨_, .unended hfirst hescaped fun inner rest h => htag ⟨inner, rest, h⟩⟩
    · exact ⟨[], .done hmark⟩

/-- The scan of a source finds the tags of each of its readings, up to the first unterminated one. -/
theorem scan_of_reads {source : String} {tags : List LocatedTag} (h : Reads [] source.toList tags) :
    scan source = untilUnterminated tags := scanAfter_of_reads h

end Tag

end PromptTemplates
