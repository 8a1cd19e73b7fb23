import PromptTemplates.Proofs.Template.BlockNesting

/-!
# Triple braces

Where the scan of a source meets three opening braces, the tag ends at the first three closing braces
behind them, however many other tags stand before these; and if there are none, it ends at the first two
closing braces. The scan reads nothing before this end, and the check never objects to such a tag. So the
three opening braces of an accepted source have their own closing ones only if no other tag begins
before these.
-/

namespace PromptTemplates

open Text

/-- The scan of a text that follows the text `before` meets a tag: `front` is all the text before its
opening braces, and `after` what stands behind them. The scan goes on behind two opening braces after a
backslash and behind a tag that has an end and does not run into another one. -/
inductive Meets : (before s front after : List Char) → Prop
  | here {before s text after} : FirstAt ['{', '{'] s text after →
      (before ++ text).getLast? ≠ some '\\' → Meets before s (before ++ text) after
  | literal {before s text rest front after} : FirstAt ['{', '{'] s text rest →
      (before ++ text).getLast? = some '\\' →
      Meets (before ++ text ++ ['{', '{']) rest front after → Meets before s front after
  | tag {before s text found inner rest front after} : FirstAt ['{', '{'] s text found →
      (before ++ text).getLast? ≠ some '\\' → TagText found inner rest → ¬ RunsInto inner →
      Meets (before ++ text ++ ['{', '{'] ++ inner ++ ['}', '}']) rest front after →
      Meets before s front after

/-- The text `s` behind three opening braces up to the end of their tag: `body` stands before the closing
braces `closer`. -/
def EndsTriple (s body closer rest : List Char) : Prop :=
  FirstAt closer s body rest ∧
    (closer = ['}', '}', '}'] ∨ closer = ['}', '}'] ∧ ¬ ['}', '}', '}'] <:+: s)

/-- Three closing braces stand behind three opening ones before any other two opening braces do. -/
def ClosesItself (s : List Char) : Prop :=
  ∃ body rest, FirstAt ['}', '}', '}'] s body rest ∧ ¬ ['{', '{'] <:+: body

variable {before s front after front' after' inner rest body closer : List Char} {source : String}

namespace Meets

theorem length_le (h : Meets before s front after) : before.length ≤ front.length := by
  induction h with
  | here => simp
  | literal _ _ _ ih => simp at ih; omega
  | tag _ _ _ _ _ ih => simp at ih; omega

/-- Two opening braces after a backslash are passed over. -/
theorem of_literal {text rest : List Char} (hfirst : FirstAt ['{', '{'] s text rest)
    (hescaped : (before ++ text).getLast? = some '\\') (h : Meets before s front after) :
    Meets (before ++ text ++ ['{', '{']) rest front after := by
  cases h with
  | here hfirst' hescaped' =>
    obtain ⟨rfl, -⟩ := hfirst.unique hfirst'
    exact absurd hescaped hescaped'
  | literal hfirst' _ hrest =>
    obtain ⟨rfl, rfl⟩ := hfirst.unique hfirst'
    exact hrest
  | tag hfirst' hescaped' =>
    obtain ⟨rfl, -⟩ := hfirst.unique hfirst'
    exact absurd hescaped hescaped'

/-- Any other two opening braces are a tag that is met, or one that is passed over. -/
theorem of_tag {text found : List Char} (hfirst : FirstAt ['{', '{'] s text found)
    (hescaped : (before ++ text).getLast? ≠ some '\\') (h : Meets before s front after) :
    front = before ++ text ∧ after = found ∨ ∃ inner rest, TagText found inner rest ∧
      Meets (before ++ text ++ ['{', '{'] ++ inner ++ ['}', '}']) rest front after := by
  cases h with
  | here hfirst' =>
    obtain ⟨rfl, rfl⟩ := hfirst.unique hfirst'
    exact .inl ⟨rfl, rfl⟩
  | literal hfirst' hescaped' =>
    obtain ⟨rfl, -⟩ := hfirst.unique hfirst'
    exact absurd hescaped' hescaped
  | tag hfirst' _ htag _ hrest =>
    obtain ⟨rfl, rfl⟩ := hfirst.unique hfirst'
    exact .inr ⟨_, _, htag, hrest⟩

/-- The scan meets no other tag between the opening braces of a tag and its end. -/
theorem le_or_behind (h : Meets before s front after) (h' : Meets before s front' after')
    (htag : TagText after inner rest) :
    front'.length ≤ front.length ∨ front.length + inner.length + 4 ≤ front'.length := by
  induction h with
  | here hfirst hescaped =>
    rcases h'.of_tag hfirst hescaped with ⟨rfl, -⟩ | ⟨inner', rest', htag', hrest⟩
    · exact .inl le_rfl
    · obtain ⟨rfl, -⟩ := Tag.tagText_unique htag htag'
      have := hrest.length_le
      simp at this ⊢
      omega
  | literal hfirst hescaped _ ih => exact ih (h'.of_literal hfirst hescaped) htag
  | tag hfirst hescaped hfound _ hrest ih =>
    rcases h'.of_tag hfirst hescaped with ⟨rfl, -⟩ | ⟨inner', rest', hfound', hrest'⟩
    · have := hrest.length_le
      simp at this ⊢
      omega
    · obtain ⟨rfl, rfl⟩ := Tag.tagText_unique hfound hfound'
      exact ih hrest' htag

/-- Up to a tag that the scan meets, all tags have an end. -/
theorem exists_scanAfter (h : Meets before s front after) : front.getLast? ≠ some '\\' ∧
    ∃ tags, Tag.scanAfter before s = tags ++ Tag.scanAfter front ('{' :: '{' :: after) := by
  induction h with
  | here hfirst hescaped => exact ⟨hescaped, [], Tag.scanAfter_firstAt hfirst⟩
  | literal hfirst hescaped _ ih =>
    obtain ⟨hfront, tags, htags⟩ := ih
    exact ⟨hfront, tags, by rw [Tag.scanAfter_firstAt hfirst, Tag.scanAfter_literal hescaped, htags]⟩
  | tag hfirst hescaped htag hrun _ ih =>
    obtain ⟨hfront, tags, htags⟩ := ih
    rw [Tag.scanAfter_firstAt hfirst, Tag.scanAfter_tag hescaped htag hrun, htags]
    exact ⟨hfront, _, (List.cons_append).symm⟩

end Meets

/-- Behind three opening braces a tag ends at three closing braces, or else at two. -/
theorem tagText_triple_iff : TagText ('{' :: s) inner rest ↔
    ∃ body closer, EndsTriple s body closer rest ∧ inner = '{' :: body ++ closer.drop 2 := by
  have hnone : after? ['}', '}'] ('{' :: s) = none := rfl
  constructor
  · intro h
    cases h with
    | triple hfirst => exact ⟨_, _, ⟨hfirst, .inl rfl⟩, rfl⟩
    | plain _ htriple hfirst =>
      cases inner with
      | nil => exact absurd hfirst.eq_append (by simp)
      | cons c body =>
        obtain rfl : '{' = c := (List.cons.inj hfirst.eq_append).1
        exact ⟨body, _, ⟨(firstAt_cons_iff hnone).mp hfirst, .inr ⟨rfl, htriple s rfl⟩⟩, by simp⟩
  · rintro ⟨body, closer, ⟨hfirst, rfl | ⟨rfl, htriple⟩⟩, rfl⟩
    · exact .triple hfirst
    · refine .plain (by simp) (fun t ht => ?_) ?_
      · obtain rfl : s = t := (List.cons.inj ht).2
        exact htriple
      · simpa using (firstAt_cons_iff hnone).mpr hfirst

theorem EndsTriple.tagText (h : EndsTriple s body closer rest) :
    TagText ('{' :: s) ('{' :: body ++ closer.drop 2) rest := tagText_triple_iff.mpr ⟨_, _, h, rfl⟩

/-- Three opening braces close themselves exactly when their tag ends at three closing braces and no
other tag begins before these. -/
theorem EndsTriple.closesItself_iff (h : EndsTriple s body closer rest) :
    ClosesItself s ↔ closer = ['}', '}', '}'] ∧ ¬ ['{', '{'] <:+: body := by
  constructor
  · rintro ⟨body', rest', hfirst, hbody⟩
    rcases h with ⟨hend, rfl | ⟨-, hnone⟩⟩
    · obtain ⟨rfl, -⟩ := hfirst.unique hend
      exact ⟨rfl, hbody⟩
    · exact absurd ⟨body', rest', hfirst.eq_append.symm⟩ hnone
  · rintro ⟨rfl, hbody⟩
    exact ⟨body, rest, h.1, hbody⟩

namespace Tag

theorem classify_brace : classify ('{' :: s) = .leaf := by
  have hbrace : '{' ≠ '~' ∧ isBlank '{' = false := by decide
  obtain ⟨left, hcontent, -⟩ : ∃ left, tagContent ([] ++ [] ++ ['{'] ++ s ++ []) = ['{'] ++ left ∧ _ :=
    tagContent_append (by simp) allBlank_nil (by simp) (by simpa using hbrace) (by simpa using hbrace)
      (by simp)
  simp only [List.nil_append, List.append_nil, List.singleton_append] at hcontent
  rw [classify_eq_iff, hcontent]
  refine .leaf (by simp) fun sign t ht hsign => ?_
  rcases hsign with rfl | rfl <;> simp at ht

/-- The scan goes on behind the closing braces of a tag with three opening ones. -/
theorem scanAfter_triple (h : front.getLast? ≠ some '\\') (hend : EndsTriple s body closer rest) :
    scanAfter front ('{' :: '{' :: '{' :: s) =
      ⟨.leaf, lineAfter front⟩ :: scanAfter (front ++ ['{', '{', '{'] ++ body ++ closer) rest := by
  have hrun : ¬ RunsInto ('{' :: body ++ closer.drop 2) := fun hrun => absurd rfl hrun.2.1
  have htext : front ++ ['{', '{'] ++ ('{' :: body ++ closer.drop 2) ++ ['}', '}'] =
      front ++ ['{', '{', '{'] ++ body ++ closer := by
    rcases hend.2 with rfl | ⟨rfl, -⟩ <;> simp
  rw [scanAfter_tag h hend.tagText hrun, htext, List.cons_append, classify_brace]

end Tag

namespace Nesting

theorem checkFrom_append_leaf {tags tags' : List LocatedTag} {opened : List OpenBlock} {line : Nat} :
    checkFrom opened (tags ++ ⟨.leaf, line⟩ :: tags') = checkFrom opened (tags ++ tags') := by
  induction tags generalizing opened with
  | nil => rw [List.nil_append, checkFrom_leaf, List.nil_append]
  | cons t tags ih =>
    obtain ⟨tag, line⟩ := t
    rw [List.cons_append, List.cons_append]
    cases tag with
    | leaf => rw [checkFrom_leaf, checkFrom_leaf, ih]
    | opening name => rw [checkFrom_opening, checkFrom_opening, ih]
    | unterminated => rw [checkFrom_unterminated, checkFrom_unterminated]
    | closing name =>
      cases opened with
      | nil => rfl
      | cons block opened => rw [checkFrom_closing, checkFrom_closing, ih]

/-- In a source that the check accepts, every tag with three opening braces that its scan meets ends at
the first three closing braces behind them, or else at the first two. The braces close themselves exactly
when no other tag begins before three closing braces. In every case the scan meets no other tag before
the end, goes on behind it, and the check is that of the source's other tags. -/
theorem check_triple (hmeets : Meets [] source.toList front ('{' :: s)) :
    (check source = .ok () → ∃ body closer rest, EndsTriple s body closer rest) ∧
    ∀ body closer rest, EndsTriple s body closer rest →
      (ClosesItself s ↔ closer = ['}', '}', '}'] ∧ ¬ ['{', '{'] <:+: body) ∧
      (∀ front' after', Meets [] source.toList front' after' → front'.length ≤ front.length ∨
        front.length + 3 + body.length + closer.length ≤ front'.length) ∧
      ∃ tags, let later := Tag.scanAfter (front ++ ['{', '{', '{'] ++ body ++ closer) rest
        Tag.scan source = tags ++ ⟨.leaf, lineAfter front⟩ :: later ∧
        check source = checkFrom [] (tags ++ later) := by
  obtain ⟨hfront, tags, hscan⟩ : front.getLast? ≠ some '\\' ∧ ∃ tags, Tag.scan source =
      tags ++ Tag.scanAfter front ('{' :: '{' :: '{' :: s) := hmeets.exists_scanAfter
  refine ⟨fun hok => ?_, fun body closer rest hend => ⟨hend.closesItself_iff, ?_, tags, ?_⟩⟩
  · by_contra hnone
    have hunended : ∀ inner rest, ¬ TagText ('{' :: s) inner rest := fun inner rest htag =>
      have ⟨body, closer, hend, _⟩ := tagText_triple_iff.mp htag
      hnone ⟨body, closer, rest, hend⟩
    have hnested : WellNested (Tag.scan source) := checkFrom_eq_ok_iff.mp hok
    rw [hscan, Tag.scanAfter_unended hfront hunended] at hnested
    exact hnested.terminated ⟨.unterminated, lineAfter front⟩ (by simp) rfl
  · intro front' after' hmeets'
    have hcloser : 2 ≤ closer.length := by
      rcases hend.2 with rfl | ⟨rfl, -⟩ <;> simp
    have := hmeets.le_or_behind hmeets' hend.tagText
    simp at this
    omega
  · rw [Tag.scanAfter_triple hfront hend] at hscan
    exact ⟨hscan, by rw [check, hscan, checkFrom_append_leaf]⟩

/-- A closing tag of no block is not read between three opening braces and the next three closing
ones. -/
theorem check_triple_hidden_closing :
    let body := ['a', '}', '}', '{', '{', '/', 'b', '}', '}', '{', '{', '{', 'c']
    let s := body ++ ['}', '}', '}']
    let source := String.ofList ('{' :: '{' :: '{' :: s)
    Meets [] source.toList [] ('{' :: s) ∧ EndsTriple s body ['}', '}', '}'] [] ∧ ¬ ClosesItself s ∧
      ∃ tags, Tag.scan source = tags ++ [⟨.leaf, 1⟩] := by
  intro body s source
  have hmeets : Meets [] source.toList [] ('{' :: s) := by
    rw [String.toList_ofList]
    exact .here (firstAt_of_cutAt? rfl) (by simp)
  have hend : EndsTriple s body ['}', '}', '}'] [] := ⟨firstAt_of_cutAt? rfl, .inl rfl⟩
  obtain ⟨hcloses, -, tags, hscan, -⟩ := (check_triple hmeets).2 body _ [] hend
  refine ⟨hmeets, hend, fun h => (hcloses.mp h).2 (by decide), tags, ?_⟩
  rw [hscan, Tag.scanAfter_eq_nil (by decide)]
  rfl

/-- The check accepts a tag with three opening braces and two closing ones. -/
theorem check_triple_two_closing :
    let s := ['a', '}', '}']
    Meets [] ('{' :: '{' :: '{' :: s) [] ('{' :: s) ∧ ¬ ClosesItself s ∧
      check (String.ofList ('{' :: '{' :: '{' :: s)) = .ok () := by
  intro s
  have hnone : ¬ ['}', '}', '}'] <:+: s := by decide
  have hend : EndsTriple s ['a'] ['}', '}'] [] := ⟨firstAt_of_cutAt? rfl, .inr ⟨rfl, hnone⟩⟩
  refine ⟨.here (firstAt_of_cutAt? rfl) (by simp), ?_, ?_⟩
  · rintro ⟨body, rest, hfirst, -⟩
    exact hnone ⟨body, rest, hfirst.eq_append.symm⟩
  · have hscan : Tag.scanAfter [] ('{' :: '{' :: '{' :: s) = [⟨.leaf, 1⟩] := by
      rw [Tag.scanAfter_triple (by simp) hend, Tag.scanAfter_eq_nil (by simp)]
      rfl
    rw [check, Tag.scan, String.toList_ofList]
    exact congrArg (checkFrom []) hscan

end Nesting

end PromptTemplates
