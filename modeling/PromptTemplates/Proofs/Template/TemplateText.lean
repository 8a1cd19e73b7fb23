import PromptTemplates.Proofs.Template.NestedNodes
import PromptTemplates.Proofs.Text.Readers
import PromptTemplates.Proofs.Text.FirstOccurrence
import PromptTemplates.Proofs.Text.Trimming
import PromptTemplates.Template.Evaluate

/-!
# The text of a template

The texts of a template are cut out of its source: they consist of characters of the source, whatever is
taken out around the tags, and wherever a tag or a block begins and ends.
-/

namespace PromptTemplates

/-! ## Spacing -/

namespace Spacing

open Text

theorem clean_subset (p q : Char) (dropping : Bool) (s : List Char) : clean p q dropping s ⊆ s := by
  induction s generalizing p q dropping with
  | nil => exact List.nil_subset _
  | cons c rest ih =>
    unfold clean
    split
    · exact List.subset_cons_of_subset c (ih _ _ _)
    · split
      · exact List.subset_cons_of_subset c (ih _ _ _)
      · exact List.cons_subset_cons c (ih _ _ _)

theorem cleaned_subset (place : List Char) : cleaned place ⊆ place := by
  obtain ⟨front, back, hplace, -, -⟩ := exists_trimChars_append place
  refine List.Subset.trans (clean_subset _ _ _ _) fun c hc => ?_
  rw [hplace]
  exact List.mem_append_left back (List.mem_append_right front hc)

theorem adjustFrom_subset (atStart : Bool) (last : Char) (s : List Char) :
    adjustFrom atStart last s ⊆ s := by
  fun_induction adjustFrom atStart last s with
  | case1 => exact List.nil_subset _
  | case2 atStart last c cs rest hplace place =>
    rename_i ih
    refine List.append_subset.mpr ⟨?_, ?_⟩
    · exact List.Subset.trans (cleaned_subset _) (List.take_subset _ _)
    · exact List.Subset.trans ih (List.subset_cons_of_subset c (List.drop_subset _ _))
  | case3 atStart last c cs hplace ih => exact List.cons_subset_cons c ih

end Spacing

/-! ## The grammar -/

/-- The texts in a node, at any depth, have characters that satisfy `q` only. -/
def Node.WritesOnly (q : Char → Prop) (n : Node) : Prop :=
  ∀ s, .text s ∈ n.nested → ∀ c ∈ s.toList, q c

/-- The texts in some nodes, at any depth, have characters that satisfy `q` only. -/
abbrev WriteOnly (q : Char → Prop) (nodes : List Node) : Prop := ∀ n ∈ nodes, n.WritesOnly q

variable {q : Char → Prop}

theorem writesOnly_text {cs : List Char} (h : ∀ c ∈ cs, q c) :
    (Node.text (String.ofList cs)).WritesOnly q := by
  intro s hs
  simp only [Node.nested, List.mem_singleton, Node.text.injEq] at hs
  rw [hs, String.toList_ofList]
  exact h

/-- A node whose parts are no texts writes what its branches write. -/
theorem writesOnly_block {inverted : Bool} {name : String} {arguments : Arguments} {body : List Node}
    {otherwise : Option (List Node)} (hbody : WriteOnly q body)
    (hotherwise : ∀ nodes ∈ otherwise, WriteOnly q nodes) :
    (Node.block inverted name arguments body otherwise).WritesOnly q := by
  intro s hs
  cases otherwise with
  | none =>
    simp only [Node.nested, List.mem_cons, reduceCtorEq, false_or] at hs
    obtain ⟨n, hn, hs⟩ := exists_of_mem_nestedIn hs
    exact hbody n hn s hs
  | some nodes =>
    simp only [Node.nested, List.mem_cons, reduceCtorEq, false_or, List.mem_append] at hs
    rcases hs with hs | hs
    · obtain ⟨n, hn, hs⟩ := exists_of_mem_nestedIn hs
      exact hbody n hn s hs
    · obtain ⟨n, hn, hs⟩ := exists_of_mem_nestedIn hs
      exact hotherwise nodes rfl n hn s hs

namespace Grammar

open Reader (Yields Stays)

/-! ### Parts of tags -/

theorem stays_blanks : Stays q blanks := (Yields.run _).stays.after fun _ => .pure trivial

theorem stays_gap : Stays q gap := (Yields.run1 _).stays.after fun _ => .pure trivial

theorem stays_opening : Stays q opening := .token _

theorem stays_closing : Stays q closing := .token _

theorem stays_name : Stays q name :=
  (Yields.absent _).after fun _ => (Yields.option _).after fun _ => (Yields.run1 _).stays.after fun _ =>
    (Yields.option _).after fun _ => .pure trivial

theorem stays_keyword : Stays q keyword :=
  (Yields.absent _).after fun _ => (Yields.option _).after fun _ => (Yields.one _).stays.after fun _ =>
    (Yields.run1 _).stays.after fun _ => (Yields.option _).after fun _ => .pure trivial

theorem stays_segment : Stays q segment := by
  have htoken : ∀ t (s : String), Stays q (do Reader.token t; return s) :=
    fun t s => (Yields.token t).after fun _ => .pure trivial
  refine .firstOf fun r hr => ?_
  simp only [List.mem_cons, List.not_mem_nil, or_false] at hr
  rcases hr with rfl | rfl | rfl | rfl | rfl | rfl
  · exact (Yields.token _).after fun _ => (Yields.run1 _).stays.after fun _ =>
      (Yields.token _).after fun _ => .pure trivial
  · exact htoken _ _
  · exact stays_name
  · exact htoken _ _
  · exact htoken _ _
  · exact htoken _ _

theorem stays_segments : Stays q segments := by
  intro s
  refine ((Yields.absent _).after fun _ => (Yields.many stays_segment s.length).stays.after
    fun found => ?_ : Stays q _) s
  split
  · exact .fail
  · exact .pure trivial

theorem stays_path : Stays q path := stays_segments.after fun _ => .pure trivial

/-! ### Arguments -/

theorem stays_quotedChars (quote : Char) : Stays q (quotedChars quote) := by
  -- what is escaped or taken as it is stands before what is left
  have hmap : ∀ {more : Reading (List Char)} {d : Char},
      (∀ cs left, more.result = some (cs, left) → ∀ c ∈ left, q c) → ∀ cs left,
        more.result.map (fun read => (d :: read.1, read.2)) = some (cs, left) → ∀ c ∈ left, q c := by
    intro more d hmore cs left h
    obtain ⟨⟨others, left'⟩, hothers, heq⟩ := Option.map_eq_some_iff.mp h
    cases heq
    exact hmore others left' hothers
  have hleft : ∀ s, (∀ c ∈ s, q c) → ∀ cs left, (quotedChars quote s).result = some (cs, left) →
      ∀ c ∈ left, q c := by
    intro s hs
    fun_induction quotedChars quote s with
    | case1 =>
      rintro cs left ⟨⟩
      exact hs
    | case2 =>
      rintro cs left ⟨⟩
      exact hs
    | case3 =>
      rintro cs left ⟨⟩
      exact fun c hc => absurd hc List.not_mem_nil
    | case4 c d rest hescape more ih =>
      exact hmap (ih fun e he => hs e (List.mem_cons_of_mem c (List.mem_cons_of_mem d he)))
    | case5 =>
      rintro cs left ⟨⟩
      exact hs
    | case6 c d rest hescape hquote more ih =>
      exact hmap (ih fun e he => hs e (List.mem_cons_of_mem c he))
  exact fun s hs cs left h => ⟨trivial, hleft s hs cs left h⟩

theorem stays_quotedText (quote : Char) : Stays q (quotedText quote) :=
  (Yields.token _).after fun _ => (stays_quotedChars quote).after fun _ =>
    (Yields.token _).after fun _ => .pure trivial

theorem stays_integer : Stays q integer := by
  intro s
  exact ((Yields.option _).after fun _ => (Yields.run1 _).stays.after fun _ => .pure trivial :
    Stays q _) s

theorem stays_constant (word : String) (l : Literal) : Stays q (constant word l) :=
  (Yields.token _).after fun _ => .pure trivial

theorem stays_literal : Stays q literal := by
  refine Yields.after (.firstOf fun r hr => ?_) fun _ => .pure trivial
  simp only [List.mem_cons, List.not_mem_nil, or_false] at hr
  rcases hr with rfl | rfl | rfl | rfl | rfl | rfl | rfl
  · exact stays_quotedText _
  · exact stays_quotedText _
  · exact stays_integer
  · exact stays_constant _ _
  · exact stays_constant _ _
  · exact stays_constant _ _
  · exact stays_constant _ _

theorem stays_call {inner : Reader Arguments} (h : Stays q inner) : Stays q (call inner) :=
  (Yields.token _).after fun _ => stays_blanks.after fun _ => stays_segments.after fun _ =>
    h.after fun _ => stays_blanks.after fun _ => (Yields.token _).after fun _ => .pure trivial

theorem stays_pathArgument : Stays q pathArgument := stays_path.after fun _ => .pure trivial

theorem stays_argument {inner : Reader Arguments} (h : Stays q inner) :
    Stays q (Reader.firstOf [literal, pathArgument, call inner]) := by
  refine .firstOf fun r hr => ?_
  simp only [List.mem_cons, List.not_mem_nil, or_false] at hr
  rcases hr with rfl | rfl | rfl
  · exact stays_literal
  · exact stays_pathArgument
  · exact stays_call h

theorem stays_argumentsUpTo (fuel : Nat) : Stays q (argumentsUpTo fuel) := by
  induction fuel with
  | zero => exact .succeed trivial
  | succ fuel ih =>
    have hkeyword : Stays q (keywordArgument (argumentsUpTo fuel)) :=
      stays_keyword.after fun _ => (Yields.token _).after fun _ =>
        (stays_argument ih).after fun _ => .pure trivial
    have hplain : Stays q (plainArgument (argumentsUpTo fuel)) :=
      (stays_argument ih).after fun _ => .pure trivial
    refine .orElse ?_ (Yields.look.after fun _ => .pure trivial)
    exact stays_gap.after fun _ => (hkeyword.orElse hplain).after fun _ => ih.after fun _ =>
      .pure trivial

theorem stays_arguments : Stays q arguments := fun s => stays_argumentsUpTo (s.length + 1) s

theorem stays_inside : Stays q inside :=
  stays_blanks.after fun _ => stays_path.after fun _ => stays_arguments.after fun _ =>
    stays_blanks.after fun _ => stays_closing.after fun _ => .pure trivial

theorem stays_namedInside : Stays q namedInside :=
  stays_blanks.after fun _ => stays_name.after fun _ => stays_arguments.after fun _ =>
    stays_blanks.after fun _ => stays_closing.after fun _ => .pure trivial

/-! ### Nodes -/

theorem unifyLeading_subset (s : List Char) : unifyLeading s ⊆ s := by
  fun_induction unifyLeading s with
  | case1 rest ih =>
    exact List.subset_cons_of_subset '\r' (List.cons_subset_cons '\n' ih)
  | case2 c rest _ _ ih => exact List.cons_subset_cons c ih
  | case3 c rest => exact List.Subset.refl _
  | case4 => exact List.nil_subset _

theorem writes_plainText : Yields q (Node.WritesOnly q) plainText := by
  refine (Yields.upTo _).bind fun cs hcs => ?_
  split
  · exact .fail
  · exact .pure (writesOnly_text fun c hc => hcs c (unifyLeading_subset cs hc))

theorem writes_comment : Yields q (Node.WritesOnly q) comment :=
  (Yields.token _).after fun _ => (Yields.upTo _).stays.after fun _ => stays_closing.after fun _ =>
    .pure fun s hs => by simp [Node.nested] at hs

theorem writesOnly_reference {escaped : Bool} {path : TemplatePath} {arguments : Arguments} :
    (Node.reference escaped path arguments).WritesOnly q := fun s hs => by simp [Node.nested] at hs

theorem writes_reference : Yields q (Node.WritesOnly q) reference :=
  stays_opening.after fun _ => stays_inside.after fun _ => .pure writesOnly_reference

theorem writes_rawReference : Yields q (Node.WritesOnly q) rawReference :=
  .orElse
    ((Yields.token _).after fun _ => stays_inside.after fun _ => (Yields.token _).after fun _ =>
      .pure writesOnly_reference)
    ((Yields.token _).after fun _ => stays_inside.after fun _ => .pure writesOnly_reference)

theorem stays_includedName : Stays q includedName := by
  refine (Yields.absent _).after fun _ => (Yields.optionOf _).after fun _ =>
    (Yields.upTo _).stays.after fun cs => ?_
  split
  · exact Yields.fail.after fun _ => (Yields.optionOf _).after fun _ => .pure trivial
  · exact (Yields.optionOf _).after fun _ => .pure trivial

theorem writes_inclusion : Yields q (Node.WritesOnly q) inclusion :=
  (Yields.token _).after fun _ => stays_blanks.after fun _ =>
    ((stays_call stays_arguments).orElse stays_includedName).after fun _ =>
      stays_arguments.after fun _ => stays_blanks.after fun _ => stays_closing.after fun _ =>
        .pure fun s hs => by simp [Node.nested] at hs

theorem stays_closingTag (expected : String) : Stays q (closingTag expected) := by
  refine (Yields.token _).after fun _ => stays_name.after fun found => ?_
  split
  · exact stays_closing
  · exact .fail

theorem stays_rawClosingTag (expected : String) : Stays q (rawClosingTag expected) :=
  stays_opening.after fun _ => (stays_closingTag expected).after fun _ => stays_closing

theorem writes_rawBlock : Yields q (Node.WritesOnly q) rawBlock :=
  (Yields.token _).after fun _ => stays_namedInside.after fun _ => stays_closing.after fun _ =>
    (Yields.upTo _).bind fun _ hcs => (stays_rawClosingTag _).after fun _ => .pure (writesOnly_text hcs)

theorem stays_elseTag : Stays q elseTag :=
  stays_blanks.after fun _ => ((Yields.token _).orElse (Yields.token _)).after fun _ =>
    stays_blanks.after fun _ => stays_closing

section nested

variable {inner : Reader (List Node)} (h : Yields q (WriteOnly q) inner)

include h

theorem writes_otherwise :
    Yields q (fun found => ∀ nodes ∈ found, WriteOnly q nodes) (otherwise inner) := by
  refine .orElse ?_ (Yields.look.after fun _ => .pure fun nodes hnodes => nomatch hnodes)
  exact stays_opening.after fun _ => stays_elseTag.after fun _ => h.bind fun nodes hnodes =>
    .pure fun _ h => Option.mem_some.mp h ▸ hnodes

theorem writes_block (sign : Char) : Yields q (Node.WritesOnly q) (block inner sign) :=
  (Yields.token _).after fun _ => stays_namedInside.after fun _ => h.bind fun _ hbody =>
    (writes_otherwise h).bind fun _ hother => (stays_closingTag _).after fun _ =>
      .pure (writesOnly_block hbody hother)

theorem writes_node : Yields q (Node.WritesOnly q) (node inner) := by
  refine .firstOf fun r hr => ?_
  simp only [List.mem_cons, List.not_mem_nil, or_false] at hr
  rcases hr with rfl | rfl | rfl | rfl | rfl | rfl | rfl | rfl
  · exact writes_plainText
  · exact writes_block h '#'
  · exact writes_block h '^'
  · exact writes_comment
  · exact writes_reference
  · exact writes_rawReference
  · exact writes_inclusion
  · exact writes_rawBlock

end nested

theorem writes_nodesUpTo (fuel : Nat) : Yields q (WriteOnly q) (nodesUpTo fuel) := by
  induction fuel with
  | zero => exact .succeed fun n hn => absurd hn List.not_mem_nil
  | succ fuel ih =>
    refine .orElse ?_ (Yields.look.after fun _ => .pure fun n hn => absurd hn List.not_mem_nil)
    exact (writes_node ih).bind fun n hn => ih.bind fun rest hrest =>
      .pure (List.forall_mem_cons.mpr ⟨hn, hrest⟩)

end Grammar

/-- The texts of a template consist of characters of its source. -/
theorem Template.text_subset {source : String} {t : Template} (h : parse? source = some t) {s : String}
    (hs : .text s ∈ nestedIn t.nodes) : s.toList ⊆ source.toList := by
  obtain ⟨nodes, hnodes, rfl⟩ := Option.map_eq_some_iff.mp h
  unfold Grammar.parse? at hnodes
  have hread := Grammar.writes_nodesUpTo (q := fun c => c ∈ source.toList)
    ((Spacing.adjust source.toList).length + 1) (Spacing.adjust source.toList)
    fun c hc => Spacing.adjustFrom_subset _ _ _ hc
  split at hnodes
  · next read rest sawEnd heq =>
    obtain ⟨hwrites, -⟩ := hread read rest (by rw [heq])
    split at hnodes
    · obtain ⟨n, hn, hs⟩ := exists_of_mem_nestedIn (text_of_decodeNodes? read hnodes hs)
      exact fun c hc => hwrites n hn s hs c hc
    · cases hnodes
  · cases hnodes

end PromptTemplates
