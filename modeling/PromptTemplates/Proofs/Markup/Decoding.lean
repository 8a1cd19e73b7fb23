import PromptTemplates.Proofs.Markup.Parts
import PromptTemplates.Proofs.Text.Entities
import PromptTemplates.Proofs.Text.FirstOccurrence
import PromptTemplates.Text.Blank

/-!
# Reading markup back

Markup is written so that it can be read back: from the written form of an element a decoder finds its
tag, the attributes that count as true with their texts, and its content. What stands in attributes and
content is arbitrary; tags and the names of attributes hold none of the characters that end them.
-/

namespace PromptTemplates.Markup

open Text

/-- The canonical form of an element: its tag, the attributes that are written, and its text, if it has
one, or the element inside. -/
inductive Tree where
  | leaf (tag : String) (attributes : List (String × String)) (text : Option String)
  | around (tag : String) (attributes : List (String × String)) (inner : Tree)
  deriving DecidableEq, Repr

/-- The canonical form of an element or a pair. -/
def canonical? (v : Value) : Option Tree :=
  match _h : parts? v with
  | none => none
  | some (tag, attributes, content) =>
    match canonical? content with
    | some inner => some (.around tag (shown attributes) inner)
    | none =>
      some (.leaf tag (shown attributes) (if content.isTruthy then some content.plainText else none))
termination_by sizeOf v
decreasing_by exact sizeOf_content_lt _h

/-! ## The decoder -/

/-- The characters that names are made of. -/
def isNameChar (c : Char) : Bool := !isBlank c && !(['<', '>', '"', '=', '/', '&'].contains c)

/-- Reads an attribute with the blank before it: its name and its text, and the rest. -/
def readAttribute? (s : List Char) : Option ((String × String) × List Char) := do
  let s ← after? [' '] s
  let value ← after? ['=', '"'] (s.dropWhile isNameChar)
  let rest ← after? ['"'] (value.dropWhile (· != '"'))
  return ((String.ofList (s.takeWhile isNameChar),
    String.ofList (readEntities (value.takeWhile (· != '"')))), rest)

theorem length_le_of_after? {pat s rest : List Char} (h : after? pat s = some rest) :
    rest.length ≤ s.length := by
  rw [after?_eq_some_iff.mp h, List.length_append]
  omega

theorem length_dropWhile_le (p : Char → Bool) (s : List Char) : (s.dropWhile p).length ≤ s.length :=
  (List.dropWhile_sublist p).length_le

theorem length_lt_of_readAttribute? {s rest : List Char} {first : String × String}
    (h : readAttribute? s = some (first, rest)) : rest.length < s.length := by
  simp only [readAttribute?, Option.bind_eq_bind, Option.bind_eq_some_iff] at h
  obtain ⟨name, hname, value, hvalue, after, hafter, h⟩ := h
  cases h
  have hblank : s.length = name.length + 1 := by
    rw [after?_eq_some_iff.mp hname, List.length_append, List.length_singleton, Nat.add_comm]
  have := length_le_of_after? hvalue
  have := length_dropWhile_le isNameChar name
  have := length_le_of_after? hafter
  have := length_dropWhile_le (· != '"') value
  omega

/-- Reads attributes as long as there are any. -/
def readAttributes (s : List Char) : List (String × String) × List Char :=
  match _h : readAttribute? s with
  | some (first, rest) =>
    let (others, rest) := readAttributes rest
    (first :: others, rest)
  | none => ([], s)
termination_by s.length
decreasing_by exact length_lt_of_readAttribute? _h

theorem length_readAttributes_le (s : List Char) : (readAttributes s).2.length ≤ s.length := by
  induction hlength : s.length using Nat.strong_induction_on generalizing s with
  | _ n ih =>
    subst hlength
    rw [readAttributes]
    split
    · next first rest h =>
      have hlt := length_lt_of_readAttribute? h
      exact (ih rest.length hlt rest rfl).trans hlt.le
    · exact le_rfl

/-- Reads a start tag: its name and its attributes, whether it closes the element, and the rest. -/
def readStart? (s : List Char) : Option (String × List (String × String) × Bool × List Char) := do
  let s ← after? ['<'] s
  let (attributes, rest) := readAttributes (s.dropWhile isNameChar)
  let tag := s.takeWhile isNameChar
  if tag.isEmpty then none
  else
    match after? [' ', '/', '>'] rest with
    | some rest => some (String.ofList tag, attributes, true, rest)
    | none => (after? ['>'] rest).map fun rest => (String.ofList tag, attributes, false, rest)

theorem length_lt_of_readStart? {s rest : List Char} {tag : String}
    {attributes : List (String × String)} {closed : Bool}
    (h : readStart? s = some (tag, attributes, closed, rest)) : rest.length < s.length := by
  simp only [readStart?, Option.bind_eq_bind, Option.bind_eq_some_iff] at h
  obtain ⟨inner, hinner, h⟩ := h
  have hsign : s.length = inner.length + 1 := by
    rw [after?_eq_some_iff.mp hinner, List.length_append, List.length_singleton, Nat.add_comm]
  have hattributes := length_readAttributes_le (inner.dropWhile isNameChar)
  have := length_dropWhile_le isNameChar inner
  split at h
  · cases h
  · split at h
    · next found =>
      cases h
      have := length_le_of_after? found
      omega
    · obtain ⟨_, found, h⟩ := Option.map_eq_some_iff.mp h
      cases h
      have := length_le_of_after? found
      omega

/-- Reads the end tag of an element. -/
def readEnd? (tag : String) (s : List Char) : Option (List Char) :=
  after? (['<', '/'] ++ tag.toList ++ ['>']) s

/-- Reads an element, and gives the rest. -/
def readTree? (s : List Char) : Option (Tree × List Char) :=
  match _h : readStart? s with
  | none => none
  | some (tag, attributes, true, rest) => some (.leaf tag attributes none, rest)
  | some (tag, attributes, false, rest) =>
    match readTree? rest with
    | some (inner, rest) => (readEnd? tag rest).map fun rest => (.around tag attributes inner, rest)
    | none =>
      let text := String.ofList (readEntities (rest.takeWhile (· != '<')))
      (readEnd? tag (rest.dropWhile (· != '<'))).map fun rest =>
        (.leaf tag attributes (some text), rest)
termination_by s.length
decreasing_by exact length_lt_of_readStart? _h

/-- The element that a text writes. -/
def decode? (text : String) : Option Tree :=
  match readTree? text.toList with
  | some (tree, []) => some tree
  | _ => none

/-! ## Reading what is written -/

/-- A name that can be told from what follows it. -/
structure IsName (s : String) : Prop where
  ne_nil : s.toList ≠ []
  all_nameChar : ∀ c ∈ s.toList, isNameChar c = true

variable {name tag : String} {attributes : List (String × String)} {rest tail : List Char}

theorem toList_writeAttribute (name text : String) : (writeAttribute name text).toList =
    ' ' :: (name.toList ++ ('=' :: '"' :: ((escapeAttribute text).toList ++ ['"']))) := by
  simp [writeAttribute, String.toList_append]

theorem readAttribute?_written (h : IsName name) (text : String) :
    readAttribute? ((writeAttribute name text).toList ++ rest) = some ((name, text), rest) := by
  have hvalue : ∀ c ∈ (escapeAttribute text).toList, (c != '"') = true := fun c hc => by
    simpa using ne_of_mem_escapeAttribute hc
  have hname : ∀ t, (name.toList ++ '=' :: t).takeWhile isNameChar = name.toList ∧
      (name.toList ++ '=' :: t).dropWhile isNameChar = '=' :: t := fun t => by
    have hstop : ∀ c ∈ ('=' :: t).head?, isNameChar c = false := by
      rintro c ⟨⟩
      decide
    exact ⟨takeWhile_append_stop h.all_nameChar hstop, dropWhile_append_stop h.all_nameChar hstop⟩
  have hquote : ∀ c ∈ ('"' :: rest).head?, (c != '"') = false := by
    rintro c ⟨⟩
    decide
  rw [toList_writeAttribute]
  simp only [readAttribute?, List.cons_append, List.append_assoc, List.nil_append, after?, if_true,
    Option.bind_eq_bind, Option.bind_some, (hname _).1, (hname _).2,
    takeWhile_append_stop hvalue hquote, dropWhile_append_stop hvalue hquote,
    readEntities_escapeAttribute, String.ofList_toList]
  rfl

theorem readAttributes_cons {s : List Char} {first : String × String}
    (h : readAttribute? s = some (first, rest)) :
    readAttributes s = (first :: (readAttributes rest).1, (readAttributes rest).2) := by
  rw [readAttributes]
  split
  · next first' rest' h' =>
    rw [h] at h'
    cases h'
    rfl
  · next h' =>
    rw [h] at h'
    cases h'

theorem readAttributes_nil {s : List Char} (h : readAttribute? s = none) :
    readAttributes s = ([], s) := by
  rw [readAttributes]
  split
  · next h' =>
    rw [h] at h'
    cases h'
  · rfl

/-- Attributes are read up to a text that begins with none. -/
theorem readAttributes_written (hnames : ∀ entry ∈ attributes, IsName entry.1)
    (htail : readAttribute? tail = none) :
    readAttributes ((writeAttributes attributes).toList ++ tail) = (attributes, tail) := by
  induction attributes with
  | nil => exact readAttributes_nil htail
  | cons first others ih =>
    obtain ⟨hfirst, hothers⟩ := List.forall_mem_cons.mp hnames
    have hwritten : (writeAttributes (first :: others)).toList ++ tail =
        (writeAttribute first.1 first.2).toList ++ ((writeAttributes others).toList ++ tail) := by
      simp [writeAttributes, String.join_cons, String.toList_append]
    rw [hwritten, readAttributes_cons (readAttribute?_written hfirst first.2), ih hothers]

/-- The start tag of an element, as far as the sign that ends it. -/
def opened (tag : String) (attributes : List (String × String)) : String :=
  "<" ++ tag ++ writeAttributes attributes

theorem readStart?_opened (htag : IsName tag) (hnames : ∀ entry ∈ attributes, IsName entry.1)
    (htail : readAttribute? tail = none) (hstop : ∀ c ∈ tail.head?, isNameChar c = false) :
    readStart? ((opened tag attributes).toList ++ tail) =
      match after? [' ', '/', '>'] tail with
      | some rest => some (tag, attributes, true, rest)
      | none => (after? ['>'] tail).map fun rest => (tag, attributes, false, rest) := by
  have hstop : ∀ c ∈ ((writeAttributes attributes).toList ++ tail).head?, isNameChar c = false := by
    cases attributes with
    | nil => exact hstop
    | cons first others =>
      have hhead : ((writeAttributes (first :: others)).toList ++ tail).head? = some ' ' := by
        simp [writeAttributes, String.join_cons, String.toList_append, toList_writeAttribute]
      rw [hhead]
      rintro c ⟨⟩
      decide
  have hopened : (opened tag attributes).toList ++ tail =
      '<' :: (tag.toList ++ ((writeAttributes attributes).toList ++ tail)) := by
    simp [opened, String.toList_append]
  have hname : (String.toList tag).isEmpty = false := by simpa using htag.ne_nil
  rw [hopened]
  simp only [readStart?, after?, if_true, Option.bind_eq_bind, Option.bind_some,
    takeWhile_append_stop htag.all_nameChar hstop, dropWhile_append_stop htag.all_nameChar hstop,
    readAttributes_written hnames htail, hname, String.ofList_toList]
  rfl

/-- Neither an end tag nor the text of an element begins with a start tag. -/
theorem readStart?_eq_none {s : List Char} (h : ∀ c ∈ s.head?, c ≠ '<') : readStart? s = none := by
  cases s with
  | nil => rfl
  | cons c s =>
    have hc : '<' ≠ c := (h c rfl).symm
    simp [readStart?, after?, hc]

theorem readStart?_end (s : List Char) : readStart? ('<' :: '/' :: s) = none := by
  have hslash : isNameChar '/' = false := by decide
  simp [readStart?, after?, hslash]

/-- An element without content ends with its start tag. Behind any other start tag stands an element, or
else the text up to the next tag. -/
theorem readTree?_eq (s : List Char) :
    readTree? s = (readStart? s).bind fun (tag, attributes, closed, rest) =>
      if closed then some (.leaf tag attributes none, rest)
      else
        match readTree? rest with
        | some (inner, after) => (readEnd? tag after).map fun tail => (.around tag attributes inner, tail)
        | none => (readEnd? tag (rest.dropWhile (· != '<'))).map fun tail =>
          (.leaf tag attributes (some (String.ofList (readEntities (rest.takeWhile (· != '<'))))), tail) := by
  rw [readTree?]
  split
  · next h => rw [h, Option.bind_none]
  · next h =>
    rw [h]
    rfl
  · next h =>
    rw [h]
    rfl

theorem readTree?_eq_none {s : List Char} (h : readStart? s = none) : readTree? s = none := by
  rw [readTree?_eq, h, Option.bind_none]

theorem readTree?_closed {s : List Char} (h : readStart? s = some (tag, attributes, true, rest)) :
    readTree? s = some (.leaf tag attributes none, rest) := by
  rw [readTree?_eq, h]
  rfl

theorem readTree?_around {s after : List Char} {inner : Tree}
    (h : readStart? s = some (tag, attributes, false, rest))
    (hinner : readTree? rest = some (inner, after)) (hend : readEnd? tag after = some tail) :
    readTree? s = some (.around tag attributes inner, tail) := by
  rw [readTree?_eq, h]
  simp [hinner, hend]

theorem readTree?_text {s : List Char} (h : readStart? s = some (tag, attributes, false, rest))
    (hinner : readTree? rest = none)
    (hend : readEnd? tag (rest.dropWhile (· != '<')) = some tail) :
    readTree? s = some (.leaf tag attributes
      (some (String.ofList (readEntities (rest.takeWhile (· != '<'))))), tail) := by
  rw [readTree?_eq, h]
  simp [hinner, hend]

theorem readEnd?_append (tag : String) (tail : List Char) :
    readEnd? tag (("</" ++ tag ++ ">").toList ++ tail) = some tail :=
  after?_eq_some_iff.mpr (by simp [String.toList_append])

theorem readTree?_empty (htag : IsName tag) (hnames : ∀ entry ∈ attributes, IsName entry.1) :
    readTree? ((wrap tag (writeAttributes attributes) none).toList ++ tail) =
      some (.leaf tag attributes none, tail) := by
  have hwritten : (wrap tag (writeAttributes attributes) none).toList ++ tail =
      (opened tag attributes).toList ++ (' ' :: '/' :: '>' :: tail) := by
    simp [wrap, opened, String.toList_append]
  have hnone : readAttribute? (' ' :: '/' :: '>' :: tail) = none := by
    have hslash : isNameChar '/' = false := by decide
    simp [readAttribute?, after?, hslash]
  have hstop : ∀ c ∈ (' ' :: '/' :: '>' :: tail).head?, isNameChar c = false := by
    rintro c ⟨⟩
    decide
  rw [hwritten]
  exact readTree?_closed (readStart?_opened htag hnames hnone hstop)

/-- What stands between a start tag and an end tag. -/
theorem readStart?_filled (htag : IsName tag) (hnames : ∀ entry ∈ attributes, IsName entry.1)
    (content : String) (tail : List Char) :
    readStart? ((wrap tag (writeAttributes attributes) (some content)).toList ++ tail) =
      some (tag, attributes, false, content.toList ++ (("</" ++ tag ++ ">").toList ++ tail)) := by
  have hwritten : (wrap tag (writeAttributes attributes) (some content)).toList ++ tail =
      (opened tag attributes).toList ++
        ('>' :: (content.toList ++ (("</" ++ tag ++ ">").toList ++ tail))) := by
    simp [wrap, opened, String.toList_append]
  have hstop : ∀ t, ∀ c ∈ ('>' :: t).head?, isNameChar c = false := by
    rintro t c ⟨⟩
    decide
  rw [hwritten, readStart?_opened htag hnames rfl (hstop _)]
  rfl

theorem readTree?_filled (htag : IsName tag) (hnames : ∀ entry ∈ attributes, IsName entry.1)
    (text : String) :
    readTree? ((wrap tag (writeAttributes attributes) (some (escapeText text))).toList ++ tail) =
      some (.leaf tag attributes (some text), tail) := by
  have htext : ∀ c ∈ (escapeText text).toList, (c != '<') = true := fun c hc => by
    simpa using (ne_of_mem_escapeText hc).1
  have hend : ∀ c ∈ (("</" ++ tag ++ ">").toList ++ tail).head?, (c != '<') = false := by
    simp [String.toList_append]
  have hstart := readStart?_filled htag hnames (escapeText text) tail
  have hinner : readTree? ((escapeText text).toList ++ (("</" ++ tag ++ ">").toList ++ tail)) = none := by
    refine readTree?_eq_none ?_
    cases hchars : (escapeText text).toList with
    | nil =>
      simp only [String.toList_append, List.nil_append, List.append_assoc]
      exact readStart?_end _
    | cons c cs =>
      refine readStart?_eq_none ?_
      rintro d ⟨⟩
      rw [hchars] at htext
      simpa using htext c
  have hread := readTree?_text hstart hinner (by
    rw [dropWhile_append_stop htext hend]
    exact readEnd?_append tag tail)
  rw [hread, takeWhile_append_stop htext hend, readEntities_escapeText, String.ofList_toList]

/-! ## Reading elements -/

/-- The names of an element or a pair, and of those inside it, can be told from what follows them. -/
inductive WellNamed : Value → Prop
  | mk {v content : Value} {tag : String} {attributes : List (Value × Value)} :
      parts? v = some (tag, attributes, content) → IsName tag →
      (∀ entry ∈ attributes, ∃ name, entry.1 = .str name ∧ IsName name) →
      ((parts? content).isSome → WellNamed content) → WellNamed v

theorem isName_shown {attributes : List (Value × Value)}
    (h : ∀ entry ∈ attributes, ∃ name, entry.1 = .str name ∧ IsName name) :
    ∀ entry ∈ shown attributes, IsName entry.1 := by
  intro entry hentry
  obtain ⟨⟨key, value⟩, hmem, rfl⟩ := List.mem_map.mp hentry
  obtain ⟨name, hkey, hname⟩ := h _ (List.mem_filter.mp hmem).1
  dsimp only at hkey ⊢
  rw [hkey]
  exact hname

theorem canonical?_eq {v content : Value} {tag : String} {attributes : List (Value × Value)}
    (h : parts? v = some (tag, attributes, content)) :
    canonical? v = match canonical? content with
      | some inner => some (.around tag (shown attributes) inner)
      | none => some (.leaf tag (shown attributes)
          (if content.isTruthy then some content.plainText else none)) := by
  rw [canonical?]
  split
  · next h' =>
    rw [h] at h'
    cases h'
  · next h' =>
    rw [h] at h'
    cases h'
    rfl

theorem canonical?_eq_none {v : Value} (h : parts? v = none) : canonical? v = none := by
  rw [canonical?]
  split
  · rfl
  · next h' =>
    rw [h] at h'
    cases h'

/-- Before any further text, the written form of an element is read back in its canonical form. -/
theorem WellNamed.readTree? {v : Value} (h : WellNamed v) : ∃ text tree, render? v = some text ∧
    canonical? v = some tree ∧ ∀ tail, readTree? (text.toList ++ tail) = some (tree, tail) := by
  induction h with
  | @mk v content tag attributes hparts htag hnames _ ih =>
    have hnames := isName_shown hnames
    rw [render?_eq, canonical?_eq hparts, hparts]
    simp only [Option.map_some]
    cases hcontent : parts? content with
    | some parts =>
      obtain ⟨text, inner, hrender, hcanonical, hread⟩ := ih (by simp [hcontent])
      refine ⟨_, _, rfl, by rw [hcanonical], fun tail => ?_⟩
      rw [writeContent, hrender]
      exact readTree?_around (readStart?_filled htag hnames text tail) (hread _) (readEnd?_append tag tail)
    | none =>
      have hrender := render?_eq_none_iff.mpr hcontent
      refine ⟨_, _, rfl, by rw [canonical?_eq_none hcontent], fun tail => ?_⟩
      rw [writeContent, hrender]
      unfold plainContent
      cases content.isTruthy with
      | true => exact readTree?_filled htag hnames content.plainText
      | false => exact readTree?_empty htag hnames

/-- The written form of an element or a pair is decoded to its canonical form, so elements with one
written form have one canonical form. -/
theorem decode?_render? {v : Value} (h : WellNamed v) :
    (∃ text tree, render? v = some text ∧ canonical? v = some tree ∧ decode? text = some tree) ∧
      ∀ w, WellNamed w → render? w = render? v → canonical? w = canonical? v := by
  have hdecode : ∀ {u}, WellNamed u → ∃ text tree, render? u = some text ∧
      canonical? u = some tree ∧ decode? text = some tree := by
    intro u hu
    obtain ⟨text, tree, hrender, hcanonical, hread⟩ := hu.readTree?
    have hread := hread []
    rw [List.append_nil] at hread
    exact ⟨text, tree, hrender, hcanonical, by rw [decode?, hread]⟩
  refine ⟨hdecode h, fun w hw hsame => ?_⟩
  obtain ⟨text, tree, hrender, hcanonical, hread⟩ := hdecode h
  obtain ⟨text', tree', hrender', hcanonical', hread'⟩ := hdecode hw
  rw [hsame, hrender, Option.some.injEq] at hrender'
  rw [← hrender', hread] at hread'
  rw [hcanonical, hcanonical', hread']

/-- A link with an element in an attribute, an attribute that is left out, and a pair inside. -/
def nestedLink : Value :=
  .element "a" [(.str "title", .element "b" [] (.str "\"x\"")), (.str "id", .str "")]
    (.list [.str "i", .map [(.str "text", .str "1 < 2")]])

theorem decode?_nestedLink : WellNamed nestedLink ∧
    decode? "<a title=\"&lt;b&gt;&#34;x&#34;&lt;/b&gt;\"><i>1 &lt; 2</i></a>" =
      some (.around "a" [("title", "<b>\"x\"</b>")] (.leaf "i" [] (some "1 < 2"))) := by
  have hname : ∀ name ∈ ["a", "title", "id", "i"], IsName name := by
    have hall : (["a", "title", "id", "i"].all fun name =>
        !name.toList.isEmpty && name.toList.all isNameChar) = true := by decide
    intro name hmem
    obtain ⟨hne, hchars⟩ := (Bool.and_eq_true _ _).mp (List.all_eq_true.mp hall name hmem)
    exact ⟨by simpa using hne, List.all_eq_true.mp hchars⟩
  have hinner : WellNamed (.list [.str "i", .map [(.str "text", .str "1 < 2")]]) := by
    refine .mk rfl (hname "i" (by simp)) ?_ ?_
    · simp [parts?.attributesOf, isTextKey]
    · simp [parts?.contentOf, isTextKey, Value.ofOption, parts?]
  have hlink : WellNamed nestedLink := by
    refine .mk rfl (hname "a" (by simp)) ?_ fun _ => hinner
    simp only [List.forall_mem_cons, List.not_mem_nil, false_implies, implies_true, and_true]
    exact ⟨⟨"title", rfl, hname "title" (by simp)⟩, ⟨"id", rfl, hname "id" (by simp)⟩⟩
  obtain ⟨⟨text, tree, hrender, hcanonical, hread⟩, -⟩ := decode?_render? hlink
  have htext : render? nestedLink =
      some "<a title=\"&lt;b&gt;&#34;x&#34;&lt;/b&gt;\"><i>1 &lt; 2</i></a>" := by decide
  have htree : canonical? nestedLink =
      some (.around "a" [("title", "<b>\"x\"</b>")] (.leaf "i" [] (some "1 < 2"))) := by
    rw [nestedLink, canonical?_eq rfl, canonical?_eq rfl, canonical?_eq_none rfl]
    decide
  rw [htext, Option.some.injEq] at hrender
  rw [htree, Option.some.injEq] at hcanonical
  rw [hrender, hread, hcanonical]
  exact ⟨hlink, rfl⟩

end PromptTemplates.Markup
