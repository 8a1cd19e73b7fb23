import PromptTemplates.Proofs.Json.Tokens

/-!
# Written trees read back

The text of a tree is read as that tree, with the items of its lists and the members of its objects in
order, if its numbers have the one form that numbers have. Reading a tree takes at most two steps for each
of its characters.
-/

namespace PromptTemplates.Json

open Number

/-! ## Trees with numbers of their one form -/

mutual

/-- The numbers in a tree have their one form. -/
def IsCanonical : Json → Prop
  | .float x => x.IsCanonical
  | .arr items => AreCanonical items
  | .obj members => HaveCanonical members
  | _ => True

/-- The numbers in some trees have their one form. -/
def AreCanonical : List Json → Prop
  | [] => True
  | item :: rest => item.IsCanonical ∧ AreCanonical rest

/-- The numbers in the trees of some members have their one form. -/
def HaveCanonical : List (String × Json) → Prop
  | [] => True
  | (_, item) :: rest => item.IsCanonical ∧ HaveCanonical rest

end

/-! ## Between tokens -/

variable {c : Char} {s rest : List Char} {level fuel : Nat}

theorem dropGaps_newline (level : Nat) (s : List Char) : dropGaps (newline level ++ s) = dropGaps s := by
  unfold dropGaps newline
  apply List.dropWhile_append_of_pos
  intro c hc
  rcases List.mem_cons.mp hc with rfl | hc
  · rfl
  · rw [List.eq_of_mem_replicate hc]
    rfl

theorem dropGaps_cons (hc : isGap c = false) (s : List Char) : dropGaps (c :: s) = c :: s := by
  unfold dropGaps
  simp [hc]

theorem ends_cons (hc : isNumberChar c = false) (s : List Char) : Ends (c :: s) := by
  intro c' hc'
  cases hc'
  exact hc

theorem ends_newline (level : Nat) (s : List Char) : Ends (newline level ++ s) := ends_cons rfl _

/-- A character that a tree can start with. -/
def Opens (c : Char) : Prop := isGap c = false ∧ c ≠ ']'

/-- A character that a word or a number can start with. -/
def OpensScalar (c : Char) : Prop := Opens c ∧ c ≠ '"' ∧ c ≠ '[' ∧ c ≠ '\x7b'

theorem opensScalar_of_isDigit (hc : c.isDigit = true) : OpensScalar c := by
  have hgap : isGap c = false := by
    unfold isGap
    simp only [Bool.or_eq_false_iff, beq_eq_false_iff_ne]
    refine ⟨⟨⟨?_, ?_⟩, ?_⟩, ?_⟩ <;> rintro rfl <;> cases hc
  refine ⟨⟨hgap, ?_⟩, ?_, ?_, ?_⟩ <;> rintro rfl <;> cases hc

theorem readTree_scalar (hc : OpensScalar c) (fuel : Nat) (s : List Char) :
    readTree (fuel + 1) (c :: s) = scalar? (c :: s) := by
  obtain ⟨-, hquote, hbracket, hbrace⟩ := hc
  rw [readTree]
  · rfl
  · intro _ heq
    cases heq
    exact hquote rfl
  · intro _ heq
    cases heq
    exact hbracket rfl
  · intro _ heq
    cases heq
    exact hbrace rfl

/-- The text of a word or a number is read as a tree. -/
structure WritesScalar (chars : List Char) (j : Json) : Prop where
  opens : ∃ c t, chars = c :: t ∧ OpensScalar c
  read : ∀ rest, Ends rest → scalar? (chars ++ rest) = some (j, rest)

theorem WritesScalar.readTree {chars : List Char} {j : Json} (h : WritesScalar chars j)
    (hfuel : 0 < fuel) (hrest : Ends rest) : readTree fuel (chars ++ rest) = some (j, rest) := by
  obtain ⟨fuel, rfl⟩ := Nat.exists_eq_succ_of_ne_zero hfuel.ne'
  obtain ⟨c, t, hchars, hc⟩ := h.opens
  have hread := h.read rest hrest
  rw [hchars] at hread ⊢
  rw [List.cons_append, readTree_scalar hc]
  exact hread

theorem opensScalar_minus : OpensScalar '-' := ⟨⟨rfl, by decide⟩, by decide, by decide, by decide⟩

theorem writesScalar_int (n : Int) : WritesScalar (toString n).toList (.int n) where
  opens := by
    cases n with
    | ofNat n =>
      obtain ⟨c, t, hrepr, hc⟩ := exists_digit_repr n
      exact ⟨c, t, hrepr, opensScalar_of_isDigit hc⟩
    | negSucc n => exact ⟨'-', (Nat.repr (n + 1)).toList, String.toList_append, opensScalar_minus⟩
  read _ := scalar?_int n

theorem writesScalar_float {x : Binary64} (hx : x.IsCanonical) :
    WritesScalar (floatText x).toList (.float x) where
  opens := by
    cases x with
    | nan => exact ⟨'N', _, rfl, ⟨rfl, by decide⟩, by decide, by decide, by decide⟩
    | infinite negative =>
      cases negative
      · exact ⟨'I', _, rfl, ⟨rfl, by decide⟩, by decide, by decide, by decide⟩
      · exact ⟨'-', _, rfl, opensScalar_minus⟩
    | finite negative m e =>
      obtain ⟨n, hproper, -, htext, -⟩ := exists_numeral hx
      obtain ⟨c, t, hchars, hc⟩ := exists_digit_chars hproper
      rw [htext, hchars]
      cases negative
      · exact ⟨c, t, rfl, opensScalar_of_isDigit hc⟩
      · exact ⟨'-', c :: t, rfl, opensScalar_minus⟩
  read _ := scalar?_float hx

theorem writesScalar_null : WritesScalar "null".toList .null where
  opens := ⟨'n', _, rfl, ⟨rfl, by decide⟩, by decide, by decide, by decide⟩
  read _ _ := rfl

theorem writesScalar_bool (b : Bool) :
    WritesScalar (if b then "true" else "false").toList (.bool b) where
  opens := by
    cases b
    · exact ⟨'f', _, rfl, ⟨rfl, by decide⟩, by decide, by decide, by decide⟩
    · exact ⟨'t', _, rfl, ⟨rfl, by decide⟩, by decide, by decide, by decide⟩
  read _ _ := by cases b <;> rfl

/-- What is written for a text is read as the text. -/
theorem readChars_writeText (s : String) (rest : List Char) :
    ∃ t, writeText s ++ rest = '"' :: t ∧ readChars t = some (s.toList, rest) := by
  refine ⟨s.toList.flatMap writeChar ++ '"' :: rest, ?_, readChars_flatMap s.toList rest⟩
  unfold writeText
  simp

theorem readTree_writeText (s : String) (hfuel : 0 < fuel) (rest : List Char) :
    readTree fuel (writeText s ++ rest) = some (.str s, rest) := by
  obtain ⟨fuel, rfl⟩ := Nat.exists_eq_succ_of_ne_zero hfuel.ne'
  obtain ⟨t, htext, hread⟩ := readChars_writeText s rest
  rw [htext, readTree, hread, Option.map_some]
  dsimp only
  rw [String.ofList_toList]

/-! ## Trees -/

theorem readTree_bracket {t : List Char} (fuel : Nat) (hs : dropGaps s = c :: t) (hc : c ≠ ']') :
    readTree (fuel + 1) ('[' :: s) = (readItems fuel (c :: t)).map fun read => (.arr read.1, read.2) := by
  rw [readTree, hs]
  split
  · next heq =>
    cases heq
    exact absurd rfl hc
  · rfl

theorem readTree_brace {t : List Char} (fuel : Nat) (hs : dropGaps s = c :: t) (hc : c ≠ '\x7d') :
    readTree (fuel + 1) ('\x7b' :: s) =
      (readMembers fuel (c :: t)).map fun read => (.obj read.1, read.2) := by
  rw [readTree, hs]
  split
  · next heq =>
    cases heq
    exact absurd rfl hc
  · rfl

/-- How some items are written, the first one of a list included. -/
def itemsChars (level : Nat) : List Json → List Char
  | [] => []
  | item :: rest => write level item ++ writeItems level rest

/-- How some members are written, the first one of an object included. -/
def membersChars (level : Nat) : List (String × Json) → List Char
  | [] => []
  | (key, item) :: rest =>
    writeText key ++ ':' :: ' ' :: write level item ++ writeMembers level rest

theorem writeItems_eq (level : Nat) {items : List Json} (h : items ≠ []) :
    writeItems level items = ',' :: newline level ++ itemsChars level items := by
  cases items with
  | nil => exact absurd rfl h
  | cons item rest =>
    rw [writeItems, itemsChars, List.append_assoc]

theorem writeMembers_eq (level : Nat) {members : List (String × Json)} (h : members ≠ []) :
    writeMembers level members = ',' :: newline level ++ membersChars level members := by
  cases members with
  | nil => exact absurd rfl h
  | cons member rest =>
    obtain ⟨key, item⟩ := member
    rw [writeMembers, membersChars]
    simp

theorem write_arr (level : Nat) {items : List Json} (h : items ≠ []) : write level (.arr items) =
    '[' :: newline (level + 1) ++ itemsChars (level + 1) items ++ newline level ++ [']'] := by
  cases items with
  | nil => exact absurd rfl h
  | cons item rest =>
    rw [write, itemsChars]
    simp

theorem write_obj (level : Nat) {members : List (String × Json)} (h : members ≠ []) :
    write level (.obj members) =
      '\x7b' :: newline (level + 1) ++ membersChars (level + 1) members ++ newline level ++ ['\x7d'] := by
  cases members with
  | nil => exact absurd rfl h
  | cons member rest =>
    obtain ⟨key, item⟩ := member
    rw [write, membersChars]
    simp

/-- A written tree starts with a character that a tree can start with. -/
theorem exists_head_write (level : Nat) {j : Json} (hj : j.IsCanonical) :
    ∃ c t, write level j = c :: t ∧ Opens c := by
  have hscalar {chars : List Char} (h : WritesScalar chars j) : ∃ c t, chars = c :: t ∧ Opens c := by
    obtain ⟨c, t, hchars, hc⟩ := h.opens
    exact ⟨c, t, hchars, hc.1⟩
  cases j with
  | null => exact hscalar writesScalar_null
  | bool b => exact hscalar (writesScalar_bool b)
  | int n => exact hscalar (writesScalar_int n)
  | float x => exact hscalar (writesScalar_float hj)
  | str s => exact ⟨'"', _, rfl, rfl, by decide⟩
  | arr items =>
    refine ⟨'[', ?_⟩
    by_cases h : items = []
    · exact ⟨_, by rw [h, write], rfl, by decide⟩
    · exact ⟨_, by rw [write_arr level h]; rfl, rfl, by decide⟩
  | obj members =>
    refine ⟨'\x7b', ?_⟩
    by_cases h : members = []
    · exact ⟨_, by rw [h, write], rfl, by decide⟩
    · exact ⟨_, by rw [write_obj level h]; rfl, rfl, by decide⟩

theorem exists_head_itemsChars (level : Nat) {items : List Json} (hne : items ≠ [])
    (hitems : AreCanonical items) : ∃ c t, itemsChars level items = c :: t ∧ Opens c := by
  obtain ⟨item, rest, rfl⟩ := List.exists_cons_of_ne_nil hne
  obtain ⟨c, t, hwrite, hc⟩ := exists_head_write level hitems.1
  exact ⟨c, t ++ writeItems level rest, by rw [itemsChars, hwrite]; rfl, hc⟩

theorem exists_head_membersChars (level : Nat) {members : List (String × Json)} (hne : members ≠ []) :
    ∃ t, membersChars level members = '"' :: t := by
  obtain ⟨member, rest, rfl⟩ := List.exists_cons_of_ne_nil hne
  exact ⟨_, rfl⟩

theorem length_write_pos (level : Nat) {j : Json} (hj : j.IsCanonical) : 0 < (write level j).length := by
  obtain ⟨c, t, hwrite, -⟩ := exists_head_write level hj
  rw [hwrite]
  exact Nat.succ_pos _

mutual

/-- What is written for a tree is read as the tree. -/
theorem readTree_write : ∀ (j : Json) (level fuel : Nat) (rest : List Char), j.IsCanonical → Ends rest →
    2 * (write level j).length ≤ fuel → readTree fuel (write level j ++ rest) = some (j, rest)
  | .null, level, fuel, rest, hj, hrest, hfuel => by
    have hlength := length_write_pos level hj
    exact writesScalar_null.readTree (by omega) hrest
  | .bool b, level, fuel, rest, hj, hrest, hfuel => by
    have hlength := length_write_pos level hj
    exact (writesScalar_bool b).readTree (by omega) hrest
  | .int n, level, fuel, rest, hj, hrest, hfuel => by
    have hlength := length_write_pos level hj
    exact (writesScalar_int n).readTree (by omega) hrest
  | .float x, level, fuel, rest, hj, hrest, hfuel => by
    have hlength := length_write_pos level hj
    exact (writesScalar_float hj).readTree (by omega) hrest
  | .str s, level, fuel, rest, hj, hrest, hfuel => by
    have hlength := length_write_pos level hj
    exact readTree_writeText s (by omega) rest
  | .arr items, level, fuel, rest, hj, hrest, hfuel => by
    have hlength := length_write_pos level hj
    obtain ⟨fuel, rfl⟩ := Nat.exists_eq_succ_of_ne_zero (by omega : fuel ≠ 0)
    by_cases hne : items = []
    · rw [hne, write]
      rfl
    · obtain ⟨c, t, hhead, hc⟩ := exists_head_itemsChars (level + 1) hne hj
      rw [write_arr level hne] at hfuel ⊢
      simp only [List.cons_append, List.append_assoc, List.length_cons, List.length_append,
        List.nil_append] at hfuel ⊢
      have hread := readItems_write items (level + 1) level fuel rest hne hj (by omega)
      have hdrop : dropGaps (newline (level + 1) ++ (itemsChars (level + 1) items ++
          (newline level ++ ']' :: rest))) = c :: (t ++ (newline level ++ ']' :: rest)) := by
        rw [dropGaps_newline, hhead, List.cons_append, dropGaps_cons hc.1]
      rw [hhead, List.cons_append] at hread
      rw [readTree_bracket fuel hdrop hc.2, hread]
      rfl
  | .obj members, level, fuel, rest, hj, hrest, hfuel => by
    have hlength := length_write_pos level hj
    obtain ⟨fuel, rfl⟩ := Nat.exists_eq_succ_of_ne_zero (by omega : fuel ≠ 0)
    by_cases hne : members = []
    · rw [hne, write]
      rfl
    · obtain ⟨t, hhead⟩ := exists_head_membersChars (level + 1) hne
      rw [write_obj level hne] at hfuel ⊢
      simp only [List.cons_append, List.append_assoc, List.length_cons, List.length_append,
        List.nil_append] at hfuel ⊢
      have hread := readMembers_write members (level + 1) level fuel rest hne hj (by omega)
      have hdrop : dropGaps (newline (level + 1) ++ (membersChars (level + 1) members ++
          (newline level ++ '\x7d' :: rest))) = '"' :: (t ++ (newline level ++ '\x7d' :: rest)) := by
        rw [dropGaps_newline, hhead, List.cons_append, dropGaps_cons rfl]
      rw [hhead, List.cons_append] at hread
      rw [readTree_brace fuel hdrop (by decide), hread]
      rfl

/-- What is written for the items of a list is read as the items. -/
theorem readItems_write : ∀ (items : List Json) (level outer fuel : Nat) (rest : List Char), items ≠ [] →
    AreCanonical items → 2 * (itemsChars level items).length < fuel →
    readItems fuel (itemsChars level items ++ (newline outer ++ ']' :: rest)) = some (items, rest)
  | [], _, _, _, _, hne, _, _ => absurd rfl hne
  | item :: items, level, outer, fuel, rest, _, hitems, hfuel => by
    obtain ⟨fuel, rfl⟩ := Nat.exists_eq_succ_of_ne_zero (by omega : fuel ≠ 0)
    rw [itemsChars, List.length_append] at hfuel
    rw [itemsChars, List.append_assoc, readItems]
    by_cases hne : items = []
    · subst hne
      rw [writeItems, List.nil_append, readTree_write item level fuel _ hitems.1
        (ends_newline outer (']' :: rest)) (by omega)]
      simp only [Option.bind_eq_bind, Option.bind_some]
      rw [dropGaps_newline, dropGaps_cons rfl]
      rfl
    · obtain ⟨c, t, hhead, hc⟩ := exists_head_itemsChars level hne hitems.2
      rw [writeItems_eq level hne] at hfuel ⊢
      simp only [List.cons_append, List.append_assoc, List.length_cons, List.length_append] at hfuel ⊢
      have hread := readItems_write items level outer fuel rest hne hitems.2 (by omega)
      rw [readTree_write item level fuel _ hitems.1 (ends_cons rfl _) (by omega)]
      simp only [Option.bind_eq_bind, Option.bind_some]
      rw [dropGaps_cons rfl]
      simp only
      rw [dropGaps_newline, hhead, List.cons_append, dropGaps_cons hc.1, ← List.cons_append, ← hhead, hread]
      rfl

/-- What is written for the members of an object is read as the members. -/
theorem readMembers_write : ∀ (members : List (String × Json)) (level outer fuel : Nat)
    (rest : List Char), members ≠ [] → HaveCanonical members →
    2 * (membersChars level members).length < fuel →
    readMembers fuel (membersChars level members ++ (newline outer ++ '\x7d' :: rest)) =
      some (members, rest)
  | [], _, _, _, _, hne, _, _ => absurd rfl hne
  | (key, item) :: members, level, outer, fuel, rest, _, hmembers, hfuel => by
    obtain ⟨fuel, rfl⟩ := Nat.exists_eq_succ_of_ne_zero (by omega : fuel ≠ 0)
    obtain ⟨c, t, hitem, hc⟩ := exists_head_write level hmembers.1
    rw [membersChars] at hfuel ⊢
    simp only [List.cons_append, List.append_assoc, List.length_cons, List.length_append] at hfuel ⊢
    obtain ⟨text, htext, hkey⟩ := readChars_writeText key (':' :: ' ' :: (write level item ++
      (writeMembers level members ++ (newline outer ++ '\x7d' :: rest))))
    have hgap (s : List Char) : dropGaps (' ' :: (write level item ++ s)) = write level item ++ s := by
      rw [hitem, List.cons_append]
      exact dropGaps_cons hc.1 _
    rw [htext, readMembers, hkey]
    simp only [Option.bind_eq_bind, Option.bind_some]
    rw [dropGaps_cons rfl]
    simp only
    rw [hgap]
    by_cases hne : members = []
    · subst hne
      rw [writeMembers, List.nil_append, readTree_write item level fuel _ hmembers.1
        (ends_newline outer ('\x7d' :: rest)) (by omega)]
      simp only [Option.bind_some]
      rw [dropGaps_newline, dropGaps_cons rfl]
      simp
    · obtain ⟨t, hhead⟩ := exists_head_membersChars level hne
      rw [writeMembers_eq level hne] at hfuel ⊢
      simp only [List.cons_append, List.append_assoc, List.length_cons, List.length_append] at hfuel ⊢
      have hread := readMembers_write members level outer fuel rest hne hmembers.2 (by omega)
      rw [readTree_write item level fuel _ hmembers.1 (ends_cons rfl _) (by omega)]
      simp only [Option.bind_some]
      rw [dropGaps_cons rfl]
      simp only
      rw [dropGaps_newline, hhead, List.cons_append, dropGaps_cons rfl, ← List.cons_append, ← hhead, hread]
      simp

end

/-- The text of a tree, and a line end after it, is read as the tree. -/
theorem read?_text {j : Json} (hj : j.IsCanonical) : read? (j.text ++ "\n").toList = some j := by
  obtain ⟨c, t, hwrite, hc⟩ := exists_head_write 0 hj
  have hchars : (j.text ++ "\n").toList = write 0 j ++ ['\n'] := by
    rw [String.toList_append, text, String.toList_ofList]
    rfl
  have hlength : 2 * (write 0 j).length ≤ 2 * (write 0 j ++ ['\n']).length + 1 := by
    rw [List.length_append]
    omega
  have hdrop : dropGaps (write 0 j ++ ['\n']) = write 0 j ++ ['\n'] := by
    rw [hwrite, List.cons_append]
    exact dropGaps_cons hc.1 _
  rw [hchars, read?, hdrop, readTree_write j 0 _ ['\n'] hj (ends_cons rfl []) hlength]
  rfl

end PromptTemplates.Json
