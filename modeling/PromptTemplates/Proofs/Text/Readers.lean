import PromptTemplates.Text.Reader

/-!
# What readers yield

What holds of all that a reader can read is shown rule by rule, in the way the reader is built. A rule
also keeps track of the characters of the text: when all of them have some property, so have those that
are left over, and what is read is made of such characters only.
-/

namespace PromptTemplates.Reader

variable {α β : Type} {q : Char → Prop} {P Q : α → Prop}

/-- From a text of characters that satisfy `q`, the reader reads only what satisfies `P`, and leaves a
text of such characters. -/
def Yields (q : Char → Prop) (P : α → Prop) (r : Reader α) : Prop :=
  ∀ s, (∀ c ∈ s, q c) → ∀ a rest, (r s).result = some (a, rest) → P a ∧ ∀ c ∈ rest, q c

/-- A reader that is anything but particular. -/
abbrev Stays (q : Char → Prop) (r : Reader α) : Prop := Yields q (fun _ => True) r

namespace Yields

theorem mono {r : Reader α} (h : Yields q P r) (hPQ : ∀ a, P a → Q a) : Yields q Q r :=
  fun s hs a rest hr => ⟨hPQ a (h s hs a rest hr).1, (h s hs a rest hr).2⟩

theorem stays {r : Reader α} (h : Yields q P r) : Stays q r := h.mono fun _ _ => trivial

theorem any (r : Reader α) : Stays (fun _ => True) r :=
  fun _ _ _ _ _ => ⟨trivial, fun _ _ => trivial⟩

theorem succeed {a : α} (h : P a) : Yields q P (succeed a) := by
  rintro s hs b rest ⟨⟩
  exact ⟨h, hs⟩

theorem pure {a : α} (h : P a) : Yields q P (Pure.pure a : Reader α) := succeed h

theorem fail : Yields q P (fail : Reader α) := by
  rintro s hs a rest ⟨⟩

theorem bind {R : β → Prop} {r : Reader α} {f : α → Reader β} (hr : Yields q P r)
    (hf : ∀ a, P a → Yields q R (f a)) : Yields q R (r >>= f) := by
  intro s hs b rest hb
  change (andThen r f s).result = some (b, rest) at hb
  unfold andThen at hb
  rcases hread : r s with ⟨_ | ⟨a, left⟩, saw⟩
  · rw [hread] at hb
    cases hb
  · rw [hread] at hb
    obtain ⟨ha, hleft⟩ := hr s hs a left (by rw [hread])
    exact hf a ha left hleft b rest hb

/-- What is read first does not matter. -/
theorem after {R : β → Prop} {r : Reader α} {f : α → Reader β} (hr : Stays q r)
    (hf : ∀ a, Yields q R (f a)) : Yields q R (r >>= f) :=
  bind hr fun a _ => hf a

/-- Where the characters are of no interest, only the last part of what is read matters. -/
theorem last {R : β → Prop} {r : Reader α} {f : α → Reader β}
    (hf : ∀ a, Yields (fun _ => True) R (f a)) : Yields (fun _ => True) R (r >>= f) :=
  after (any r) hf

theorem orElse {r other : Reader α} (hr : Yields q P r) (hother : Yields q P other) :
    Yields q P (orElse r other) := by
  intro s hs a rest h
  unfold Reader.orElse at h
  rcases hread : r s with ⟨_ | found, saw⟩
  · rw [hread] at h
    exact hother s hs a rest h
  · rw [hread] at h
    exact hr s hs a rest (by rw [hread]; exact h)

theorem firstOf {readers : List (Reader α)} (h : ∀ r ∈ readers, Yields q P r) :
    Yields q P (firstOf readers) := by
  induction readers with
  | nil => exact fail
  | cons r rest ih =>
    exact orElse (h r List.mem_cons_self) (ih fun r' hr' => h r' (List.mem_cons_of_mem r hr'))

theorem absent (r : Reader β) : Stays q (absent r) := by
  intro s hs a rest h
  unfold Reader.absent at h
  rcases hread : r s with ⟨_ | found, saw⟩
  · rw [hread] at h
    cases h
    exact ⟨trivial, hs⟩
  · rw [hread] at h
    cases h

theorem token (t : List Char) : Stays q (token t) := by
  intro s hs a rest h
  obtain ⟨left, hleft, hpair⟩ := Option.map_eq_some_iff.mp h
  cases hpair
  obtain rfl := Text.after?_eq_some_iff.mp hleft
  exact ⟨trivial, fun c hc => hs c (List.mem_append_right t hc)⟩

theorem look : Stays q look := by
  rintro s hs a rest ⟨⟩
  exact ⟨trivial, hs⟩

theorem optionOf (cs : List Char) : Stays q (optionOf cs) := by
  intro s hs a rest h
  unfold Reader.optionOf at h
  split at h
  · cases h
    exact ⟨trivial, hs⟩
  · next d left =>
    cases h
    refine ⟨trivial, fun c hc => ?_⟩
    split at hc
    · exact hs c (List.mem_cons_of_mem d hc)
    · exact hs c hc

theorem option (c : Char) : Stays q (option c) := optionOf [c]

theorem run (p : Char → Bool) : Yields q (fun cs => ∀ c ∈ cs, q c) (run p) := by
  rintro s hs a rest ⟨⟩
  exact ⟨fun c hc => hs c ((List.takeWhile_sublist p).subset hc),
    fun c hc => hs c ((List.dropWhile_sublist p).subset hc)⟩

theorem run1 (p : Char → Bool) : Yields q (fun cs => ∀ c ∈ cs, q c) (run1 p) := by
  intro s hs a rest h
  unfold Reader.run1 at h
  split at h
  · cases h
  · next hfront =>
    cases h
    exact ⟨fun c hc => hs c ((List.takeWhile_sublist p).subset hc),
      fun c hc => hs c ((List.dropWhile_sublist p).subset hc)⟩

theorem one (p : Char → Bool) : Yields q q (one p) := by
  intro s hs a rest h
  unfold Reader.one at h
  split at h
  · cases h
  · next c left =>
    split at h
    · cases h
      exact List.forall_mem_cons.mp hs
    · cases h

theorem upTo (stop : Reader β) : Yields q (fun cs => ∀ c ∈ cs, q c) (upTo stop) := by
  intro s
  induction s with
  | nil =>
    rintro - a rest ⟨⟩
    exact ⟨by simp, by simp⟩
  | cons c left ih =>
    intro hs a rest h
    unfold Reader.upTo at h
    split at h
    · cases h
      exact ⟨by simp, hs⟩
    · split at h
      · next cs left' saw hmore =>
        obtain ⟨hc, hleft⟩ := List.forall_mem_cons.mp hs
        obtain ⟨hcs, hrest⟩ := ih hleft cs left' (by rw [hmore])
        cases h
        exact ⟨List.forall_mem_cons.mpr ⟨hc, hcs⟩, hrest⟩
      · cases h

theorem many {r : Reader α} (h : Yields q P r) (fuel : Nat) :
    Yields q (fun items => ∀ a ∈ items, P a) (many r fuel) := by
  induction fuel with
  | zero => exact succeed (by simp)
  | succ fuel ih =>
    refine orElse (h.bind fun a ha => ih.bind fun items hitems => ?_) (look.after fun _ => ?_)
    · exact pure (List.forall_mem_cons.mpr ⟨ha, hitems⟩)
    · exact pure (by simp)

end Yields

end PromptTemplates.Reader
