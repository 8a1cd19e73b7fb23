import PromptTemplates.Entries

/-!
# Tables whose keys are compared consistently

A table keeps the order in which its keys came, also when another table is put on top of it. If the
comparison of the keys is symmetric and transitive, and no key occurs twice in a table, then it does not
matter in which order three tables are put on top of one another, and a key stands for what the highest
of the tables that have it says.
-/

namespace PromptTemplates.Entries

variable {κ α : Type} [BEq κ] {P : κ → Prop} {key other : κ} {value v : α}
  {table lower middle upper : Entries κ α}

/-- Among certain keys, the comparison is symmetric and transitive. A key need not equal itself. -/
structure Consistent (P : κ → Prop) : Prop where
  symm : ∀ {a b}, P a → P b → (a == b) = true → (b == a) = true
  trans : ∀ {a b c}, P a → P b → P c → (a == b) = true → (b == c) = true → (a == c) = true

/-- The keys of a table are of a certain kind. -/
def Among (P : κ → Prop) (table : Entries κ α) : Prop := ∀ entry ∈ table, P entry.1

/-- No key of a table occurs twice. -/
def Distinct (table : Entries κ α) : Prop :=
  table.Pairwise fun entry next => (entry.1 == next.1) = false

theorem consistent_of_lawful [LawfulBEq κ] (P : κ → Prop) : Consistent P where
  symm _ _ h := by
    rw [eq_of_beq h]
    exact beq_self_eq_true _
  trans _ _ _ h h' := by rwa [eq_of_beq h]

theorem distinct_of_nodup [LawfulBEq κ] (h : (keys table).Nodup) : Distinct table := by
  unfold keys List.Nodup at h
  rw [List.pairwise_map] at h
  exact h.imp fun hne => beq_eq_false_iff_ne.mpr hne

/-- Keys that equal one another are compared alike with every other key. -/
theorem Consistent.congr (hP : Consistent P) {a b c : κ} (ha : P a) (hb : P b) (hc : P c)
    (h : (a == b) = true) : (a == c) = (b == c) := by
  rw [Bool.eq_iff_iff]
  exact ⟨hP.trans hb ha hc (hP.symm ha hb h), hP.trans ha hb hc h⟩

theorem Consistent.comm (hP : Consistent P) {a b : κ} (ha : P a) (hb : P b) : (a == b) = (b == a) := by
  rw [Bool.eq_iff_iff]
  exact ⟨hP.symm ha hb, hP.symm hb ha⟩

/-- Keys that differ from a key differ from all that it equals. -/
theorem Consistent.forall_ne (hP : Consistent P) (hkey : P key) (hother : P other)
    (htable : Among P table) (hsame : (key == other) = true)
    (hne : ∀ entry ∈ table, (key == entry.1) = false) :
    ∀ entry ∈ table, (entry.1 == other) = false := by
  intro entry hentry
  rw [hP.comm (htable entry hentry) hother, ← hP.congr hkey hother (htable entry hentry) hsame]
  exact hne entry hentry

/-! ## One entry -/

theorem Among.put (hkey : P key) (h : Among P table) : Among P (put key value table) := by
  induction table with
  | nil => simpa [Among, put_nil] using hkey
  | cons entry rest ih =>
    obtain ⟨k, w⟩ := entry
    obtain ⟨hk, hrest⟩ := List.forall_mem_cons.mp h
    rw [put_cons]
    split
    · exact List.forall_mem_cons.mpr ⟨hk, hrest⟩
    · exact List.forall_mem_cons.mpr ⟨hk, ih hrest⟩

/-- What differs from the keys of a table and from a new key, differs from all keys with the new one. -/
theorem forall_ne_put (h : ∀ entry ∈ table, (other == entry.1) = false) (hkey : (other == key) = false) :
    ∀ entry ∈ put key value table, (other == entry.1) = false := by
  induction table with
  | nil => simpa [put_nil] using hkey
  | cons entry rest ih =>
    obtain ⟨k, w⟩ := entry
    obtain ⟨hk, hrest⟩ := List.forall_mem_cons.mp h
    rw [put_cons]
    split
    · exact List.forall_mem_cons.mpr ⟨hk, hrest⟩
    · exact List.forall_mem_cons.mpr ⟨hk, ih hrest⟩

theorem Distinct.put (h : Distinct table) : Distinct (put key value table) := by
  induction table with
  | nil => exact List.pairwise_singleton _ _
  | cons entry rest ih =>
    obtain ⟨k, w⟩ := entry
    obtain ⟨hk, hrest⟩ := List.pairwise_cons.mp h
    rw [put_cons]
    split
    · exact List.pairwise_cons.mpr ⟨hk, hrest⟩
    · next hne =>
      exact List.pairwise_cons.mpr ⟨forall_ne_put hk (Bool.eq_false_iff.mpr hne), ih hrest⟩

theorem get?_put_of_consistent (hP : Consistent P) (hkey : P key) (hother : P other)
    (htable : Among P table) :
    get? other (put key value table) = if key == other then some value else get? other table := by
  induction table with
  | nil => rfl
  | cons entry rest ih =>
    obtain ⟨k, w⟩ := entry
    obtain ⟨hk, hrest⟩ := List.forall_mem_cons.mp htable
    rw [put_cons]
    by_cases hsame : (k == key) = true
    · rw [if_pos hsame, get?_cons, get?_cons, hP.congr hk hkey hother hsame]
      split <;> rfl
    · rw [if_neg hsame, get?_cons, get?_cons, ih hrest]
      by_cases hfound : (k == other) = true
      · -- The key of the first entry cannot equal both of two keys that differ.
        have hne : ¬ (key == other) = true := fun h =>
          hsame (hP.trans hk hother hkey hfound (hP.symm hkey hother h))
        rw [if_pos hfound, if_pos hfound, if_neg hne]
      · rw [if_neg hfound, if_neg hfound]

/-! ## A whole table -/

theorem Among.putAll (hlower : Among P lower) (hupper : Among P upper) :
    Among P (putAll lower upper) := by
  induction upper generalizing lower with
  | nil => exact hlower
  | cons entry rest ih =>
    obtain ⟨hkey, hrest⟩ := List.forall_mem_cons.mp hupper
    exact ih (hlower.put hkey) hrest

theorem Distinct.putAll (h : Distinct lower) : Distinct (putAll lower upper) := by
  induction upper generalizing lower with
  | nil => exact h
  | cons entry rest ih => exact ih h.put

theorem get?_eq_none_of_ne (h : ∀ entry ∈ table, (entry.1 == key) = false) : get? key table = none := by
  induction table with
  | nil => rfl
  | cons entry rest ih =>
    obtain ⟨hk, hrest⟩ := List.forall_mem_cons.mp h
    rw [get?_cons, hk]
    exact ih hrest

/-- A key stands for what the upper table says, or else for what the lower one does. -/
theorem get?_putAll (hP : Consistent P) (hkey : P key) (hlower : Among P lower)
    (hupper : Among P upper) (hdistinct : Distinct upper) :
    get? key (putAll lower upper) = (get? key upper <|> get? key lower) := by
  induction upper generalizing lower with
  | nil => rfl
  | cons entry rest ih =>
    obtain ⟨k, w⟩ := entry
    obtain ⟨hk, hrest⟩ := List.forall_mem_cons.mp hupper
    obtain ⟨hne, hdistinct⟩ := List.pairwise_cons.mp hdistinct
    change get? key (putAll (put k w lower) rest) = _
    rw [ih (hlower.put hk) hrest hdistinct, get?_put_of_consistent hP hk hkey hlower, get?_cons]
    by_cases hsame : (k == key) = true
    · have habsent : get? key rest = none :=
        get?_eq_none_of_ne (hP.forall_ne hk hkey hrest hsame hne)
      rw [habsent, if_pos hsame, if_pos hsame]
      rfl
    · rw [if_neg hsame, if_neg hsame]

/-! ## Three tables -/

/-- Putting a value under a key that equals the one before it replaces that value. -/
theorem put_put_of_same (hP : Consistent P) (hkey : P key) (hother : P other) (htable : Among P table)
    (hsame : (key == other) = true) :
    put other v (put key value table) = put key v table := by
  induction table with
  | nil => simp [put_nil, put_cons, hsame]
  | cons entry rest ih =>
    obtain ⟨k, w⟩ := entry
    obtain ⟨hk, hrest⟩ := List.forall_mem_cons.mp htable
    by_cases hfound : (k == key) = true
    · have hfound' : (k == other) = true := hP.trans hk hkey hother hfound hsame
      simp [put_cons, hfound, hfound']
    · have hfound' : ¬ (k == other) = true := fun h =>
        hfound (hP.trans hk hother hkey h (hP.symm hkey hother hsame))
      simp [put_cons, hfound, hfound', ih hrest]

theorem has_cons {k : κ} {w : α} : has key ((k, w) :: table) = (k == key || has key table) := by
  unfold has
  rw [get?_cons]
  cases k == key <;> rfl

/-- A key that is present keeps its place, so another key can be put before or after it. -/
theorem put_comm (hP : Consistent P) (hkey : P key) (hother : P other) (htable : Among P table)
    (hhas : has key table = true) (hne : (other == key) = false) :
    put other v (put key value table) = put key value (put other v table) := by
  induction table with
  | nil => cases hhas
  | cons entry rest ih =>
    obtain ⟨k, w⟩ := entry
    obtain ⟨hk, hrest⟩ := List.forall_mem_cons.mp htable
    by_cases hfound : (k == key) = true
    · have hfound' : ¬ (k == other) = true := fun h => by
        rw [hP.trans hother hk hkey (hP.symm hk hother h) hfound] at hne
        cases hne
      simp [put_cons, hfound, hfound']
    · have hhas : has key rest = true := by simpa [has_cons, hfound] using hhas
      by_cases hfound' : (k == other) = true
      · simp [put_cons, hfound, hfound']
      · simp [put_cons, hfound, hfound', ih hrest hhas]

theorem has_put (hP : Consistent P) (hkey : P key) (hother : P other) (htable : Among P table)
    (h : has key table = true) : has key (put other v table) = true := by
  unfold has at *
  rw [get?_put_of_consistent hP hother hkey htable]
  split
  · rfl
  · exact h

/-- A table without a key can be put on top before or after a value under that key, if the key is
present below. -/
theorem put_putAll_of_has (hP : Consistent P) (hkey : P key) (hlower : Among P lower)
    (hupper : Among P upper) (hhas : has key lower = true)
    (hne : ∀ entry ∈ upper, (entry.1 == key) = false) :
    put key value (putAll lower upper) = putAll (put key value lower) upper := by
  induction upper generalizing lower with
  | nil => rfl
  | cons entry rest ih =>
    obtain ⟨k, w⟩ := entry
    obtain ⟨hk, hrest⟩ := List.forall_mem_cons.mp hupper
    obtain ⟨hfirst, hne⟩ := List.forall_mem_cons.mp hne
    change put key value (putAll (put k w lower) rest) = putAll (put k w (put key value lower)) rest
    rw [ih (hlower.put hk) hrest (has_put hP hkey hk hlower hhas) hne,
      put_comm hP hkey hk hlower hhas hfirst]

/-- A value that is put on top of a table reaches what the table is put on top of. -/
theorem putAll_put (hP : Consistent P) (hkey : P key) (hlower : Among P lower) (hupper : Among P upper)
    (hdistinct : Distinct upper) :
    putAll lower (put key value upper) = put key value (putAll lower upper) := by
  induction upper generalizing lower with
  | nil => rfl
  | cons entry rest ih =>
    obtain ⟨k, w⟩ := entry
    obtain ⟨hk, hrest⟩ := List.forall_mem_cons.mp hupper
    obtain ⟨hne, hdistinct⟩ := List.pairwise_cons.mp hdistinct
    by_cases hsame : (k == key) = true
    · have hput : put key value ((k, w) :: rest) = (k, value) :: rest := by simp [put_cons, hsame]
      have hhas : has key (put k w lower) = true := by
        unfold has
        rw [get?_put_of_consistent hP hk hkey hlower, if_pos hsame]
        rfl
      rw [hput]
      change putAll (put k value lower) rest = put key value (putAll (put k w lower) rest)
      rw [put_putAll_of_has hP hkey (hlower.put hk) hrest hhas (hP.forall_ne hk hkey hrest hsame hne),
        put_put_of_same hP hk hkey hlower hsame]
    · have hput : put key value ((k, w) :: rest) = (k, w) :: put key value rest := by
        simp [put_cons, hsame]
      rw [hput]
      exact ih (hlower.put hk) hrest hdistinct

/-- Of three tables, it does not matter which two are put together first. -/
theorem putAll_assoc (hP : Consistent P) (hlower : Among P lower) (hmiddle : Among P middle)
    (hupper : Among P upper) (hdistinct : Distinct middle) :
    putAll (putAll lower middle) upper = putAll lower (putAll middle upper) := by
  induction upper generalizing middle with
  | nil => rfl
  | cons entry rest ih =>
    obtain ⟨k, w⟩ := entry
    obtain ⟨hk, hrest⟩ := List.forall_mem_cons.mp hupper
    change putAll (put k w (putAll lower middle)) rest = putAll lower (putAll (put k w middle) rest)
    rw [← putAll_put hP hk hlower hmiddle hdistinct, ih (hmiddle.put hk) hrest hdistinct.put]

end PromptTemplates.Entries
