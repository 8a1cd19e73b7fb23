import PromptTemplates.Value.Key

/-!
# Tables with texts as keys

Values have no equality that two equal values could be exchanged by, but texts have: what is found under
a text has that text as its key. A table of settings has different texts as keys, and this is kept when
entries are put into it or taken out.
-/

namespace PromptTemplates

namespace Value

theorem isSame_str_iff {s : String} {v : Value} : isSame v (.str s) = true ↔ v = .str s := by
  cases v with
  | str t => simp [isSame]
  | _ => simp [isSame, ratio?]

theorem beq_str_iff {s : String} {v : Value} : (v == Value.str s) = true ↔ v = .str s := isSame_str_iff

theorem beq_str_eq_false {s : String} {v : Value} (h : v ≠ .str s) : (v == Value.str s) = false :=
  Bool.eq_false_iff.mpr fun heq => h (beq_str_iff.mp heq)

variable {key other : String} {value v : Value} {table : List (Value × Value)}

@[simp] theorem entry?_nil : entry? key [] = none := rfl

@[simp] theorem entry?_cons_str : entry? key ((.str other, value) :: table) =
    if other = key then some value else entry? key table := by
  simp only [Value.entry?, Entries.get?_cons, beq_str_iff, str.injEq]

theorem entry?_cons_of_ne {k : Value} (h : k ≠ .str key) :
    entry? key ((k, value) :: table) = entry? key table := by
  simp only [Value.entry?, Entries.get?_cons, beq_str_eq_false h, Bool.false_eq_true, if_false]

@[simp] theorem put_cons_str : Entries.put (.str key) value ((.str key, v) :: table) =
    (.str key, value) :: table := by
  rw [Entries.put_cons, if_pos (beq_str_iff.mpr rfl)]

theorem put_cons_of_ne {k : Value} (h : k ≠ .str key) :
    Entries.put (.str key) value ((k, v) :: table) = (k, v) :: Entries.put (.str key) value table := by
  rw [Entries.put_cons, beq_str_eq_false h]
  rfl

@[simp] theorem erase_cons_str :
    Entries.erase (.str key) ((.str key, v) :: table) = Entries.erase (.str key) table := by
  rw [Entries.erase, List.filter_cons_of_neg (by simp [beq_str_iff])]
  rfl

theorem erase_cons_of_ne {k : Value} (h : k ≠ .str key) :
    Entries.erase (.str key) ((k, v) :: table) = (k, v) :: Entries.erase (.str key) table := by
  rw [Entries.erase, List.filter_cons_of_pos (by simp [beq_str_eq_false h])]
  rfl

@[simp] theorem entry?_put : entry? other (Entries.put (.str key) value table) =
    if key = other then some value else entry? other table := by
  induction table with
  | nil => exact entry?_cons_str
  | cons entry rest ih =>
    obtain ⟨k, w⟩ := entry
    by_cases hkey : k = .str key
    · subst hkey
      rw [put_cons_str, entry?_cons_str, entry?_cons_str]
      split <;> rfl
    · rw [put_cons_of_ne hkey]
      by_cases hother : k = .str other
      · subst hother
        have hne : key ≠ other := fun h => hkey (by rw [h])
        rw [entry?_cons_str, entry?_cons_str, if_neg hne, if_pos rfl, if_pos rfl]
      · rw [entry?_cons_of_ne hother, entry?_cons_of_ne hother, ih]

@[simp] theorem entry?_erase : entry? other (Entries.erase (.str key) table) =
    if key = other then none else entry? other table := by
  induction table with
  | nil => exact (ite_self none).symm
  | cons entry rest ih =>
    obtain ⟨k, w⟩ := entry
    by_cases hkey : k = .str key
    · subst hkey
      rw [erase_cons_str, ih, entry?_cons_str]
      split <;> rfl
    · rw [erase_cons_of_ne hkey]
      by_cases hother : k = .str other
      · subst hother
        have hne : key ≠ other := fun h => hkey (by rw [h])
        rw [entry?_cons_str, entry?_cons_str, if_neg hne, if_pos rfl, if_pos rfl]
      · rw [entry?_cons_of_ne hother, entry?_cons_of_ne hother, ih]

theorem mem_of_found (h : entry? key table = some value) : (.str key, value) ∈ table := by
  induction table with
  | nil => cases h
  | cons entry rest ih =>
    obtain ⟨k, w⟩ := entry
    by_cases hkey : k = .str key
    · subst hkey
      rw [entry?_cons_str, if_pos rfl] at h
      cases h
      exact List.mem_cons_self
    · rw [entry?_cons_of_ne hkey] at h
      exact List.mem_cons_of_mem _ (ih h)

/-- Entries under a new key come last. -/
theorem put_of_absent (h : entry? key table = none) :
    Entries.put (.str key) value table = table ++ [(.str key, value)] := by
  induction table with
  | nil => rfl
  | cons entry rest ih =>
    obtain ⟨k, w⟩ := entry
    by_cases hkey : k = .str key
    · subst hkey
      rw [entry?_cons_str, if_pos rfl] at h
      cases h
    · rw [entry?_cons_of_ne hkey] at h
      rw [put_cons_of_ne hkey, ih h, List.cons_append]

theorem mem_put {k w : Value} (h : (k, w) ∈ Entries.put (.str key) value table) :
    w = value ∨ (k, w) ∈ table := by
  induction table with
  | nil =>
    cases List.mem_singleton.mp h
    exact .inl rfl
  | cons entry rest ih =>
    obtain ⟨k', w'⟩ := entry
    by_cases hkey : k' = .str key
    · subst hkey
      rw [put_cons_str] at h
      rcases List.mem_cons.mp h with heq | h
      · cases heq
        exact .inl rfl
      · exact .inr (List.mem_cons_of_mem _ h)
    · rw [put_cons_of_ne hkey] at h
      rcases List.mem_cons.mp h with heq | h
      · exact .inr (heq ▸ List.mem_cons_self)
      · exact (ih h).imp_right (List.mem_cons_of_mem _)

/-- The table has different texts as keys. -/
inductive IsTable : List (Value × Value) → Prop
  | nil : IsTable []
  | cons {name value rest} : entry? name rest = none → IsTable rest →
      IsTable ((.str name, value) :: rest)

namespace IsTable

theorem put (h : IsTable table) : IsTable (Entries.put (.str key) value table) := by
  induction h with
  | nil => exact cons rfl nil
  | @cons name w rest hname hrest ih =>
    by_cases hkey : Value.str name = .str key
    · cases hkey
      rw [put_cons_str]
      exact cons hname hrest
    · rw [put_cons_of_ne hkey]
      exact cons (by rw [entry?_put, if_neg fun h => hkey (by rw [h]), hname]) ih

theorem erase (h : IsTable table) : IsTable (Entries.erase (.str key) table) := by
  induction h with
  | nil => exact nil
  | @cons name w rest hname hrest ih =>
    by_cases hkey : Value.str name = .str key
    · cases hkey
      rw [erase_cons_str]
      exact ih
    · rw [erase_cons_of_ne hkey]
      exact cons (by rw [entry?_erase, hname, ite_self]) ih

/-- In a table every entry is found. -/
theorem found_of_mem {k : Value} (h : IsTable table) (hmem : (k, value) ∈ table) :
    ∃ name, k = .str name ∧ Value.entry? name table = some value := by
  induction h with
  | nil => cases hmem
  | @cons name w rest hname hrest ih =>
    rcases List.mem_cons.mp hmem with heq | hmem
    · cases heq
      exact ⟨name, rfl, by rw [entry?_cons_str, if_pos rfl]⟩
    · obtain ⟨name', rfl, hfound⟩ := ih hmem
      refine ⟨name', rfl, ?_⟩
      rw [entry?_cons_str, if_neg, hfound]
      rintro rfl
      rw [hfound] at hname
      cases hname

theorem putAll {upper : List (Value × Value)} (hlower : IsTable table) (hupper : IsTable upper) :
    IsTable (Entries.putAll table upper) := by
  induction hupper generalizing table with
  | nil => exact hlower
  | cons hname hrest ih => exact ih hlower.put

end IsTable

/-- The upper table goes before the lower one. -/
theorem entry?_putAll {upper : List (Value × Value)} (hupper : IsTable upper) :
    entry? key (Entries.putAll table upper) = (Value.entry? key upper <|> entry? key table) := by
  induction hupper generalizing table with
  | nil => rfl
  | @cons name w rest hname hrest ih =>
    change entry? key (Entries.putAll (Entries.put (.str name) w table) rest) = _
    rw [ih, entry?_put, entry?_cons_str]
    split
    · next hkey =>
      subst hkey
      rw [hname]
      rfl
    · rfl

/-- Entries whose keys are texts. -/
def textEntries (pairs : List (String × Value)) : List (Value × Value) :=
  pairs.map fun (name, v) => (.str name, v)

theorem textEntries_put {fields : Entries String Value} :
    textEntries (Entries.put key value fields) = Entries.put (.str key) value (textEntries fields) := by
  induction fields with
  | nil => rfl
  | cons field rest ih =>
    obtain ⟨name, w⟩ := field
    change textEntries (if name == key then _ else _) = Entries.put _ _ ((.str name, w) :: textEntries rest)
    by_cases hname : name = key
    · subst hname
      rw [put_cons_str, if_pos (by simp)]
      rfl
    · rw [put_cons_of_ne (by simpa using hname), if_neg (by simpa using hname), ← ih]
      rfl

theorem textEntries_putAll {lower upper : Entries String Value} :
    textEntries (Entries.putAll lower upper) =
      Entries.putAll (textEntries lower) (textEntries upper) := by
  induction upper generalizing lower with
  | nil => rfl
  | cons field rest ih =>
    change textEntries (Entries.putAll (Entries.put field.1 field.2 lower) rest) =
      Entries.putAll (Entries.put (.str field.1) field.2 (textEntries lower)) (textEntries rest)
    rw [ih, textEntries_put]

theorem IsTable.putAll_textEntries {pairs : List (String × Value)} (h : IsTable table) :
    IsTable (Entries.putAll table (textEntries pairs)) := by
  induction pairs generalizing table with
  | nil => exact h
  | cons pair rest ih => exact ih h.put

/-- Of several entries with one key the last counts. -/
theorem entry?_putAll_textEntries {pairs : List (String × Value)} :
    entry? key (Entries.putAll table (textEntries pairs)) =
      (pairs.reverse.lookup key <|> Value.entry? key table) := by
  induction pairs generalizing table with
  | nil => rfl
  | cons pair rest ih =>
    obtain ⟨name, w⟩ := pair
    change entry? key (Entries.putAll (Entries.put (.str name) w table) (textEntries rest)) = _
    rw [ih, entry?_put, List.reverse_cons, List.lookup_append]
    cases rest.reverse.lookup key with
    | some found => rfl
    | none =>
      by_cases hname : name = key
      · subst hname
        simp
      · have hne : (key == name) = false := by simpa using Ne.symm hname
        rw [if_neg hname, List.lookup_cons, hne]
        rfl

/-- A value that is neither a mapping nor a list. -/
def IsPlain : Value → Prop
  | .map _ => False
  | .list _ => False
  | _ => True

/-- All mappings in a value, as far as it consists of mappings and lists, have different texts as
keys. -/
inductive IsTabular : Value → Prop
  | plain {atom} : IsPlain atom → IsTabular atom
  | list {items} : (∀ item ∈ items, IsTabular item) → IsTabular (.list items)
  | map {entries} : IsTable entries → (∀ k w, (k, w) ∈ entries → IsTabular w) →
      IsTabular (.map entries)

namespace IsTabular

theorem isTable (h : IsTabular (.map table)) : IsTable table := by
  cases h with
  | plain h => exact h.elim
  | map htable _ => exact htable

theorem of_mem {k : Value} (h : IsTabular (.map table)) (hmem : (k, v) ∈ table) : IsTabular v := by
  cases h with
  | plain h => exact h.elim
  | map _ hvalues => exact hvalues k v hmem

theorem of_found (h : IsTabular (.map table)) (hkey : entry? key table = some v) : IsTabular v :=
  h.of_mem (mem_of_found hkey)

theorem of_item {items : List Value} (h : IsTabular (.list items)) (hmem : v ∈ items) :
    IsTabular v := by
  cases h with
  | plain h => exact h.elim
  | list hitems => exact hitems v hmem

theorem empty : IsTabular (.map []) := map .nil fun _ _ h => absurd h List.not_mem_nil

theorem put (h : IsTabular (.map table)) (hvalue : IsTabular value) :
    IsTabular (.map (Entries.put (.str key) value table)) := by
  refine map h.isTable.put fun k w hmem => ?_
  rcases mem_put hmem with rfl | hmem
  · exact hvalue
  · exact h.of_mem hmem

end IsTabular

end Value

end PromptTemplates
