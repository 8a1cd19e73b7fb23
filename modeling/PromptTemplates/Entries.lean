/-!
# Tables in order of insertion

A table is the list of its entries, in the order in which their keys were first inserted. Inserting
under a key that is present keeps its place and replaces its value.
-/

namespace PromptTemplates

/-- A table from `κ` to `α`. -/
abbrev Entries (κ α : Type) := List (κ × α)

namespace Entries

variable {κ α : Type} [BEq κ]

/-- The value under a key. -/
def get? (key : κ) : Entries κ α → Option α
  | [] => none
  | (k, v) :: rest => if k == key then some v else get? key rest

/-- Whether the key is present. -/
def has (key : κ) (table : Entries κ α) : Bool := (get? key table).isSome

/-- Puts a value under a key. -/
def put (key : κ) (value : α) : Entries κ α → Entries κ α
  | [] => [(key, value)]
  | (k, v) :: rest => if k == key then (k, value) :: rest else (k, v) :: put key value rest

/-- Removes the entry of a key. -/
def erase (key : κ) (table : Entries κ α) : Entries κ α := table.filter fun entry => !(entry.1 == key)

/-- Puts the entries of `upper` one after the other into `lower`. -/
def putAll (lower upper : Entries κ α) : Entries κ α :=
  upper.foldl (fun table entry => put entry.1 entry.2 table) lower

/-- The table that results from inserting the entries one after the other. -/
def ofPairs (pairs : List (κ × α)) : Entries κ α := putAll [] pairs

/-- The keys in order. -/
def keys (table : Entries κ α) : List κ := table.map (·.1)

@[simp] theorem get?_nil (key : κ) : get? key ([] : Entries κ α) = none := rfl

theorem get?_cons (key : κ) (entry : κ × α) (rest : Entries κ α) :
    get? key (entry :: rest) = if entry.1 == key then some entry.2 else get? key rest := rfl

theorem put_nil (key : κ) (value : α) : put key value ([] : Entries κ α) = [(key, value)] := rfl

theorem put_cons (key : κ) (value : α) (entry : κ × α) (rest : Entries κ α) :
    put key value (entry :: rest) =
      if entry.1 == key then (entry.1, value) :: rest else entry :: put key value rest := rfl

@[simp] theorem get?_put [LawfulBEq κ] (key other : κ) (value : α) (table : Entries κ α) :
    get? other (put key value table) = if key == other then some value else get? other table := by
  induction table with
  | nil => rfl
  | cons entry rest ih => grind [put_cons, get?_cons]

theorem get?_eq_none_iff [LawfulBEq κ] {key : κ} {table : Entries κ α} :
    get? key table = none ↔ key ∉ keys table := by
  induction table with
  | nil => simp [keys]
  | cons entry rest ih => grind [get?_cons, keys]

/-- A new key comes last. -/
theorem keys_put_of_absent [LawfulBEq κ] {key : κ} (value : α) {table : Entries κ α}
    (h : get? key table = none) : keys (put key value table) = keys table ++ [key] := by
  induction table with
  | nil => rfl
  | cons entry rest ih => grind [put_cons, get?_cons, keys]

theorem get?_filter [LawfulBEq κ] (q : κ → Bool) (key : κ) (table : Entries κ α) :
    get? key (table.filter fun entry => q entry.1) = if q key then get? key table else none := by
  induction table with
  | nil => simp
  | cons entry rest ih => grind [get?_cons]

theorem get?_erase [LawfulBEq κ] (key other : κ) (table : Entries κ α) :
    get? other (erase key table) = if key == other then none else get? other table := by
  rw [erase, get?_filter fun k => !(k == key)]
  by_cases h : key = other
  · simp [h]
  · simp [h, Ne.symm h]

theorem mem_of_get? [LawfulBEq κ] {key : κ} {value : α} {table : Entries κ α}
    (h : get? key table = some value) : (key, value) ∈ table := by
  induction table with
  | nil => simp at h
  | cons entry rest ih => grind [get?_cons]

/-- Where no key occurs twice, every entry is found. -/
theorem get?_of_mem [LawfulBEq κ] {key : κ} {value : α} {table : Entries κ α}
    (hkeys : (keys table).Nodup) (h : (key, value) ∈ table) : get? key table = some value := by
  induction table with
  | nil => simp at h
  | cons entry rest ih =>
    obtain ⟨hhead, hrest⟩ := List.nodup_cons.mp hkeys
    rcases List.mem_cons.mp h with rfl | h
    · simp [get?_cons]
    · have hne : entry.1 ≠ key := by
        rintro rfl
        exact hhead (List.mem_map.mpr ⟨_, h, rfl⟩)
      simp [get?_cons, hne, ih hrest h]

theorem mem_put [LawfulBEq κ] {key : κ} {value : α} {table : Entries κ α} {entry : κ × α}
    (h : entry ∈ put key value table) : entry = (key, value) ∨ entry ∈ table := by
  induction table with
  | nil => simpa [put_nil] using h
  | cons first rest ih => grind [put_cons]

/-- The entries of a table come from one of the two that it was made of. -/
theorem mem_putAll [LawfulBEq κ] {lower upper : Entries κ α} {entry : κ × α}
    (h : entry ∈ putAll lower upper) : entry ∈ lower ∨ entry ∈ upper := by
  induction upper generalizing lower with
  | nil => exact .inl h
  | cons first rest ih =>
    rcases ih (show entry ∈ putAll (put first.1 first.2 lower) rest from h) with hput | hrest
    · rcases mem_put hput with rfl | hlower
      · exact .inr List.mem_cons_self
      · exact .inl hlower
    · exact .inr (List.mem_cons_of_mem first hrest)

theorem get?_putAll_of_absent [LawfulBEq κ] {key : κ} {lower upper : Entries κ α}
    (h : key ∉ keys upper) : get? key (putAll lower upper) = get? key lower := by
  induction upper generalizing lower with
  | nil => rfl
  | cons first rest ih =>
    obtain ⟨hfirst, hrest⟩ : key ≠ first.1 ∧ key ∉ keys rest := by simpa [keys] using h
    change get? key (putAll (put first.1 first.2 lower) rest) = _
    rw [ih hrest, get?_put, if_neg (by simpa using hfirst.symm)]

end Entries

end PromptTemplates
