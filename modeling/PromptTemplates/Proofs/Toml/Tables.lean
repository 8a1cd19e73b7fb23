import PromptTemplates.Json.Basic
import PromptTemplates.Proofs.Text.Readers
import PromptTemplates.Proofs.Value.Tables
import PromptTemplates.Toml.Table

/-!
# Settings files have tables

Whatever a settings file says, no table of what it is read as has a key twice. Each reader yields such
values only, and each statement keeps the table as it should be. The same holds of JSON trees.
-/

namespace PromptTemplates

open Value (IsPlain IsTable IsTabular)

namespace Toml

open Reader

/-- What the reader reads satisfies `P`. -/
abbrev Makes {α : Type} (P : α → Prop) (r : Reader α) : Prop := Yields (fun _ => True) P r

/-! ## Words -/

theorem isPlain_of_timeOfDay? {s : List Char} {v : Value} (h : timeOfDay? s = some v) : IsPlain v := by
  obtain ⟨⟨seconds, rest⟩, -, h⟩ := Option.bind_eq_some_iff.mp h
  obtain ⟨t, -, rfl⟩ := Option.map_eq_some_iff.mp h
  trivial

theorem isPlain_of_time? {s : List Char} {v : Value} (h : time? s = some v) : IsPlain v := by
  obtain ⟨⟨day, rest⟩, -, h⟩ := Option.bind_eq_some_iff.mp h
  dsimp only at h
  split at h
  · obtain ⟨date, -, rfl⟩ := Option.map_eq_some_iff.mp h
    trivial
  · obtain ⟨⟨seconds, left⟩, -, h⟩ := Option.bind_eq_some_iff.mp h
    obtain ⟨moment, -, rfl⟩ := Option.map_eq_some_iff.mp h
    trivial

theorem isPlain_of_number? {s : List Char} {v : Value} (h : number? s = some v) : IsPlain v := by
  unfold number? at h
  dsimp only at h
  split at h
  · cases h
    trivial
  split at h
  · cases h
    trivial
  split at h
  · split at h
    · cases h
    · obtain ⟨x, -, rfl⟩ := Option.map_eq_some_iff.mp h
      trivial
  · obtain ⟨n, -, rfl⟩ := Option.map_eq_some_iff.mp h
    trivial

theorem isPlain_of_word? {s : List Char} {v : Value} (h : word? s = some v) : IsPlain v := by
  unfold word? at h
  split at h
  · cases h
    trivial
  split at h
  · cases h
    trivial
  simp only [Option.orElse_eq_orElse, Option.orElse_eq_or, Option.or_eq_some_iff] at h
  rcases h with h | ⟨-, h | ⟨-, h⟩⟩
  · exact isPlain_of_timeOfDay? h
  · exact isPlain_of_time? h
  · exact isPlain_of_number? h

theorem makes_word : Makes IsTabular word := by
  refine .last fun cs => ?_
  split
  · next v hv => exact .pure (.plain (isPlain_of_word? hv))
  · exact .fail

theorem makes_innerWord : Makes IsTabular innerWord := by
  intro s hs v rest h
  unfold innerWord at h
  split at h
  · split at h
    · exact makes_word _ hs v rest h
    · cases h
  · cases h

/-! ## Values -/

theorem isTabular_assign {table result : Table} {names : List String} {v : Value}
    (htable : IsTabular (.map table)) (hv : IsTabular v) (h : assign table names v = some result) :
    IsTabular (.map result) := by
  induction names generalizing table result with
  | nil => cases h
  | cons name rest ih =>
    cases rest with
    | nil =>
      rw [assign] at h
      split at h
      · cases h
      · next hhas =>
        cases h
        have habsent : Value.entry? name table = none := by simpa [Entries.has, Value.entry?] using hhas
        rw [← Value.put_of_absent habsent]
        exact htable.put hv
    | cons next rest =>
      have hput {inner inner' : Table} (hinner : IsTabular (.map inner))
          (h : assign inner (next :: rest) v = some inner') :
          IsTabular (.map (Entries.put (.str name) (.map inner') table)) := htable.put (ih hinner h)
      rw [assign] at h
      · cases hfound : Value.entry? name table with
        | none =>
          rw [hfound] at h
          obtain ⟨inner', hinner', h⟩ := Option.bind_eq_some_iff (x := assign [] _ v).mp h
          cases h
          exact hput .empty hinner'
        | some found =>
          rw [hfound] at h
          cases found with
          | map inner =>
            obtain ⟨inner', hinner', h⟩ := Option.bind_eq_some_iff (x := assign inner _ v).mp h
            cases h
            exact hput (htable.of_found hfound) hinner'
          | _ => cases h
      · simp

theorem makes_members {value : Reader Value} (hvalue : Makes IsTabular value) (fuel : Nat) :
    Makes (fun items => ∀ v ∈ items, IsTabular v) (members value fuel) := by
  induction fuel with
  | zero => exact .fail
  | succ fuel ih =>
    refine .last fun _ => .orElse ?_ (.orElse ?_ ?_)
    · exact .last fun _ => .pure (by simp)
    · exact .last fun _ => ih
    · refine hvalue.bind fun v hv => .last fun _ => .last fun _ => ih.bind fun items hitems => ?_
      exact .pure (List.forall_mem_cons.mpr ⟨hv, hitems⟩)

theorem makes_fields {value : Reader Value} (hvalue : Makes IsTabular value) (fuel : Nat)
    {table : Table} (htable : IsTabular (.map table)) :
    Makes (fun entries => IsTabular (.map entries)) (fields value fuel table) := by
  induction fuel generalizing table with
  | zero => exact .fail
  | succ fuel ih =>
    refine .last fun names => .last fun _ => .last fun _ => hvalue.bind fun v hv => .last fun _ => ?_
    split
    · exact .fail
    · next result hresult =>
      have h := isTabular_assign htable hv hresult
      exact .orElse (.last fun _ => .pure h) (.last fun _ => ih h)

theorem makes_value {word : Reader Value} (hword : Makes IsTabular word) (fuel : Nat) :
    Makes IsTabular (value word fuel) := by
  induction fuel generalizing word with
  | zero => exact .fail
  | succ fuel ih =>
    refine .firstOf fun r hr => ?_
    simp only [List.mem_cons, List.not_mem_nil, or_false] at hr
    rcases hr with rfl | rfl | rfl | rfl
    · exact .last fun s => .pure (.plain trivial)
    · refine .last fun _ => (makes_members (ih makes_word) fuel).bind fun items hitems => ?_
      split
      · exact .pure (.list hitems)
      · exact .fail
    · refine .last fun _ => .last fun _ => .orElse (.last fun _ => .pure .empty) ?_
      exact (makes_fields (ih makes_innerWord) fuel .empty).bind fun entries hentries => .pure hentries
    · exact hword

/-! ## Statements -/

/-- The values in a statement have tables with different keys. -/
def Statement.IsTabular : Statement → Prop
  | .header .. => True
  | .assign _ v => v.IsTabular

theorem makes_statement : Makes Statement.IsTabular statement := by
  refine fun s => Yields.last (r := blanks) (fun _ => ?_) s
  have hfound : Makes Statement.IsTabular (firstOf [header true, header false, do
      let names ← dotted keyPart
      token ['=']
      blanks
      return .assign names (← value word s.length)]) := by
    refine .firstOf fun r hr => ?_
    simp only [List.mem_cons, List.not_mem_nil, or_false] at hr
    rcases hr with rfl | rfl | rfl
    · exact .last fun _ => .last fun names => .last fun _ => .pure trivial
    · exact .last fun _ => .last fun names => .last fun _ => .pure trivial
    · refine .last fun names => .last fun _ => .last fun _ => ?_
      exact (makes_value makes_word _).bind fun v hv => .pure hv
  exact hfound.bind fun found h => .last fun _ => .pure h

theorem isTabular_of_statements? {fuel : Nat} {s : List Char} {statements : List Statement}
    (h : statements? fuel s = some statements) : ∀ found ∈ statements, found.IsTabular := by
  induction fuel generalizing s statements with
  | zero => cases h
  | succ fuel ih =>
    unfold statements? at h
    split at h
    · cases h
      simp
    · split at h
      · next found left saw hread =>
        obtain ⟨more, hmore, rfl⟩ := Option.map_eq_some_iff.mp h
        have hfound := (makes_statement _ (fun _ _ => trivial) found left (by rw [hread])).1
        exact List.forall_mem_cons.mpr ⟨hfound, ih hmore⟩
      · cases h
    · cases h

/-! ## Tables -/

theorem isTabular_last {items : List Value} {last : Table} (hitems : IsTabular (.list items))
    (hlast : IsTabular (.map last)) : IsTabular (.list (items.dropLast ++ [.map last])) := by
  refine .list fun v hv => ?_
  rcases List.mem_append.mp hv with hv | hv
  · exact hitems.of_item (List.dropLast_subset items hv)
  · obtain rfl := List.mem_singleton.mp hv
    exact hlast

theorem isTabular_openOne {adds inList : Bool} {name : String} {implied implied' : List String}
    {table result : Table} (htable : IsTabular (.map table))
    (h : openTable adds [name] inList implied table = .ok (result, implied')) :
    IsTabular (.map result) := by
  rw [openTable] at h
  cases hfound : Value.entry? name table with
  | none =>
    rw [hfound] at h
    cases h
    refine htable.put ?_
    split
    · exact .list (by simpa using .empty)
    · exact .empty
  | some found =>
    rw [hfound] at h
    dsimp only at h
    split at h
    · cases h
      exact htable
    split at h
    · split at h
      · cases h
      · cases h
        exact htable
    split at h
    · split at h
      · next items =>
        cases h
        refine htable.put (.list fun v hv => ?_)
        rcases List.mem_append.mp hv with hv | hv
        · exact (htable.of_found hfound).of_item hv
        · obtain rfl := List.mem_singleton.mp hv
          exact .empty
      · cases h
    · cases h

theorem isTabular_openTable {adds inList : Bool} {names implied implied' : List String}
    {table result : Table} (htable : IsTabular (.map table))
    (h : openTable adds names inList implied table = .ok (result, implied')) :
    IsTabular (.map result) := by
  induction names generalizing inList implied implied' table result with
  | nil =>
    cases h
    exact htable
  | cons name rest ih =>
    cases rest with
    | nil => exact isTabular_openOne htable h
    | cons next rest =>
      have hput {inner : Table} {rebuild : Table → Value} {isList : Bool} {implied : List String}
          (hinner : IsTabular (.map inner))
          (hrebuild : ∀ last, IsTabular (.map last) → IsTabular (rebuild last))
          (h : (openTable adds (next :: rest) isList implied inner >>= fun opened =>
            .ok (Entries.put (.str name) (rebuild opened.1) table, opened.2)) = .ok (result, implied')) :
          IsTabular (.map result) := by
        cases hopen : openTable adds (next :: rest) isList implied inner with
        | error problem =>
          rw [hopen] at h
          cases h
        | ok opened =>
          rw [hopen] at h
          cases h
          exact htable.put (hrebuild _ (ih hinner hopen))
      rw [openTable] at h
      · cases hfound : Value.entry? name table with
        | none =>
          rw [hfound] at h
          exact hput .empty (fun _ hlast => hlast) h
        | some found =>
          rw [hfound] at h
          have htabular := htable.of_found hfound
          cases found with
          | map inner => exact hput htabular (fun _ hlast => hlast) h
          | list items =>
            dsimp only at h
            split at h
            · next inner hlast =>
              have hinner := htabular.of_item (List.mem_of_getLast? hlast)
              exact hput hinner (fun _ => isTabular_last htabular) h
            · cases h
          | _ => cases h
      · simp

theorem isTabular_assignAt {place names : List String} {v : Value} {table result : Table}
    (htable : IsTabular (.map table)) (hv : IsTabular v)
    (h : assignAt place names v table = some result) : IsTabular (.map result) := by
  induction place generalizing table result with
  | nil => exact isTabular_assign htable hv h
  | cons name rest ih =>
    rw [assignAt] at h
    split at h
    · next inner hfound =>
      obtain ⟨inner', hinner', h⟩ := Option.bind_eq_some_iff.mp h
      cases h
      exact htable.put (ih (htable.of_found hfound) hinner')
    · next items hfound =>
      have hitems := htable.of_found hfound
      split at h
      · next inner hlast =>
        obtain ⟨inner', hinner', h⟩ := Option.bind_eq_some_iff.mp h
        cases h
        exact htable.put (isTabular_last hitems (ih (hitems.of_item (List.mem_of_getLast? hlast)) hinner'))
      · cases h
    · cases h

theorem isTabular_step {p p' : Progress} {found : Statement} (hp : IsTabular (.map p.table))
    (hfound : found.IsTabular) (h : p.step found = .ok p') : IsTabular (.map p'.table) := by
  cases found with
  | header adds names =>
    rw [Progress.step] at h
    cases hopen : openTable adds names false p.implied p.table with
    | error problem =>
      rw [hopen] at h
      cases h
    | ok opened =>
      rw [hopen] at h
      cases h
      exact isTabular_openTable hp hopen
  | assign names v =>
    rw [Progress.step] at h
    split at h
    · next table htable =>
      cases h
      exact isTabular_assignAt hp hfound htable
    · cases h

theorem isTabular_steps {statements : List Statement} {p p' : Progress}
    (hp : IsTabular (.map p.table)) (hstatements : ∀ found ∈ statements, found.IsTabular)
    (h : statements.foldlM Progress.step p = .ok p') : IsTabular (.map p'.table) := by
  induction statements generalizing p with
  | nil =>
    cases h
    exact hp
  | cons found rest ih =>
    obtain ⟨hfound, hrest⟩ := List.forall_mem_cons.mp hstatements
    rw [List.foldlM_cons] at h
    cases hstep : p.step found with
    | error problem =>
      rw [hstep] at h
      cases h
    | ok next =>
      rw [hstep] at h
      exact ih (isTabular_step hp hfound hstep) hrest h

/-- No table of a settings file has a key twice. -/
theorem isTabular_read {text : List Char} {table : Table} (h : read text = .ok table) :
    IsTabular (.map table) := by
  unfold read at h
  split at h
  · next statements hstatements =>
    cases hsteps : statements.foldlM Progress.step {} with
    | error problem =>
      rw [hsteps] at h
      cases h
    | ok p =>
      rw [hsteps] at h
      cases h
      exact isTabular_steps .empty (isTabular_of_statements? hstatements) hsteps
  · cases h

end Toml

namespace Json

mutual

/-- No object of a JSON tree has a key twice when it is taken as a value. -/
theorem isTabular_toValue : ∀ j : Json, IsTabular j.toValue
  | .null => .plain trivial
  | .bool _ => .plain trivial
  | .int _ => .plain trivial
  | .float _ => .plain trivial
  | .str _ => .plain trivial
  | .arr items => .list (isTabular_toValues items)
  | .obj members => isTabular_putAll_toEntries members .empty

theorem isTabular_toValues : ∀ items : List Json, ∀ v ∈ toValues items, IsTabular v
  | [] => fun _ h => absurd h List.not_mem_nil
  | item :: rest => List.forall_mem_cons.mpr ⟨isTabular_toValue item, isTabular_toValues rest⟩

theorem isTabular_putAll_toEntries : ∀ (members : List (String × Json)) {table : List (Value × Value)},
    IsTabular (.map table) → IsTabular (.map (Entries.putAll table (toEntries members)))
  | [], _, h => h
  | (_, item) :: rest, _, h => isTabular_putAll_toEntries rest (h.put (isTabular_toValue item))

end

end Json

end PromptTemplates
