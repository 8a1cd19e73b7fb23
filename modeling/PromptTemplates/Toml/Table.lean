import PromptTemplates.Fault
import PromptTemplates.Toml.Statement

/-!
# The table of a settings file

The statements of a file build up one table. A header makes the tables on its way, and each table is
opened once; a table that only longer headers have made so far can still be opened. A header that
leads through a list of tables goes on in the last one. No key is given a value twice.
-/

namespace PromptTemplates.Toml

/-- Why a file is refused: its form is wrong, or a header leads through something that is no table. -/
inductive Problem where
  | malformed
  | clash (kind : FaultKind)
  deriving DecidableEq, Repr

/-- The entries of a table. -/
abbrev Table := List (Value × Value)

/-- The state of reading: the table so far, the way to the open table, and the names of tables that
only longer headers have made. -/
structure Progress where
  table : Table := []
  place : List String := []
  implied : List String := []

/-- Opens the table that names lead to, starting from a table. In the last table of a list
(`inList`) what is there already is opened again. -/
def openTable (adds : Bool) : (names : List String) → (inList : Bool) → (implied : List String) →
    Table → Except Problem (Table × List String)
  | [], _, implied, table => .ok (table, implied)
  | [name], inList, implied, table =>
    match Value.entry? name table with
    | none =>
      let fresh := if adds then .list [.map []] else .map []
      .ok (Entries.put (.str name) fresh table, implied)
    | some found =>
      if inList then .ok (table, implied)
      else if implied.contains name then
        if adds then .error .malformed else .ok (table, implied.erase name)
      else if adds then
        match found with
        | .list items => .ok (Entries.put (.str name) (.list (items ++ [.map []])) table, implied)
        | _ => .error (.clash .missingAttribute)
      else .error .malformed
  | name :: rest, inList, implied, table => do
    let (inner, rebuild, isList, implied) ← match Value.entry? name table with
      | none => .ok ([], Value.map, false, if inList then implied else name :: implied)
      | some (.map inner) => .ok (inner, Value.map, false, implied)
      | some (.list items) =>
        match items.getLast? with
        | some (.map inner) =>
          .ok (inner, fun entries => Value.list (items.dropLast ++ [Value.map entries]), !adds, implied)
        | _ => .error (.clash .badType)
      | some _ => .error (.clash .badType)
    let (inner, implied) ← openTable adds rest isList implied inner
    return (Entries.put (.str name) (rebuild inner) table, implied)

/-- Gives a value to a key in the table at a place. -/
def assignAt : (place names : List String) → Value → Table → Option Table
  | [], names, v, table => assign table names v
  | name :: rest, names, v, table =>
    match Value.entry? name table with
    | some (.map inner) => do
      return Entries.put (.str name) (.map (← assignAt rest names v inner)) table
    | some (.list items) =>
      match items.getLast? with
      | some (.map inner) => do
        let last := Value.map (← assignAt rest names v inner)
        return Entries.put (.str name) (.list (items.dropLast ++ [last])) table
      | _ => none
    | _ => none

namespace Progress

/-- Carries out a statement. -/
def step (p : Progress) : Statement → Except Problem Progress
  | .header adds names => do
    let (table, implied) ← openTable adds names false p.implied p.table
    return { table := table, place := names, implied := implied }
  | .assign names v =>
    match assignAt p.place names v p.table with
    | some table => .ok { p with table := table }
    | none => .error .malformed

end Progress

/-- The table that a text describes. -/
def read (text : List Char) : Except Problem Table :=
  match statements? (text.length + 1) text with
  | some statements => do return (← statements.foldlM Progress.step {}).table
  | none => .error .malformed

end PromptTemplates.Toml
