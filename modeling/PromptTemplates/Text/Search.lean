/-!
# Finding a fixed text

Searches for the first occurrence of a fixed text, and the operations built on it.
-/

namespace PromptTemplates.Text

/-- The rest of `s` after `pat`, if `s` starts with it. -/
def after? : (pat s : List Char) → Option (List Char)
  | [], s => some s
  | _ :: _, [] => none
  | p :: ps, c :: cs => if p = c then after? ps cs else none

/-- Whether `s` starts with `pat`. -/
def startsWith (pat s : List Char) : Bool := (after? pat s).isSome

/-- Cuts at the first occurrence of `pat`: the text before it and the text after it. -/
def cutAt? (pat : List Char) : List Char → Option (List Char × List Char)
  | [] => (after? pat []).map fun rest => ([], rest)
  | c :: cs =>
    match after? pat (c :: cs) with
    | some rest => some ([], rest)
    | none => (cutAt? pat cs).map fun (front, rest) => (c :: front, rest)

/-- Whether `pat` occurs anywhere in `s`. -/
def occursIn (pat s : List Char) : Bool := (cutAt? pat s).isSome

/-- Replaces every occurrence of `pat`, from left to right, by `new`. An empty `pat` occurs
nowhere. `skip` counts the characters of the last occurrence that are still to be passed over. -/
def replaceFrom (pat new : List Char) : (skip : Nat) → List Char → List Char
  | _, [] => []
  | 0, c :: cs =>
    if !pat.isEmpty && startsWith pat (c :: cs) then new ++ replaceFrom pat new (pat.length - 1) cs
    else c :: replaceFrom pat new 0 cs
  | skip + 1, _ :: cs => replaceFrom pat new skip cs

/-- Replaces every occurrence of `pat`, from left to right, by `new`. -/
def replaceAll (pat new s : String) : String :=
  String.ofList (replaceFrom pat.toList new.toList 0 s.toList)

theorem after?_eq_some_iff {pat s rest : List Char} :
    after? pat s = some rest ↔ s = pat ++ rest := by
  induction pat generalizing s with
  | nil => simp [after?, eq_comm]
  | cons p ps ih =>
    cases s with
    | nil => simp [after?]
    | cons c cs => by_cases h : p = c <;> simp [after?, h, ih, eq_comm]

theorem append_of_cutAt? {pat s front rest : List Char} (h : cutAt? pat s = some (front, rest)) :
    s = front ++ pat ++ rest := by
  induction s generalizing front with
  | nil =>
    obtain ⟨r, hr, he⟩ := Option.map_eq_some_iff.1 h
    cases he
    simpa using after?_eq_some_iff.1 hr
  | cons c cs ih =>
    simp only [cutAt?] at h
    split at h
    · next r hr => cases h; simpa using after?_eq_some_iff.1 hr
    · obtain ⟨⟨f, r⟩, hr, he⟩ := Option.map_eq_some_iff.1 h
      cases he
      simp [ih hr]

end PromptTemplates.Text
