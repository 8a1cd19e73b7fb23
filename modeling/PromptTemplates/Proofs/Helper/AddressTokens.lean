import PromptTemplates.Helper.Binding

/-!
# The tokens of addresses

Completing an address takes the names of its tokens out of the table of values, whether or not the table
has them, and leaves the other entries in their order. When the declared names get their values, the
tokens of all their addresses are taken out in this way.
-/

namespace PromptTemplates

namespace Url

/-- The names of the tokens in a text, from left to right. -/
def tokens (s : List Char) : List String :=
  match s with
  | [] => []
  | c :: cs =>
    match _h : if c = ':' then tokenName? cs else none with
    | some (name, rest) => String.ofList name :: tokens rest
    | none => tokens cs
termination_by s.length
decreasing_by
  · split at _h
    · have := length_lt_of_tokenName? _h; simp; omega
    · cases _h
  · simp

/-- The entries of a table whose keys are not among the given names. -/
def without (names : List String) (working : Named) : Named :=
  working.filter fun e => !names.contains e.1

theorem without_nil (working : Named) : without [] working = working :=
  List.filter_eq_self.mpr fun _ _ => rfl

theorem without_append (names others : List String) (working : Named) :
    without (names ++ others) working = without others (without names working) := by
  rw [without, without, without, List.filter_filter]
  refine List.filter_congr fun e _ => ?_
  rw [List.contains_append, Bool.not_or, Bool.and_comm]

theorem get?_without (names : List String) (key : String) (working : Named) :
    (without names working).get? key = if names.contains key then none else working.get? key := by
  rw [without, Entries.get?_filter fun k => !names.contains k]
  cases names.contains key <;> rfl

theorem without_erase (name : String) (names : List String) (working : Named) :
    without names (working.erase name) = without (name :: names) working := by
  have hone : working.erase name = without [name] working :=
    List.filter_congr fun e _ => by rw [List.contains_cons, List.contains_nil, Bool.or_false]
  rw [hone, ← without_append]
  rfl

/-- A name that the table does not have takes nothing out. -/
theorem erase_of_absent {name : String} {working : Named} (h : working.get? name = none) :
    working.erase name = working := by
  refine List.filter_eq_self.mpr fun e he => ?_
  have hne : e.1 ≠ name := by
    rintro rfl
    exact Entries.get?_eq_none_iff.mp h (List.mem_map_of_mem he)
  simp [hne]

theorem tokens_of_token {c : Char} {cs name rest : List Char}
    (h : (if c = ':' then tokenName? cs else none) = some (name, rest)) :
    tokens (c :: cs) = String.ofList name :: tokens rest := by
  rw [tokens]
  split
  · next heq =>
    rw [h] at heq
    cases heq
    rfl
  · next heq =>
    rw [h] at heq
    cases heq

theorem tokens_of_none {c : Char} {cs : List Char}
    (h : (if c = ':' then tokenName? cs else none) = none) : tokens (c :: cs) = tokens cs := by
  rw [tokens]
  split
  · next heq =>
    rw [h] at heq
    cases heq
  · rfl

/-- Completing a text takes the names of its tokens out of the table. -/
theorem fill_snd (working : Named) (s : List Char) :
    (fill working s).2 = without (tokens s) working := by
  fun_induction fill working s with
  | case1 => rw [tokens, without_nil]
  | case2 working c cs name rest h value hvalue text left hfill ih =>
    rw [hfill] at ih
    rw [tokens_of_token h, ← without_erase]
    exact ih
  | case3 working c cs name rest h hnone text left hfill ih =>
    rw [hfill] at ih
    rw [tokens_of_token h, ← without_erase, erase_of_absent hnone]
    exact ih
  | case4 working c cs h text left hfill ih =>
    rw [hfill] at ih
    rw [tokens_of_none h]
    exact ih

theorem normalize_snd (url : String) (working : Named) (base : Option String) :
    (normalize url working base).2 = without (tokens (rebase base url).toList) working :=
  fill_snd working _

end Url

namespace Descriptor

/-- The tokens of the addresses among some names. Each address is read from the table that the earlier
ones leave. -/
def addressTokens (base : Option String) : (names : List String) → (working : Named) → List String
  | [], _ => []
  | name :: rest, working =>
    let found := match working.get? name with
      | some (.str url) =>
        if addressNames.contains name then Url.tokens (Url.rebase base url).toList else []
      | _ => []
    found ++ addressTokens base rest (Url.without found working)

theorem normalizeParam_snd (base : Option String) (name : String) (value : Value) (working : Named) :
    (normalizeParam base name value working).2 = Url.without (match value with
      | .str url => if addressNames.contains name then Url.tokens (Url.rebase base url).toList else []
      | _ => []) working := by
  cases value with
  | str url =>
    by_cases h : name ∈ addressNames
    · simpa [normalizeParam, h] using Url.normalize_snd url working base
    · simp [normalizeParam, h, Url.without_nil]
  | _ => simp [normalizeParam, Url.without_nil]

/-- Giving the names their values takes the tokens of their addresses out of the table. -/
theorem bindNames_snd (d : Descriptor) (base : Option String) (position : Nat) (names : List String)
    (working : Named) : (d.bindNames base position names working).2 =
      Url.without (addressTokens base names working) working := by
  induction names generalizing position working with
  | nil => rw [bindNames, addressTokens, Url.without_nil]
  | cons name rest ih =>
    rw [addressTokens, Url.without_append]
    cases hvalue : working.get? name with
    | none => simp [bindNames, hvalue, ih, Url.without_nil]
    | some value =>
      have hparam := normalizeParam_snd base name value working
      simp only [bindNames, hvalue, ih, hparam]
      cases value <;> rfl

theorem bindNames_keys (d : Descriptor) (base : Option String) (position : Nat) (names : List String)
    (working : Named) : (d.bindNames base position names working).1.keys = names := by
  induction names generalizing position working with
  | nil => rfl
  | cons name rest ih => simpa [bindNames, Entries.keys] using ih _ _

end Descriptor

end PromptTemplates
