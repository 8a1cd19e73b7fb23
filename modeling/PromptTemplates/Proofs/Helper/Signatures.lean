import PromptTemplates.Helper.Descriptor
import PromptTemplates.Value.Key

/-!
# Binding by signatures

The parameters of a signature stand in the order of their kinds: those that take single arguments by
position, one that takes the other positional arguments, those that are given by name only, and one
that takes all other named arguments. Binding goes through these parts one after the other, and each
part has an equation.
-/

namespace PromptTemplates

/-- Whether a parameter of the first kind may stand before one of the second kind. -/
def ParameterKind.mayPrecede : ParameterKind → ParameterKind → Bool
  | .positionalOnly, _ => true
  | .ordinary, kind => kind != .positionalOnly
  | .variadic, kind => kind == .keywordOnly || kind == .variadicKeyword
  | .keywordOnly, kind => kind == .keywordOnly || kind == .variadicKeyword
  | .variadicKeyword, _ => false

/-- Whether a named argument can give the parameter its value. -/
def Parameter.takesName (p : Parameter) (name : String) : Bool :=
  (p.kind == .ordinary || p.kind == .keywordOnly) && p.name == name

namespace Signature

/-- The parameters stand in the order of their kinds, and no two have the same name. -/
structure IsWellFormed (s : Signature) : Prop where
  ordered : s.Pairwise fun p q => p.kind.mayPrecede q.kind = true
  nodup_names : (s.map (·.name)).Nodup

/-- The parts of a signature. -/
structure HasParts (s positional : Signature) (variadic : Option Parameter) (named : Signature)
    (collecting : Option Parameter) : Prop where
  eq_append : s = positional ++ (variadic.toList ++ (named ++ collecting.toList))
  positional_kind : ∀ p ∈ positional, p.kind.isPositional = true
  variadic_kind : ∀ p ∈ variadic, p.kind = .variadic
  named_kind : ∀ p ∈ named, p.kind = .keywordOnly
  collecting_kind : ∀ p ∈ collecting, p.kind = .variadicKeyword

variable {s positional named rest : Signature} {variadic collecting : Option Parameter}
  {args extra : List Value} {kwargs bound : Named} {p : Parameter} {name : String}

/-! ## The parts of a signature -/

/-- Behind a parameter that takes no single positional argument there is none that takes any. -/
theorem HasParts.no_positional (h : HasParts s positional variadic named collecting)
    (hbefore : ∀ q ∈ s, p.kind.mayPrecede q.kind = true) (hkind : p.kind.isPositional = false) :
    positional = [] ∧ variadic = none := by
  obtain ⟨rfl, hpos, hvar, -, -⟩ := h
  constructor
  · refine List.eq_nil_iff_forall_not_mem.mpr fun q hq => ?_
    have hmay := hbefore q (by simp [hq])
    have hqkind := hpos q hq
    cases hp : p.kind <;> cases hk : q.kind <;>
      simp_all [ParameterKind.mayPrecede, ParameterKind.isPositional]
  · refine Option.eq_none_iff_forall_not_mem.mpr fun q hq => ?_
    have hmay := hbefore q (by simp_all)
    have hqkind := hvar q hq
    cases hp : p.kind <;> simp_all [ParameterKind.mayPrecede, ParameterKind.isPositional]

theorem exists_hasParts (h : s.Pairwise fun p q => p.kind.mayPrecede q.kind = true) :
    ∃ positional variadic named collecting, HasParts s positional variadic named collecting := by
  induction s with
  | nil => exact ⟨[], none, [], none, by constructor <;> simp⟩
  | cons p s ih =>
    obtain ⟨hbefore, hs⟩ := List.pairwise_cons.mp h
    obtain ⟨positional, variadic, named, collecting, hparts⟩ := ih hs
    have hnone := hparts.no_positional (p := p) hbefore
    obtain ⟨rfl, hpos, hvar, hnamed, hcoll⟩ := hparts
    cases hp : p.kind with
    | positionalOnly =>
      exact ⟨p :: positional, variadic, named, collecting, rfl,
        by simpa [hp, ParameterKind.isPositional] using hpos, hvar, hnamed, hcoll⟩
    | ordinary =>
      exact ⟨p :: positional, variadic, named, collecting, rfl,
        by simpa [hp, ParameterKind.isPositional] using hpos, hvar, hnamed, hcoll⟩
    | variadic =>
      obtain ⟨rfl, rfl⟩ := hnone (by rw [hp]; rfl)
      exact ⟨[], some p, named, collecting, rfl, hpos, by simpa using hp, hnamed, hcoll⟩
    | keywordOnly =>
      obtain ⟨rfl, rfl⟩ := hnone (by rw [hp]; rfl)
      exact ⟨[], none, p :: named, collecting, rfl, hpos, hvar, by simpa [hp] using hnamed, hcoll⟩
    | variadicKeyword =>
      obtain ⟨rfl, rfl⟩ := hnone (by rw [hp]; rfl)
      have hnil : named ++ collecting.toList = [] := by
        refine List.eq_nil_iff_forall_not_mem.mpr fun q hq => ?_
        have hmay := hbefore q (by simpa using hq)
        simp [hp, ParameterKind.mayPrecede] at hmay
      exact ⟨[], none, [], some p, by simpa using hnil, hpos, hvar, by simp, by simpa using hp⟩

/-! ## Binding part by part -/

/-- The parameters that are given by name only get the argument of their name, or their fallback. -/
def suppliedByName (kwargs : Named) (p : Parameter) : Option Value := kwargs.get? p.name <|> p.fallback

theorem bind?_nil : bind? [] [] kwargs = if kwargs = [] then some [] else none := by
  cases kwargs <;> rfl

theorem bind?_cons_positionalOnly (h : p.kind = .positionalOnly) (arg : Value) :
    bind? (p :: rest) (arg :: args) kwargs = (bind? rest args kwargs).map ((p.name, arg) :: ·) := by
  obtain ⟨name, kind, fallback⟩ := p
  cases h
  rfl

theorem bind?_cons_positionalOnly_nil (h : p.kind = .positionalOnly) :
    bind? (p :: rest) [] kwargs = p.fallback.bind fun v =>
      (bind? rest [] kwargs).map ((p.name, v) :: ·) := by
  obtain ⟨name, kind, fallback⟩ := p
  cases h
  rfl

theorem bind?_cons_ordinary (h : p.kind = .ordinary) (arg : Value) :
    bind? (p :: rest) (arg :: args) kwargs =
      if kwargs.has p.name then none
      else (bind? rest args kwargs).map ((p.name, arg) :: ·) := by
  obtain ⟨name, kind, fallback⟩ := p
  cases h
  rfl

theorem bind?_cons_ordinary_nil (h : p.kind = .ordinary) :
    bind? (p :: rest) [] kwargs = (suppliedByName kwargs p).bind fun v =>
      (bind? rest [] (kwargs.erase p.name)).map ((p.name, v) :: ·) := by
  obtain ⟨name, kind, fallback⟩ := p
  cases h
  rfl

theorem bind?_cons_variadic (h : p.kind = .variadic) :
    bind? (p :: rest) args kwargs = (bind? rest [] kwargs).map ((p.name, .tuple args) :: ·) := by
  obtain ⟨name, kind, fallback⟩ := p
  cases h
  rfl

theorem bind?_cons_keywordOnly (h : p.kind = .keywordOnly) :
    bind? (p :: rest) args kwargs = (suppliedByName kwargs p).bind fun v =>
      (bind? rest args (kwargs.erase p.name)).map ((p.name, v) :: ·) := by
  obtain ⟨name, kind, fallback⟩ := p
  cases h
  rfl

theorem bind?_cons_variadicKeyword (h : p.kind = .variadicKeyword) :
    bind? (p :: rest) args kwargs = (bind? rest args []).map ((p.name, .ofFields kwargs) :: ·) := by
  obtain ⟨name, kind, fallback⟩ := p
  cases h
  rfl

/-- Positional parameters take the leading arguments, if none of them is also given by name. -/
theorem bind?_positional (hkind : ∀ p ∈ positional, p.kind.isPositional = true)
    (hnames : Entries.keys bound = positional.map (·.name))
    (hfree : ∀ p ∈ positional, p.kind = .ordinary → kwargs.has p.name = false) :
    bind? (positional ++ rest) (bound.map (·.2) ++ args) kwargs =
      (bind? rest args kwargs).map (bound ++ ·) := by
  induction positional generalizing bound with
  | nil =>
    obtain rfl : bound = [] := by simpa [Entries.keys] using hnames
    simp
  | cons p positional ih =>
    obtain ⟨⟨name, v⟩, bound, rfl⟩ : ∃ e b, bound = e :: b := by
      cases bound with
      | nil => simp [Entries.keys] at hnames
      | cons e b => exact ⟨e, b, rfl⟩
    obtain ⟨rfl, hrestNames⟩ : name = p.name ∧ Entries.keys bound = positional.map (·.name) := by
      simpa [Entries.keys] using hnames
    have hrest := ih (fun q hq => hkind q (by simp [hq])) hrestNames
      (fun q hq => hfree q (by simp [hq]))
    have hp := hkind p (by simp)
    cases hk : p.kind with
    | positionalOnly => simp [bind?_cons_positionalOnly hk, hrest, Function.comp_def]
    | ordinary => simp [bind?_cons_ordinary hk, hrest, hfree p (by simp) hk, Function.comp_def]
    | variadic | keywordOnly | variadicKeyword => simp [hk, ParameterKind.isPositional] at hp

/-- The values of the parameters that are given by name only. -/
def boundByName (kwargs : Named) (named : Signature) : Named :=
  named.map fun p => (p.name, (suppliedByName kwargs p).getD .null)

/-- The arguments whose names no parameter of a part has. -/
def unnamed (named : Signature) (kwargs : Named) : Named :=
  kwargs.filter fun e => !named.any fun p => p.name == e.1

/-- Parameters that are given by name only take their arguments, if each has one or a fallback. -/
theorem bind?_named (hkind : ∀ p ∈ named, p.kind = .keywordOnly)
    (hnodup : (named.map (·.name)).Nodup) :
    bind? (named ++ rest) args kwargs =
      if ∀ p ∈ named, (suppliedByName kwargs p).isSome then
        (bind? rest args (unnamed named kwargs)).map (boundByName kwargs named ++ ·)
      else none := by
  induction named generalizing kwargs with
  | nil =>
    have hall : unnamed [] kwargs = kwargs := List.filter_eq_self.mpr fun _ _ => rfl
    simp [hall, boundByName]
  | cons p named ih =>
    obtain ⟨hp, hnodup⟩ := List.nodup_cons.mp hnodup
    have herase : ∀ q ∈ named, suppliedByName (kwargs.erase p.name) q = suppliedByName kwargs q := by
      intro q hq
      have hne : p.name ≠ q.name := fun heq => hp (by simpa [heq] using ⟨q, hq, rfl⟩)
      simp [suppliedByName, Entries.get?_erase, hne]
    have hleft : unnamed named (kwargs.erase p.name) = unnamed (p :: named) kwargs := by
      rw [unnamed, unnamed, Entries.erase, List.filter_filter]
      refine List.filter_congr fun e _ => ?_
      rw [List.any_cons, Bool.not_or, Bool.and_comm, BEq.comm]
    have hbound : boundByName (kwargs.erase p.name) named = boundByName kwargs named :=
      List.map_congr_left fun q hq => by rw [herase q hq]
    have hrest := @ih (kwargs.erase p.name) (fun q hq => hkind q (by simp [hq])) hnodup
    have hall : (∀ q ∈ named, (suppliedByName (kwargs.erase p.name) q).isSome = true) ↔
        ∀ q ∈ named, (suppliedByName kwargs q).isSome = true :=
      forall₂_congr fun q hq => by rw [herase q hq]
    rw [hleft, hbound] at hrest
    rw [List.cons_append, bind?_cons_keywordOnly (hkind p (by simp)), hrest]
    simp only [hall, List.forall_mem_cons]
    cases hsupplied : suppliedByName kwargs p with
    | none => simp
    | some v =>
      by_cases hgiven : ∀ q ∈ named, (suppliedByName kwargs q).isSome = true
      · simp only [Option.bind_some, if_pos hgiven, Option.isSome_some, true_and, Option.map_map]
        simp [boundByName, hsupplied, Function.comp_def]
      · simp [hgiven]

/-- The value of a parameter that takes all arguments of its sort. -/
def boundVariadic (extra : List Value) (variadic : Option Parameter) : Named :=
  variadic.toList.map fun p => (p.name, .tuple extra)

def boundCollecting (kwargs : Named) (collecting : Option Parameter) : Named :=
  collecting.toList.map fun p => (p.name, .ofFields kwargs)

/-- The positional arguments that are left need a variadic parameter. -/
theorem bind?_variadic (hkind : ∀ p ∈ variadic, p.kind = .variadic)
    (hextra : variadic = none → extra = []) :
    bind? (variadic.toList ++ rest) extra kwargs =
      (bind? rest [] kwargs).map (boundVariadic extra variadic ++ ·) := by
  cases variadic with
  | none => simp [hextra rfl, boundVariadic]
  | some p => simp [bind?_cons_variadic (hkind p rfl), boundVariadic]

/-- The named arguments that are left need a collecting parameter. -/
theorem bind?_collecting (hkind : ∀ p ∈ collecting, p.kind = .variadicKeyword) :
    bind? collecting.toList [] kwargs =
      if collecting = none ∧ kwargs ≠ [] then none else some (boundCollecting kwargs collecting) := by
  cases collecting with
  | none => cases kwargs <;> simp [bind?_nil, boundCollecting]
  | some p => simp [bind?_cons_variadicKeyword (hkind p rfl), bind?_nil, boundCollecting]

/-- The values of the parameters behind the positional ones. -/
def boundTail (extra : List Value) (kwargs : Named) (variadic : Option Parameter) (named : Signature)
    (collecting : Option Parameter) : Named :=
  boundVariadic extra variadic ++
    (boundByName kwargs named ++ boundCollecting (unnamed named kwargs) collecting)

/-- The parameters behind the positional ones take their arguments unless one that is given by name only
has none, or an argument is left over. -/
theorem HasParts.bind?_tail (h : HasParts s positional variadic named collecting)
    (hnodup : (named.map (·.name)).Nodup) (hextra : variadic = none → extra = []) :
    bind? (variadic.toList ++ (named ++ collecting.toList)) extra kwargs =
      if (∀ p ∈ named, (suppliedByName kwargs p).isSome) ∧
          (collecting = none → unnamed named kwargs = []) then
        some (boundTail extra kwargs variadic named collecting)
      else none := by
  rw [bind?_variadic h.variadic_kind hextra, bind?_named h.named_kind hnodup,
    bind?_collecting h.collecting_kind]
  by_cases hgiven : ∀ p ∈ named, (suppliedByName kwargs p).isSome = true
  · by_cases hleft : collecting = none ∧ unnamed named kwargs ≠ []
    · simp [hleft.1, hleft.2]
    · have hempty : collecting = none → unnamed named kwargs = [] := fun hnone =>
        Classical.not_not.mp fun hne => hleft ⟨hnone, hne⟩
      rw [if_pos hgiven, if_neg hleft, if_pos ⟨hgiven, hempty⟩]
      rfl
  · simp [hgiven]

/-- A signature takes the arguments of its positional parameters, then the others. -/
theorem HasParts.bind?_eq (h : HasParts s positional variadic named collecting)
    (hnodup : (named.map (·.name)).Nodup) (hbound : bound.keys = positional.map (·.name))
    (hfree : ∀ p ∈ positional, p.kind = .ordinary → kwargs.has p.name = false)
    (hextra : variadic = none → extra = []) :
    s.bind? (bound.map (·.2) ++ extra) kwargs =
      if (∀ p ∈ named, (suppliedByName kwargs p).isSome) ∧
          (collecting = none → unnamed named kwargs = []) then
        some (bound ++ boundTail extra kwargs variadic named collecting)
      else none := by
  rw [h.eq_append, bind?_positional h.positional_kind hbound hfree, h.bind?_tail hnodup hextra]
  split <;> rfl

/-! ## What the parameters get -/

theorem keys_boundTail : (boundTail extra kwargs variadic named collecting).keys =
    (variadic.toList ++ (named ++ collecting.toList)).map (·.name) := by
  simp [boundTail, boundVariadic, boundByName, boundCollecting, Entries.keys, Function.comp_def]

theorem HasParts.get?_bound (h : HasParts s positional variadic named collecting)
    (hnodup : (s.map (·.name)).Nodup) (hbound : bound.keys = positional.map (·.name)) {v : Value}
    (hmem : (name, v) ∈ bound ++ boundTail extra kwargs variadic named collecting) :
    (bound ++ boundTail extra kwargs variadic named collecting).get? name = some v := by
  refine Entries.get?_of_mem ?_ hmem
  have hkeys : (bound ++ boundTail extra kwargs variadic named collecting).keys = s.map (·.name) := by
    rw [h.eq_append, List.map_append, ← hbound, ← keys_boundTail]
    exact List.map_append
  rw [hkeys]
  exact hnodup

theorem mem_boundTail_variadic (h : p ∈ variadic) :
    (p.name, .tuple extra) ∈ boundTail extra kwargs variadic named collecting := by
  obtain rfl : variadic = some p := h
  simp [boundTail, boundVariadic]

theorem mem_boundTail_named (h : p ∈ named) :
    (p.name, (suppliedByName kwargs p).getD .null) ∈
      boundTail extra kwargs variadic named collecting := by
  refine List.mem_append_right _ (List.mem_append_left _ ?_)
  exact List.mem_map.mpr ⟨p, h, rfl⟩

theorem mem_boundTail_collecting (h : p ∈ collecting) :
    (p.name, .ofFields (unnamed named kwargs)) ∈ boundTail extra kwargs variadic named collecting := by
  obtain rfl : collecting = some p := h
  simp [boundTail, boundCollecting]

theorem HasParts.mem_iff (h : HasParts s positional variadic named collecting) :
    p ∈ s ↔ p ∈ positional ∨ p ∈ variadic ∨ p ∈ named ∨ p ∈ collecting := by
  simp [h.eq_append]

theorem HasParts.nodup_named (h : HasParts s positional variadic named collecting)
    (hw : s.IsWellFormed) : (named.map (·.name)).Nodup := by
  refine hw.nodup_names.sublist (List.Sublist.map _ ?_)
  rw [h.eq_append]
  exact ((List.sublist_append_left named _).trans (List.sublist_append_right _ _)).trans
    (List.sublist_append_right _ _)

theorem HasParts.nodup_positional (h : HasParts s positional variadic named collecting)
    (hw : s.IsWellFormed) : (positional.map (·.name)).Nodup := by
  refine hw.nodup_names.sublist (List.Sublist.map _ ?_)
  rw [h.eq_append]
  exact List.sublist_append_left positional _

theorem HasParts.name_ne (h : HasParts s positional variadic named collecting) (hw : s.IsWellFormed)
    {q : Parameter} (hp : p ∈ positional) (hq : q ∈ named) : p.name ≠ q.name := by
  have hnodup := hw.nodup_names
  rw [h.eq_append, List.map_append, List.nodup_append] at hnodup
  exact hnodup.2.2 p.name (List.mem_map_of_mem hp) q.name (List.mem_map_of_mem (by simp [hq]))

/-- A parameter is in the part for its kind. -/
theorem HasParts.mem_part (h : HasParts s positional variadic named collecting) (hp : p ∈ s) :
    (p.kind.isPositional = true → p ∈ positional) ∧ (p.kind = .variadic → p ∈ variadic) ∧
      (p.kind = .keywordOnly → p ∈ named) ∧ (p.kind = .variadicKeyword → p ∈ collecting) := by
  rcases h.mem_iff.mp hp with hp | hp | hp | hp
  · have hkind := h.positional_kind p hp
    cases hk : p.kind <;> simp_all [ParameterKind.isPositional]
  · simpa [h.variadic_kind p hp, ParameterKind.isPositional] using hp
  · simpa [h.named_kind p hp, ParameterKind.isPositional] using hp
  · simpa [h.collecting_kind p hp, ParameterKind.isPositional] using hp

end Signature

end PromptTemplates
