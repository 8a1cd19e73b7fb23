import PromptTemplates.Proofs.Helper.AddressTokens

/-!
# Resolved calls

A resolved call has the values of the declared names, then further positional arguments, and the named
arguments that no address has used up. The surroundings stand among the positional arguments, if enough
of these are there, and are given by name otherwise.
-/

namespace PromptTemplates

namespace Signature

variable {s rest : Signature} {p : Parameter}

theorem isContext_iff : isContext p = true ↔
    p.name = contextParameter ∧ p.kind ≠ .variadic ∧ p.kind ≠ .variadicKeyword := by
  simp [isContext, and_assoc]

theorem isContext_of_positional (hkind : p.kind.isPositional = true) :
    isContext p = (p.name == contextParameter) := by
  have hvariadic : p.kind ≠ .variadic ∧ p.kind ≠ .variadicKeyword := by
    constructor <;> intro hk <;> simp [hk, ParameterKind.isPositional] at hkind
  simp [isContext, bne_iff_ne.mpr hvariadic.1, bne_iff_ne.mpr hvariadic.2]

theorem contextIndex?_eq_none
    (h : ∀ p ∈ s, ¬ (p.name = contextParameter ∧ p.kind.isPositional = true)) :
    contextIndex? s = none := by
  induction s with
  | nil => rfl
  | cons p s ih =>
    have hp := h p (by simp)
    have hs := ih fun q hq => h q (by simp [hq])
    cases hkind : p.kind.isPositional with
    | false => simp [contextIndex?, hkind, hs]
    | true =>
      have hname : p.name ≠ contextParameter := fun hname => hp ⟨hname, hkind⟩
      simp [contextIndex?, isContext_of_positional hkind, hkind, hname, hs]

theorem contextIndex?_append (hname : ∀ p ∈ s, p.name ≠ contextParameter)
    (hkind : ∀ p ∈ s, p.kind.isPositional = true) :
    contextIndex? (s ++ rest) = (contextIndex? rest).map (· + s.length) := by
  induction s with
  | nil => simp
  | cons p s ih =>
    have hs := ih (fun q hq => hname q (by simp [hq])) (fun q hq => hkind q (by simp [hq]))
    have hp : isContext p = false := by simpa [isContext_of_positional (hkind p (by simp))] using hname p
    simp [contextIndex?, hp, hkind p (by simp), hs, Function.comp_def, Nat.add_assoc]

end Signature

namespace Descriptor

open Signature

variable (d : Descriptor) (invocation : Invocation) (surroundings : Option Surroundings)

/-- The names that the addresses of a call take out of the table of values. -/
def consumed : List String :=
  addressTokens (surroundings.bind (·.baseUrl)) d.params (d.working invocation)

/-- The call gives a value under this name, and no address has used it up. -/
def Keeps (name : String) : Prop :=
  invocation.named.has name = true ∧ name ∉ d.consumed invocation surroundings

/-- The surroundings are among the positional arguments of the call. -/
def PlacesContext : Prop :=
  ∃ i, d.optionsIndex = some i ∧ i < (d.resolve invocation surroundings).args.length

/-- The value that a call has for a parameter that is given by name only. -/
def keptValue (name : String) : Option Value :=
  if d.acceptsKwargs && !(d.consumed invocation surroundings).contains name then
    invocation.named.get? name
  else none

/-! ## The parts of a resolved call -/

def bindings : Named :=
  (d.bindNames (surroundings.bind (·.baseUrl)) 0 d.params (d.working invocation)).1

/-- The named arguments that are passed on. -/
def passedOn : Named :=
  if d.acceptsKwargs then
    (Url.without (d.consumed invocation surroundings) (d.working invocation)).filter
      fun e => !(d.bindings invocation surroundings).has e.1
  else []

/-- The positional arguments behind those of the declared names. -/
def passedExtra : List Value := if d.acceptsVarargs then d.extraPositional invocation else []

def positionalArgs : List Value :=
  (d.bindings invocation surroundings).map (·.2) ++ d.passedExtra invocation

theorem resolve_eq : d.resolve invocation surroundings =
    if d.acceptsOptions then
      let placed := d.placeContext (.helperContext surroundings invocation.data)
        (d.positionalArgs invocation surroundings) (d.passedOn invocation surroundings)
      ⟨placed.1, placed.2, d.bindings invocation surroundings⟩
    else
      ⟨d.positionalArgs invocation surroundings, d.passedOn invocation surroundings,
        d.bindings invocation surroundings⟩ := by
  unfold resolve passedOn positionalArgs passedExtra bindings consumed
  rw [← bindNames_snd d (surroundings.bind (·.baseUrl)) 0]

@[simp] theorem resolve_bindings :
    (d.resolve invocation surroundings).bindings = d.bindings invocation surroundings := by
  rw [resolve_eq]
  split <;> rfl

variable {d invocation surroundings} {s positional named : Signature}
  {variadic collecting : Option Parameter} {name : String} {p o : Parameter}

theorem keys_bindings : (d.bindings invocation surroundings).keys = d.params :=
  bindNames_keys d _ 0 d.params _

theorem has_bindings : (d.bindings invocation surroundings).has name = true ↔ name ∈ d.params := by
  rw [Entries.has, ← Option.ne_none_iff_isSome, Ne, Entries.get?_eq_none_iff, keys_bindings,
    Classical.not_not]

theorem get?_working (h : name ∉ d.params) :
    (d.working invocation).get? name = invocation.named.get? name := by
  refine Entries.get?_putAll_of_absent fun hname => h ?_
  obtain ⟨e, he, rfl⟩ := List.mem_map.mp hname
  exact (List.mem_filter.mp (List.of_mem_zip he).1).1

theorem isSome_keptValue : (d.keptValue invocation surroundings name).isSome = true ↔
    d.acceptsKwargs = true ∧ d.Keeps invocation surroundings name := by
  unfold keptValue Keeps Entries.has
  cases d.acceptsKwargs <;> by_cases h : name ∈ d.consumed invocation surroundings <;> simp [h]

/-- What is passed on are the values that are kept under names that are not declared. -/
theorem get?_passedOn : (d.passedOn invocation surroundings).get? name =
    if name ∈ d.params then none else d.keptValue invocation surroundings name := by
  unfold passedOn keptValue
  cases hkwargs : d.acceptsKwargs with
  | false => simp
  | true =>
    rw [if_pos rfl, Entries.get?_filter fun k => !(d.bindings invocation surroundings).has k,
      Url.get?_without]
    by_cases hname : name ∈ d.params
    · have hhas : (d.bindings invocation surroundings).has name = true := has_bindings.mpr hname
      simp [hname, hhas]
    · have hhas : (d.bindings invocation surroundings).has name = false :=
        Bool.eq_false_iff.mpr fun hhas => hname (has_bindings.mp hhas)
      rw [hhas, if_neg hname, get?_working hname]
      cases (d.consumed invocation surroundings).contains name <;> rfl

/-! ## Placing the surroundings -/

theorem acceptsOptions_of_optionsIndex {i : Nat} (h : d.optionsIndex = some i) :
    d.acceptsOptions = true := by
  refine Classical.byContradiction fun hno => ?_
  have hnone : d.optionsIndex = none := contextIndex?_eq_none fun p hp hcontext => hno <|
    List.any_eq_true.mpr ⟨p, hp, by rw [isContext_of_positional hcontext.2, hcontext.1]; rfl⟩
  rw [hnone] at h
  cases h

theorem resolve_of_lt {i : Nat} (hi : d.optionsIndex = some i)
    (hlt : i < (d.positionalArgs invocation surroundings).length) : d.resolve invocation surroundings =
      ⟨(d.positionalArgs invocation surroundings).take i ++ .helperContext surroundings invocation.data ::
          (d.positionalArgs invocation surroundings).drop i,
        d.passedOn invocation surroundings, d.bindings invocation surroundings⟩ := by
  rw [resolve_eq, if_pos (acceptsOptions_of_optionsIndex hi)]
  simp [placeContext, hi, hlt]

theorem placesContext_iff : d.PlacesContext invocation surroundings ↔
    ∃ i, d.optionsIndex = some i ∧ i < (d.positionalArgs invocation surroundings).length := by
  refine exists_congr fun i => and_congr_right fun hi => ?_
  by_cases hlt : i < (d.positionalArgs invocation surroundings).length
  · rw [resolve_of_lt hi hlt]
    simp
    omega
  · rw [resolve_eq, if_pos (acceptsOptions_of_optionsIndex hi)]
    simp [placeContext, hi, hlt]

theorem resolve_of_not_placed (h : ¬ d.PlacesContext invocation surroundings) :
    d.resolve invocation surroundings = ⟨d.positionalArgs invocation surroundings,
      if d.acceptsOptions then
        (d.passedOn invocation surroundings).put contextParameter
          (.helperContext surroundings invocation.data)
      else d.passedOn invocation surroundings,
      d.bindings invocation surroundings⟩ := by
  rw [placesContext_iff] at h
  rw [resolve_eq]
  split
  · have hplaced : ∀ context args kwargs, args = d.positionalArgs invocation surroundings →
        d.placeContext context args kwargs = (args, kwargs.put contextParameter context) := by
      rintro context args kwargs rfl
      unfold placeContext
      split
      · next i hi => rw [if_neg fun hlt => h ⟨i, hi, hlt⟩]
      · rfl
    rw [hplaced _ _ _ rfl]
  · rfl

theorem get?_kwargs_of_not_placed (h : ¬ d.PlacesContext invocation surroundings)
    (hname : name ≠ contextParameter) : (d.resolve invocation surroundings).kwargs.get? name =
      (d.passedOn invocation surroundings).get? name := by
  rw [resolve_of_not_placed h]
  cases d.acceptsOptions <;> simp [Ne.symm hname]

end Descriptor

end PromptTemplates
