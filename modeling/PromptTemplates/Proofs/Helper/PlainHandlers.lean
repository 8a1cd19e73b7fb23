import PromptTemplates.Proofs.Helper.ResolvedCalls
import PromptTemplates.Proofs.Helper.Signatures

/-!
# Handlers that are registered alone

The descriptor of such a handler declares the names of its positional parameters, so the parts of the
signature tell what the call of the handler consists of, and where the surroundings stand in it.
-/

namespace PromptTemplates

namespace Descriptor

open Signature

variable {d : Descriptor} {invocation : Invocation} {surroundings : Option Surroundings}
  {s positional named : Signature} {variadic collecting : Option Parameter} {name : String}
  {p o : Parameter}
  {left : Named}

/-- A descriptor has the names of the positional parameters of its handler. -/
structure Describes (d : Descriptor) (s : Signature) : Prop where
  signature_eq : d.handler.signature = some s
  params_eq : d.params = s.positionals.map (·.name)

theorem exists_describes {h : Handler} (hs : h.signature = some s) (hw : s.IsWellFormed) :
    ∃ d, ofHandler h = .ok d ∧ d.handler = h ∧ Describes d s := by
  have hnames : namesOf h = s.positionals.map (·.name) := by simp [namesOf, hs]
  have hnodup : (namesOf h).Nodup :=
    hnames ▸ hw.nodup_names.sublist (List.filter_sublist.map _)
  exact ⟨⟨namesOf h, h, hnodup⟩, by simp [ofHandler, make, hnodup], rfl, hs, hnames⟩

section parts

variable (hd : Describes d s) (h : HasParts s positional variadic named collecting)

include hd

theorem Describes.signature : d.signature = s := by simp [Descriptor.signature, hd.signature_eq]

theorem Describes.bind?_eq (args : List Value) (kwargs : Named) :
    d.handler.bind? args kwargs = s.bind? args kwargs := by
  simp [Handler.bind?, hd.signature_eq]

include h

theorem Describes.acceptsVarargs_eq : d.acceptsVarargs = variadic.isSome := by
  have hany : s.any (·.kind == .variadic) = variadic.isSome := by
    rw [Bool.eq_iff_iff, List.any_eq_true, Option.isSome_iff_exists]
    constructor
    · rintro ⟨p, hp, hkind⟩
      exact ⟨p, (h.mem_part hp).2.1 (by simpa using hkind)⟩
    · rintro ⟨p, hp⟩
      exact ⟨p, h.mem_iff.mpr (.inr (.inl hp)), by simpa using h.variadic_kind p hp⟩
  simp [acceptsVarargs, hd.signature_eq, hd.signature, hany]

theorem Describes.acceptsKwargs_eq : d.acceptsKwargs = collecting.isSome := by
  rw [acceptsKwargs, hd.signature, Bool.eq_iff_iff, List.any_eq_true, Option.isSome_iff_exists]
  constructor
  · rintro ⟨p, hp, hkind⟩
    exact ⟨p, (h.mem_part hp).2.2.2 (by simpa using hkind)⟩
  · rintro ⟨p, hp⟩
    exact ⟨p, h.mem_iff.mpr (.inr (.inr (.inr hp))), by simpa using h.collecting_kind p hp⟩

theorem Describes.params_eq_filter :
    d.params = (positional.filter (·.name != contextParameter)).map (·.name) := by
  have hbehind : (variadic.toList ++ (named ++ collecting.toList)).filter
      (fun p => p.kind.isPositional && p.name != contextParameter) = [] := by
    refine List.filter_eq_nil_iff.mpr fun p hp => ?_
    have hkind : p.kind.isPositional = false := by
      simp only [List.mem_append, Option.mem_toList] at hp
      rcases hp with hp | hp | hp
      · rw [h.variadic_kind p hp]; rfl
      · rw [h.named_kind p hp]; rfl
      · rw [h.collecting_kind p hp]; rfl
    simp [hkind]
  rw [hd.params_eq, positionals, h.eq_append, List.filter_append, hbehind, List.append_nil]
  refine congrArg _ (List.filter_congr fun p hp => ?_)
  simp [h.positional_kind p hp]

/-! ## Where the surroundings are placed -/

/-- The signature takes the surroundings by name only, or not at all. -/
theorem Describes.optionsIndex_eq_none (hno : ∀ p ∈ positional, p.name ≠ contextParameter) :
    d.optionsIndex = none := by
  rw [optionsIndex, hd.signature]
  refine contextIndex?_eq_none fun p hp hcontext => ?_
  obtain ⟨hname, hkind⟩ := hcontext
  exact hno p ((h.mem_part hp).1 hkind) hname

theorem Describes.optionsIndex_eq {before after : Signature}
    (hpositional : positional = before ++ o :: after) (ho : o.name = contextParameter)
    (hbefore : ∀ p ∈ before, p.name ≠ contextParameter) : d.optionsIndex = some before.length := by
  have hkind : o.kind.isPositional = true := h.positional_kind o (by simp [hpositional])
  rw [optionsIndex, hd.signature, h.eq_append, hpositional, List.append_assoc, List.cons_append,
    contextIndex?_append hbefore fun p hp => h.positional_kind p (by simp [hpositional, hp])]
  simp [contextIndex?, isContext_of_positional hkind, ho, hkind]

/-! ## What is passed on -/

theorem Describes.mem_params (hp : p ∈ positional) (hname : p.name ≠ contextParameter) :
    p.name ∈ d.params := by
  rw [hd.params_eq_filter h]
  exact List.mem_map.mpr ⟨p, List.mem_filter.mpr ⟨hp, bne_iff_ne.mpr hname⟩, rfl⟩

theorem Describes.notMem_params (hw : s.IsWellFormed) (hp : p ∈ named) : p.name ∉ d.params := by
  intro hmem
  rw [hd.params_eq_filter h] at hmem
  obtain ⟨q, hq, hname⟩ := List.mem_map.mp hmem
  exact h.name_ne hw (List.mem_filter.mp hq).1 hp hname

theorem Describes.context_notMem_params : contextParameter ∉ d.params := by
  intro hmem
  rw [hd.params_eq_filter h] at hmem
  obtain ⟨q, hq, hname⟩ := List.mem_map.mp hmem
  exact bne_iff_ne.mp (List.mem_filter.mp hq).2 hname

omit hd h in
theorem has_passedOn_of_mem (hname : name ∈ d.params) :
    (d.passedOn invocation surroundings).has name = false := by
  rw [Entries.has, get?_passedOn, if_pos hname]
  rfl

omit hd h in
theorem has_passedOn_iff (hname : name ∉ d.params) :
    (d.passedOn invocation surroundings).has name = true ↔
      d.acceptsKwargs = true ∧ d.Keeps invocation surroundings name := by
  rw [Entries.has, get?_passedOn, if_neg hname]
  exact isSome_keptValue

/-- No positional parameter is given by name too, apart from the one for the surroundings. -/
theorem Describes.has_kwargs (hnot : ¬ d.PlacesContext invocation surroundings) (hp : p ∈ positional)
    (hname : p.name ≠ contextParameter) :
    (d.resolve invocation surroundings).kwargs.has p.name = false := by
  rw [Entries.has, get?_kwargs_of_not_placed hnot hname]
  exact has_passedOn_of_mem (hd.mem_params h hp hname)

theorem Describes.passedOn_eq_nil (hnone : collecting = none) :
    d.passedOn invocation surroundings = [] := by
  have hkwargs := hd.acceptsKwargs_eq h
  simp [passedOn, hkwargs, hnone]

theorem Describes.passedExtra_eq_nil (hnone : variadic = none) : d.passedExtra invocation = [] := by
  have hvarargs := hd.acceptsVarargs_eq h
  simp [passedExtra, hvarargs, hnone]

theorem Describes.boundTail_passedExtra :
    boundTail (d.passedExtra invocation) left variadic named collecting =
      boundTail (d.extraPositional invocation) left variadic named collecting := by
  cases hvariadic : variadic with
  | none => rfl
  | some p =>
    have hvarargs : d.acceptsVarargs = true := by simp [hd.acceptsVarargs_eq h, hvariadic]
    rw [passedExtra, if_pos hvarargs]

theorem Describes.exists_binding (hp : p ∈ positional) (hname : p.name ≠ contextParameter) :
    ∃ v, (d.bindings invocation surroundings).get? p.name = some v ∧
      (p.name, v) ∈ d.bindings invocation surroundings := by
  obtain ⟨v, hv⟩ := Option.isSome_iff_exists.mp (has_bindings.mpr (hd.mem_params h hp hname))
  exact ⟨v, hv, Entries.mem_of_get? hv⟩

/-- Without a parameter that collects the named arguments, only the surroundings are given by name. -/
theorem Describes.unnamed_context_eq_nil (hno : ∀ p ∈ positional, p.name ≠ contextParameter)
    (hnone : collecting = none) : unnamed named (if d.acceptsOptions then
      (d.passedOn invocation surroundings).put contextParameter (.helperContext surroundings invocation.data)
      else d.passedOn invocation surroundings) = [] := by
  rw [hd.passedOn_eq_nil h hnone]
  split
  · next haccepts =>
    rw [acceptsOptions, hd.signature] at haccepts
    obtain ⟨p, hp, hcontext⟩ := List.any_eq_true.mp haccepts
    obtain ⟨hname, hvariadic, hcollecting⟩ := isContext_iff.mp hcontext
    have hnamed : p ∈ named := by
      rcases h.mem_iff.mp hp with hp | hp | hp | hp
      · exact absurd hname (hno p hp)
      · exact absurd (h.variadic_kind p hp) hvariadic
      · exact hp
      · exact absurd (h.collecting_kind p hp) hcollecting
    have hany : (named.any fun p => p.name == contextParameter) = true :=
      List.any_eq_true.mpr ⟨p, hnamed, beq_iff_eq.mpr hname⟩
    simp only [Entries.put, unnamed, List.filter_cons, List.filter_nil, hany]
    rfl
  · rfl

theorem Describes.bind?_tail_of_last {front left : Named} (hw : s.IsWellFormed)
    (hextra : d.passedExtra invocation = []) (hempty : collecting = none → unnamed named left = []) :
    ((bind? (variadic.toList ++ (named ++ collecting.toList)) [] left).map (front ++ ·)) =
      if ∀ p ∈ named, (suppliedByName left p).isSome then
        some (front ++ boundTail (d.extraPositional invocation) left variadic named collecting)
      else none := by
  rw [h.bind?_tail (h.nodup_named hw) fun _ => rfl, ← hd.boundTail_passedExtra h, hextra]
  simp only [and_iff_left hempty]
  split <;> rfl

/-! ## Surroundings that are taken by position -/

theorem Describes.params_eq_append {before after : Signature} (hw : s.IsWellFormed)
    (hpositional : positional = before ++ o :: after) (ho : o.name = contextParameter) :
    d.params = before.map (·.name) ++ after.map (·.name) ∧
      ∀ p ∈ before ++ after, p.name ≠ contextParameter := by
  have hnodup := h.nodup_positional hw
  rw [hpositional, List.map_append, List.map_cons, List.nodup_append, List.nodup_cons] at hnodup
  obtain ⟨-, ⟨hnotafter, -⟩, hdisjoint⟩ := hnodup
  have hno : ∀ p ∈ before ++ after, p.name ≠ contextParameter := by
    intro p hp hname
    rw [← ho] at hname
    rcases List.mem_append.mp hp with hp | hp
    · exact hdisjoint p.name (List.mem_map_of_mem hp) o.name (by simp) hname
    · exact hnotafter (hname ▸ List.mem_map_of_mem hp)
  refine ⟨?_, hno⟩
  have hself : (before ++ after).filter (·.name != contextParameter) = before ++ after :=
    List.filter_eq_self.mpr fun p hp => bne_iff_ne.mpr (hno p hp)
  have hdrop : (o.name != contextParameter) = false := by simp [ho]
  rw [List.filter_append] at hself
  rw [hd.params_eq_filter h, hpositional, List.filter_append, List.filter_cons, hdrop, ← List.map_append,
    ← hself]
  rfl

section context

variable {before after : Signature} (hw : s.IsWellFormed)
  (hpositional : positional = before ++ o :: after) (ho : o.name = contextParameter)
  {first second : Named}

include hw hpositional ho

theorem Describes.eq_of_context (hp : p ∈ positional) (hname : p.name = contextParameter) : p = o := by
  have hno := (hd.params_eq_append h hw hpositional ho).2
  rw [hpositional] at hp
  rcases List.mem_append.mp hp with hp | hp
  · exact absurd hname (hno p (List.mem_append_left _ hp))
  · rcases List.mem_cons.mp hp with rfl | hp
    · rfl
    · exact absurd hname (hno p (List.mem_append_right _ hp))

theorem Describes.exists_bindings_append (invocation : Invocation)
    (surroundings : Option Surroundings) : ∃ first second : Named,
    d.bindings invocation surroundings = first ++ second ∧
      first.keys = before.map (·.name) ∧ second.keys = after.map (·.name) := by
  have hkeys : (d.bindings invocation surroundings).map (·.1) =
      before.map (·.name) ++ after.map (·.name) :=
    keys_bindings.trans (hd.params_eq_append h hw hpositional ho).1
  exact List.map_eq_append_iff.mp hkeys

omit hd in
theorem name_ne_of_named (hp : p ∈ named) : p.name ≠ contextParameter := by
  have homem : o ∈ positional := by simp [hpositional]
  intro hname
  exact h.name_ne hw homem hp (ho.trans hname.symm)

theorem Describes.optionsIndex_eq_length : d.optionsIndex = some before.length :=
  hd.optionsIndex_eq h hpositional ho fun p hp =>
    (hd.params_eq_append h hw hpositional ho).2 p (List.mem_append_left _ hp)

theorem Describes.resolve_of_placed (hplaces : d.PlacesContext invocation surroundings)
    (hbindings : d.bindings invocation surroundings = first ++ second)
    (hfirst : first.keys = before.map (·.name)) : d.resolve invocation surroundings =
      ⟨first.map (·.2) ++ .helperContext surroundings invocation.data ::
          (second.map (·.2) ++ d.passedExtra invocation),
        d.passedOn invocation surroundings, d.bindings invocation surroundings⟩ := by
  have hi := hd.optionsIndex_eq_length h hw hpositional ho
  obtain ⟨i, hi', hlt⟩ := placesContext_iff.mp hplaces
  obtain rfl : before.length = i := Option.some.inj (hi.symm.trans hi')
  have hlength : (first.map (·.2)).length = before.length := by
    have hlengths := congrArg List.length hfirst
    simpa [Entries.keys] using hlengths
  have hargs : d.positionalArgs invocation surroundings =
      first.map (·.2) ++ (second.map (·.2) ++ d.passedExtra invocation) := by
    rw [positionalArgs, hbindings, List.map_append, List.append_assoc]
  rw [resolve_of_lt hi hlt, hargs, ← hlength, List.take_left, List.drop_left]

/-- Nothing stands behind surroundings that are not placed. -/
theorem Describes.resolve_of_last (hnot : ¬ d.PlacesContext invocation surroundings) :
    after = [] ∧ d.passedExtra invocation = [] ∧ d.resolve invocation surroundings =
      ⟨(d.bindings invocation surroundings).map (·.2), (d.passedOn invocation surroundings).put
        contextParameter (.helperContext surroundings invocation.data),
        d.bindings invocation surroundings⟩ := by
  have hi := hd.optionsIndex_eq_length h hw hpositional ho
  have hlength : (d.bindings invocation surroundings).length = before.length + after.length := by
    have hkeys : (d.bindings invocation surroundings).keys =
        before.map (·.name) ++ after.map (·.name) :=
      keys_bindings.trans (hd.params_eq_append h hw hpositional ho).1
    simpa [Entries.keys] using congrArg List.length hkeys
  have hle : (d.positionalArgs invocation surroundings).length ≤ before.length :=
    Nat.le_of_not_lt fun hlt => hnot (placesContext_iff.mpr ⟨_, hi, hlt⟩)
  rw [positionalArgs, List.length_append, List.length_map, hlength] at hle
  have hafter : after = [] := List.eq_nil_of_length_eq_zero (by omega)
  have hextra : d.passedExtra invocation = [] := List.eq_nil_of_length_eq_zero (by omega)
  refine ⟨hafter, hextra, ?_⟩
  rw [resolve_of_not_placed hnot, if_pos (acceptsOptions_of_optionsIndex hi), positionalArgs, hextra,
    List.append_nil]

/-- Behind the parameters that get their values, only the one for the surroundings is left. -/
theorem Describes.bind?_of_last (hnot : ¬ d.PlacesContext invocation surroundings) :
    d.handler.bind? (d.resolve invocation surroundings).args (d.resolve invocation surroundings).kwargs =
      (bind? (o :: (variadic.toList ++ (named ++ collecting.toList))) []
        (d.resolve invocation surroundings).kwargs).map (d.bindings invocation surroundings ++ ·) := by
  obtain ⟨rfl, -, hresolve⟩ := hd.resolve_of_last h hw hpositional ho hnot
  obtain ⟨hparams, hno⟩ := hd.params_eq_append h hw hpositional ho
  have hs : s = before ++ o :: (variadic.toList ++ (named ++ collecting.toList)) := by
    rw [h.eq_append, hpositional, List.append_assoc]
    rfl
  have hfree : ∀ p ∈ before, p.kind = .ordinary →
      (d.resolve invocation surroundings).kwargs.has p.name = false := by
    intro p hp _
    have hmem : p ∈ positional := by simp [hpositional, hp]
    exact hd.has_kwargs h hnot hmem (hno p (List.mem_append_left _ hp))
  have hkeys : (d.bindings invocation surroundings).keys = before.map (·.name) := by
    rw [keys_bindings, hparams]
    exact List.append_nil _
  have hargs : (d.resolve invocation surroundings).args =
      (d.bindings invocation surroundings).map (·.2) ++ [] := by rw [hresolve, List.append_nil]
  rw [hd.bind?_eq, hargs, hs,
    bind?_positional (fun p hp => h.positional_kind p (by simp [hpositional, hp])) hkeys hfree]

theorem Describes.keys_of_last (hnot : ¬ d.PlacesContext invocation surroundings) (v : Value) :
    Entries.keys (d.bindings invocation surroundings ++ [(o.name, v)]) = positional.map (·.name) := by
  obtain ⟨rfl, -⟩ := hd.resolve_of_last h hw hpositional ho hnot
  have hkeys : (d.bindings invocation surroundings).keys = before.map (·.name) ++ [] :=
    keys_bindings.trans (hd.params_eq_append h hw hpositional ho).1
  rw [List.append_nil] at hkeys
  rw [hpositional, List.map_append, ← hkeys]
  exact List.map_append

/-- Surroundings that are placed by position are not also accepted by name. -/
theorem Describes.bind?_eq_none_of_twice (hkind : o.kind = .ordinary)
    (hplaces : d.PlacesContext invocation surroundings)
    (htwice : (d.passedOn invocation surroundings).has contextParameter = true) :
    d.handler.bind? (d.resolve invocation surroundings).args (d.resolve invocation surroundings).kwargs =
      none := by
  obtain ⟨first, second, hbindings, hfirst, -⟩ :=
    hd.exists_bindings_append h hw hpositional ho invocation surroundings
  have hno := (hd.params_eq_append h hw hpositional ho).2
  have hs : s = before ++ o :: (after ++ (variadic.toList ++ (named ++ collecting.toList))) := by
    rw [h.eq_append, hpositional, List.append_assoc]
    rfl
  have hfree : ∀ p ∈ before, p.kind = .ordinary →
      (d.passedOn invocation surroundings).has p.name = false := by
    intro p hp _
    exact has_passedOn_of_mem (hd.mem_params h (by simp [hpositional, hp]) (hno p (by simp [hp])))
  have hbefore : ∀ p ∈ before, p.kind.isPositional = true :=
    fun p hp => h.positional_kind p (by simp [hpositional, hp])
  rw [hd.bind?_eq, hd.resolve_of_placed h hw hpositional ho hplaces hbindings hfirst, hs,
    bind?_positional hbefore hfirst hfree]
  simp [bind?, hkind, ho, htwice]

/-- Surroundings that cannot be given leave a parameter without a value or an argument without a
parameter. -/
theorem Describes.bind?_eq_none_of_unplaced (hkind : o.kind = .positionalOnly)
    (hnot : ¬ d.PlacesContext invocation surroundings)
    (hnone : d.acceptsKwargs = false ∨ o.fallback = none) :
    d.handler.bind? (d.resolve invocation surroundings).args (d.resolve invocation surroundings).kwargs =
      none := by
  have hresolve := (hd.resolve_of_last h hw hpositional ho hnot).2.2
  rw [hd.bind?_of_last h hw hpositional ho hnot, bind?_cons_positionalOnly_nil hkind]
  rcases hnone with hkwargs | hfallback
  · have hcollecting : collecting = none := by simpa [hd.acceptsKwargs_eq h] using hkwargs
    have hhas : (named.any fun p => p.name == contextParameter) = false :=
      List.any_eq_false.mpr fun p hp => by simpa using name_ne_of_named h hw hpositional ho hp
    have hleft : unnamed named (d.resolve invocation surroundings).kwargs ≠ [] := by
      rw [hresolve, hd.passedOn_eq_nil h hcollecting]
      simp [Entries.put, unnamed, hhas]
    rw [h.bind?_tail (h.nodup_named hw) fun _ => rfl, if_neg fun hall => hleft (hall.2 hcollecting)]
    cases o.fallback <;> rfl
  · rw [hfallback]
    rfl

end context

end parts

end Descriptor

end PromptTemplates
