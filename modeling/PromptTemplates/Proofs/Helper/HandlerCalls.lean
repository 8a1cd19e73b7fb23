import PromptTemplates.Proofs.Helper.PlainHandlers

/-!
# Calls of handlers

A handler that is registered alone is called with the arguments that a resolved call has for it. They
fit its signature in all cases but three, and every parameter gets the value that is meant for it.
-/

namespace PromptTemplates

namespace Descriptor

open Signature

variable (d : Descriptor) (invocation : Invocation) (surroundings : Option Surroundings)

/-- The cases in which the arguments of a call do not fit: the surroundings are given by position and by
name, they cannot be given at all, or a parameter that is given by name only has no value. -/
inductive Misfit : Prop
  | contextTwice {p} : p ∈ d.signature → isContext p = true → p.kind = .ordinary →
      d.PlacesContext invocation surroundings → d.acceptsKwargs = true →
      d.Keeps invocation surroundings contextParameter → Misfit
  | contextUnplaced {p} : p ∈ d.signature → isContext p = true → p.kind = .positionalOnly →
      ¬ d.PlacesContext invocation surroundings → (d.acceptsKwargs = false ∨ p.fallback = none) → Misfit
  | keywordMissing {p} : p ∈ d.signature → p.kind = .keywordOnly → p.name ≠ contextParameter →
      p.fallback = none → (¬ d.Keeps invocation surroundings p.name ∨ d.acceptsKwargs = false) → Misfit

/-- What the parameters of a handler get from a call. -/
structure Receives (bound : Named) : Prop where
  positional : ∀ p ∈ d.signature, p.kind.isPositional = true → p.name ≠ contextParameter →
    ∃ v, (d.resolve invocation surroundings).bindings.get? p.name = some v ∧
      bound.get? p.name = some v
  variadic : ∀ p ∈ d.signature, p.kind = .variadic →
    bound.get? p.name = some (.tuple (d.extraPositional invocation))
  context : ∀ p ∈ d.signature, isContext p = true →
    (p.kind = .positionalOnly → d.PlacesContext invocation surroundings) →
    bound.get? p.name = some (.helperContext surroundings invocation.data)
  contextUnplaced : ∀ p ∈ d.signature, isContext p = true → p.kind = .positionalOnly →
    ¬ d.PlacesContext invocation surroundings → bound.get? p.name = p.fallback
  named : ∀ p ∈ d.signature, p.kind = .keywordOnly → p.name ≠ contextParameter →
    bound.get? p.name = (d.keptValue invocation surroundings p.name <|> p.fallback)
  collecting : ∀ p ∈ d.signature, p.kind = .variadicKeyword →
    bound.get? p.name = some (.ofFields ((d.resolve invocation surroundings).kwargs.filter
      fun e => !d.signature.any (·.takesName e.1)))

variable {d invocation surroundings} {s positional named : Signature}
  {variadic collecting : Option Parameter} {name : String} {p o : Parameter}

/-! ## Which calls fit -/

/-- The call fits unless a parameter that is given by name only has no value, and then every parameter
gets what is meant for it. `front` are the values of the positional parameters and `left` the named
arguments that these do not take. -/
structure Fits (d : Descriptor) (invocation : Invocation) (surroundings : Option Surroundings)
    (s positional named : Signature) (variadic collecting : Option Parameter) (front left : Named) :
    Prop where
  keys : front.keys = positional.map (·.name)
  binds : d.handler.bind? (d.resolve invocation surroundings).args
      (d.resolve invocation surroundings).kwargs = if ∀ p ∈ named, (suppliedByName left p).isSome then
      some (front ++ boundTail (d.extraPositional invocation) left variadic named collecting)
    else none
  declared : ∀ p ∈ positional, p.name ≠ contextParameter →
    ∃ v, (d.bindings invocation surroundings).get? p.name = some v ∧ (p.name, v) ∈ front
  context : ∀ p ∈ positional, p.name = contextParameter →
    (p.kind = .positionalOnly → d.PlacesContext invocation surroundings) →
    (p.name, .helperContext surroundings invocation.data) ∈ front
  unplaced : ∀ p ∈ positional, p.name = contextParameter → p.kind = .positionalOnly →
    ¬ d.PlacesContext invocation surroundings →
    d.acceptsKwargs = true ∧ ∃ v, p.fallback = some v ∧ (p.name, v) ∈ front
  once : ∀ p ∈ positional, p.name = contextParameter → p.kind = .ordinary →
    d.PlacesContext invocation surroundings →
    (d.passedOn invocation surroundings).has contextParameter = false
  named_context : ∀ p ∈ named, p.name = contextParameter →
    left.get? p.name = some (.helperContext surroundings invocation.data)
  named_kept : ∀ p ∈ named, p.name ≠ contextParameter →
    left.get? p.name = (d.passedOn invocation surroundings).get? p.name
  unnamed_eq : unnamed named left = (d.resolve invocation surroundings).kwargs.filter
    fun e => !s.any (·.takesName e.1)

section parts

variable (hd : Describes d s) (h : HasParts s positional variadic named collecting) {front left : Named}

include hd h

namespace Fits

variable (hf : Fits d invocation surroundings s positional named variadic collecting front left)
  (hw : s.IsWellFormed)

include hf hw

theorem suppliedByName_eq (hp : p ∈ named) : suppliedByName left p =
    if p.name = contextParameter then some (.helperContext surroundings invocation.data)
    else d.keptValue invocation surroundings p.name <|> p.fallback := by
  unfold suppliedByName
  split
  · next hname => rw [hf.named_context p hp hname]; rfl
  · next hname => rw [hf.named_kept p hp hname, get?_passedOn, if_neg (hd.notMem_params h hw hp)]

theorem suppliedByName_eq_none_iff (hp : p ∈ named) : suppliedByName left p = none ↔
    p.name ≠ contextParameter ∧ p.fallback = none ∧
      (¬ d.Keeps invocation surroundings p.name ∨ d.acceptsKwargs = false) := by
  have hkept : d.keptValue invocation surroundings p.name = none ↔
      (¬ d.Keeps invocation surroundings p.name ∨ d.acceptsKwargs = false) := by
    rw [← Option.not_isSome_iff_eq_none, isSome_keptValue, Classical.not_and_iff_not_or_not, or_comm,
      Bool.not_eq_true]
  rw [hf.suppliedByName_eq hd h hw hp, ← hkept]
  split
  · next hname => simp [hname]
  · next hname =>
    cases d.keptValue invocation surroundings p.name <;> simp [hname]

/-- Only a parameter that is given by name only can be without a value. -/
theorem misfit_iff :
    d.Misfit invocation surroundings ↔ ∃ p ∈ named, suppliedByName left p = none := by
  constructor
  · -- a call that fits gives the surroundings just once, so only the last case is left
    rintro (⟨hp, hcontext, hkind, hplaces, hkwargs, hkeeps⟩ |
      ⟨hp, hcontext, hkind, hplaces, hnone⟩ | ⟨hp, hkind, hname, hfallback, hlost⟩)
    all_goals rw [hd.signature] at hp
    · have hpositional := (h.mem_part hp).1 (by rw [hkind]; rfl)
      have hhas := hf.once _ hpositional (isContext_iff.mp hcontext).1 hkind hplaces
      have hpassed := (has_passedOn_iff (hd.context_notMem_params h)).mpr ⟨hkwargs, hkeeps⟩
      rw [hpassed] at hhas
      cases hhas
    · have hpositional := (h.mem_part hp).1 (by rw [hkind]; rfl)
      obtain ⟨hkwargs, v, hv, -⟩ :=
        hf.unplaced _ hpositional (isContext_iff.mp hcontext).1 hkind hplaces
      simp [hkwargs, hv] at hnone
    · have hnamed := (h.mem_part hp).2.2.1 hkind
      have hnone := (hf.suppliedByName_eq_none_iff hd h hw hnamed).mpr ⟨hname, hfallback, hlost⟩
      exact ⟨_, hnamed, hnone⟩
  · rintro ⟨p, hp, hnone⟩
    obtain ⟨hname, hfallback, hlost⟩ := (hf.suppliedByName_eq_none_iff hd h hw hp).mp hnone
    have hmem : p ∈ d.signature := hd.signature ▸ h.mem_iff.mpr (.inr (.inr (.inl hp)))
    exact .keywordMissing hmem (h.named_kind p hp) hname hfallback hlost

theorem bind?_eq_none_iff : d.handler.bind? (d.resolve invocation surroundings).args
    (d.resolve invocation surroundings).kwargs = none ↔ d.Misfit invocation surroundings := by
  rw [hf.binds, hf.misfit_iff hd h hw]
  constructor
  · intro hnone
    have hgiven : ¬ ∀ p ∈ named, (suppliedByName left p).isSome := by
      intro hgiven
      rw [if_pos hgiven] at hnone
      cases hnone
    simpa using hgiven
  · rintro ⟨p, hp, hnone⟩
    refine if_neg fun hgiven => ?_
    have hsome := hgiven p hp
    simp [hnone] at hsome

theorem receives {bound : Named} (hbound : d.handler.bind? (d.resolve invocation surroundings).args
    (d.resolve invocation surroundings).kwargs = some bound) :
    d.Receives invocation surroundings bound := by
  let tail := boundTail (d.extraPositional invocation) left variadic named collecting
  obtain ⟨hgiven, rfl⟩ :
      (∀ p ∈ named, (suppliedByName left p).isSome) ∧ front ++ tail = bound := by
    rw [hf.binds] at hbound
    simpa using hbound
  have hfront : ∀ {name v}, (name, v) ∈ front → Entries.get? name (front ++ tail) = some v :=
    fun hmem => h.get?_bound hw.nodup_names hf.keys (List.mem_append_left _ hmem)
  have htail : ∀ {name v}, (name, v) ∈ tail → Entries.get? name (front ++ tail) = some v :=
    fun hmem => h.get?_bound hw.nodup_names hf.keys (List.mem_append_right _ hmem)
  constructor
  all_goals rw [hd.signature]
  · intro p hp hkind hname
    obtain ⟨v, hv, hmem⟩ := hf.declared p ((h.mem_part hp).1 hkind) hname
    exact ⟨v, by rwa [resolve_bindings], hfront hmem⟩
  · intro p hp hkind
    exact htail (mem_boundTail_variadic ((h.mem_part hp).2.1 hkind))
  · intro p hp hcontext hplaces
    obtain ⟨hname, hvariadic, hcollecting⟩ := isContext_iff.mp hcontext
    rcases hkind : p.kind.isPositional with _ | _
    · have hkeyword : p.kind = .keywordOnly := by
        cases hk : p.kind <;> simp_all [ParameterKind.isPositional]
      have hnamed := (h.mem_part hp).2.2.1 hkeyword
      have hmem : (p.name, (suppliedByName left p).getD .null) ∈ tail := mem_boundTail_named hnamed
      rw [hf.suppliedByName_eq hd h hw hnamed, if_pos hname] at hmem
      exact htail hmem
    · exact hfront (hf.context p ((h.mem_part hp).1 hkind) hname hplaces)
  · intro p hp hcontext hkind hplaces
    obtain ⟨-, v, hv, hmem⟩ := hf.unplaced p ((h.mem_part hp).1 (by rw [hkind]; rfl))
      (isContext_iff.mp hcontext).1 hkind hplaces
    rw [hv]
    exact hfront hmem
  · intro p hp hkind hname
    have hnamed := (h.mem_part hp).2.2.1 hkind
    have hmem : (p.name, (suppliedByName left p).getD .null) ∈ tail := mem_boundTail_named hnamed
    have hsupplied := hf.suppliedByName_eq hd h hw hnamed
    rw [if_neg hname] at hsupplied
    obtain ⟨v, hv⟩ := Option.isSome_iff_exists.mp (hgiven p hnamed)
    rw [hv] at hmem
    rw [← hsupplied, hv]
    exact htail hmem
  · intro p hp hkind
    have hmem : (p.name, .ofFields (unnamed named left)) ∈ tail :=
      mem_boundTail_collecting ((h.mem_part hp).2.2.2 hkind)
    rw [← hf.unnamed_eq]
    exact htail hmem

end Fits

/-! ## Every call fits or gives the surroundings twice -/

omit hd in
/-- What the positional parameters leave of the named arguments and no other parameter takes. -/
theorem unnamed_eq_filter {kwargs : Named}
    (hfree : ∀ p ∈ positional, p.kind = .ordinary → kwargs.has p.name = false) :
    unnamed named kwargs = kwargs.filter fun e => !s.any (·.takesName e.1) := by
  refine List.filter_congr fun e he => congrArg _ (Bool.eq_iff_iff.mpr ?_)
  rw [List.any_eq_true, List.any_eq_true]
  constructor
  · rintro ⟨p, hp, hname⟩
    refine ⟨p, h.mem_iff.mpr (.inr (.inr (.inl hp))), ?_⟩
    simpa [Parameter.takesName, h.named_kind p hp] using hname
  · rintro ⟨p, hp, htakes⟩
    obtain ⟨hkind, hname⟩ : (p.kind = .ordinary ∨ p.kind = .keywordOnly) ∧ p.name = e.1 := by
      simpa [Parameter.takesName] using htakes
    rcases hkind with hkind | hkind
    · have habsent := hfree p ((h.mem_part hp).1 (by rw [hkind]; rfl)) hkind
      have hmem : e.1 ∈ Entries.keys kwargs := List.mem_map_of_mem he
      rw [hname, Entries.has, Option.isSome_eq_false_iff, Option.isNone_iff_eq_none,
        Entries.get?_eq_none_iff] at habsent
      exact absurd hmem habsent
    · exact ⟨p, (h.mem_part hp).2.2.1 hkind, beq_iff_eq.mpr hname⟩

/-- The call of a handler that takes the surroundings by name only or not at all. -/
theorem Describes.fits_of_no_positional_context (hw : s.IsWellFormed)
    (hno : ∀ p ∈ positional, p.name ≠ contextParameter) :
    Fits d invocation surroundings s positional named variadic collecting
      (d.bindings invocation surroundings) (d.resolve invocation surroundings).kwargs := by
  have hnot : ¬ d.PlacesContext invocation surroundings := by
    rintro ⟨i, hi, -⟩
    rw [hd.optionsIndex_eq_none h hno] at hi
    cases hi
  have hkeys : (d.bindings invocation surroundings).keys = positional.map (·.name) := by
    rw [keys_bindings, hd.params_eq_filter h]
    exact congrArg _ (List.filter_eq_self.mpr fun p hp => bne_iff_ne.mpr (hno p hp))
  have hfree : ∀ p ∈ positional, p.kind = .ordinary →
      (d.resolve invocation surroundings).kwargs.has p.name = false :=
    fun p hp _ => hd.has_kwargs h hnot hp (hno p hp)
  have hcontext : ∀ p ∈ named, p.name = contextParameter → d.acceptsOptions = true := by
    intro p hp hname
    have hmem : p ∈ d.signature := hd.signature ▸ h.mem_iff.mpr (.inr (.inr (.inl hp)))
    refine List.any_eq_true.mpr ⟨p, hmem, isContext_iff.mpr ?_⟩
    simp [hname, h.named_kind p hp]
  have hempty : collecting = none → unnamed named (d.resolve invocation surroundings).kwargs = [] := by
    intro hnone
    rw [resolve_of_not_placed hnot]
    exact hd.unnamed_context_eq_nil h hno hnone
  exact
    { keys := hkeys
      binds := by
        have hargs : (d.resolve invocation surroundings).args =
            (d.bindings invocation surroundings).map (·.2) ++ d.passedExtra invocation := by
          rw [resolve_of_not_placed hnot]
          rfl
        rw [hd.bind?_eq, hargs, h.bind?_eq (h.nodup_named hw) hkeys hfree (hd.passedExtra_eq_nil h),
          hd.boundTail_passedExtra h]
        simp only [and_iff_left hempty]
      declared := fun p hp hname => hd.exists_binding h hp hname
      context := fun p hp hname => absurd hname (hno p hp)
      unplaced := fun p hp hname => absurd hname (hno p hp)
      once := fun p hp hname => absurd hname (hno p hp)
      named_context := fun p hp hname => by
        rw [resolve_of_not_placed hnot, hname]
        simp [hcontext p hp hname]
      named_kept := fun p _ hname => get?_kwargs_of_not_placed hnot hname
      unnamed_eq := unnamed_eq_filter h hfree }

section context

variable {before after : Signature} (hw : s.IsWellFormed)
  (hpositional : positional = before ++ o :: after) (ho : o.name = contextParameter)
  {first second : Named}

include hw hpositional ho

/-- The call of a handler whose parameter for the surroundings stands before some argument. -/
theorem Describes.fits_of_placed (hplaces : d.PlacesContext invocation surroundings)
    (hbindings : d.bindings invocation surroundings = first ++ second)
    (hfirst : first.keys = before.map (·.name)) (hsecond : second.keys = after.map (·.name))
    (honce : o.kind = .ordinary → (d.passedOn invocation surroundings).has contextParameter = false) :
    Fits d invocation surroundings s positional named variadic collecting
      (first ++ (o.name, .helperContext surroundings invocation.data) :: second)
      (d.passedOn invocation surroundings) := by
  have hresolve := hd.resolve_of_placed h hw hpositional ho hplaces hbindings hfirst
  have hfront : ∀ e ∈ d.bindings invocation surroundings,
      e ∈ first ++ (o.name, .helperContext surroundings invocation.data) :: second := by
    intro e he
    rw [hbindings] at he
    rcases List.mem_append.mp he with he | he
    · exact List.mem_append_left _ he
    · exact List.mem_append_right _ (List.mem_cons_of_mem _ he)
  have hsplit : ∀ p ∈ positional, p.name = contextParameter → p = o :=
    fun p hp hname => hd.eq_of_context h hw hpositional ho hp hname
  have hfree : ∀ p ∈ positional, p.kind = .ordinary →
      (d.passedOn invocation surroundings).has p.name = false := by
    intro p hp hkind
    by_cases hname : p.name = contextParameter
    · rw [hname]
      exact honce (hsplit p hp hname ▸ hkind)
    · exact has_passedOn_of_mem (hd.mem_params h hp hname)
  have hkeys : Entries.keys (first ++ (o.name, .helperContext surroundings invocation.data) :: second) =
      positional.map (·.name) := by
    rw [hpositional, List.map_append, List.map_cons, ← hfirst, ← hsecond]
    exact List.map_append
  have hempty : collecting = none → unnamed named (d.passedOn invocation surroundings) = [] := by
    intro hnone
    rw [hd.passedOn_eq_nil h hnone]
    rfl
  exact
    { keys := hkeys
      binds := by
        have hargs : (d.resolve invocation surroundings).args =
            (first ++ (o.name, .helperContext surroundings invocation.data) :: second).map (·.2) ++
              d.passedExtra invocation := by
          rw [hresolve, List.map_append, List.append_assoc]
          rfl
        have hkwargs : (d.resolve invocation surroundings).kwargs =
            d.passedOn invocation surroundings := by rw [hresolve]
        rw [hd.bind?_eq, hargs, hkwargs, h.bind?_eq (h.nodup_named hw) hkeys hfree
          (hd.passedExtra_eq_nil h), hd.boundTail_passedExtra h]
        simp only [and_iff_left hempty]
      declared := fun p hp hname => by
        obtain ⟨v, hv, hmem⟩ := hd.exists_binding h hp hname
        exact ⟨v, hv, hfront _ hmem⟩
      context := fun p hp hname _ => by
        rw [hsplit p hp hname]
        exact List.mem_append_right _ List.mem_cons_self
      unplaced := fun p _ _ _ hnot => absurd hplaces hnot
      once := fun p hp hname hkind _ => honce (hsplit p hp hname ▸ hkind)
      named_context := fun p hp hname => absurd hname (name_ne_of_named h hw hpositional ho hp)
      named_kept := fun p _ _ => rfl
      unnamed_eq := by
        rw [unnamed_eq_filter h hfree, hresolve] }

/-- The call of a handler whose parameter for the surroundings is the last positional one and gets them
by name. -/
theorem Describes.fits_of_ordinary_last (hkind : o.kind = .ordinary)
    (hnot : ¬ d.PlacesContext invocation surroundings) :
    Fits d invocation surroundings s positional named variadic collecting
      (d.bindings invocation surroundings ++ [(o.name, .helperContext surroundings invocation.data)])
      ((d.resolve invocation surroundings).kwargs.erase contextParameter) := by
  obtain ⟨-, hextra, hresolve⟩ := hd.resolve_of_last h hw hpositional ho hnot
  have hkwargs : (d.resolve invocation surroundings).kwargs =
      (d.passedOn invocation surroundings).put contextParameter
        (.helperContext surroundings invocation.data) := by rw [hresolve]
  have hget : ∀ name, name ≠ contextParameter →
      ((d.resolve invocation surroundings).kwargs.erase contextParameter).get? name =
        (d.passedOn invocation surroundings).get? name := by
    intro name hname
    rw [Entries.get?_erase, if_neg fun heq => hname (beq_iff_eq.mp heq).symm]
    exact get?_kwargs_of_not_placed hnot hname
  have hfree : ∀ p ∈ positional, p.kind = .ordinary →
      ((d.resolve invocation surroundings).kwargs.erase contextParameter).has p.name = false := by
    intro p hp _
    rw [Entries.has]
    by_cases hname : p.name = contextParameter
    · simp [hname, Entries.get?_erase]
    · rw [hget p.name hname]
      exact has_passedOn_of_mem (hd.mem_params h hp hname)
  have hempty : collecting = none →
      unnamed named ((d.resolve invocation surroundings).kwargs.erase contextParameter) = [] := by
    intro hnone
    simp [hkwargs, hd.passedOn_eq_nil h hnone, Entries.put, Entries.erase, unnamed]
  have homem : o ∈ positional := by simp [hpositional]
  exact
    { keys := hd.keys_of_last h hw hpositional ho hnot _
      binds := by
        have hcontext : (d.resolve invocation surroundings).kwargs.get? contextParameter =
            some (.helperContext surroundings invocation.data) := by simp [hkwargs]
        rw [hd.bind?_of_last h hw hpositional ho hnot, bind?_cons_ordinary_nil hkind, suppliedByName, ho,
          hcontext, ← hd.bind?_tail_of_last h hw hextra hempty]
        simp [Function.comp_def]
      declared := fun p hp hname => by
        obtain ⟨v, hv, hmem⟩ := hd.exists_binding h hp hname
        exact ⟨v, hv, List.mem_append_left _ hmem⟩
      context := fun p hp hname _ => by
        rw [hd.eq_of_context h hw hpositional ho hp hname]
        simp
      unplaced := fun p hp hname hpkind => by
        rw [hd.eq_of_context h hw hpositional ho hp hname, hkind] at hpkind
        cases hpkind
      once := fun p _ _ _ hplaces => absurd hplaces hnot
      named_context := fun p hp hname => absurd hname (name_ne_of_named h hw hpositional ho hp)
      named_kept := fun p _ hname => hget p.name hname
      unnamed_eq := by
        rw [unnamed_eq_filter h hfree, Entries.erase, List.filter_filter]
        refine List.filter_congr fun e _ => ?_
        by_cases he : e.1 = contextParameter
        · have htakes : (s.any fun p => p.takesName e.1) = true := by
            refine List.any_eq_true.mpr ⟨o, h.mem_iff.mpr (.inl homem), ?_⟩
            simp [Parameter.takesName, hkind, ho, he]
          simp [htakes]
        · simp [he] }

/-- The call of a handler whose parameter for the surroundings is the last positional one, which cannot
be given by name and gets its fallback. -/
theorem Describes.fits_of_positionalOnly_last (hkind : o.kind = .positionalOnly)
    (hnot : ¬ d.PlacesContext invocation surroundings) {v : Value} (hfallback : o.fallback = some v)
    (haccepts : d.acceptsKwargs = true) :
    Fits d invocation surroundings s positional named variadic collecting
      (d.bindings invocation surroundings ++ [(o.name, v)])
      (d.resolve invocation surroundings).kwargs := by
  have hextra := (hd.resolve_of_last h hw hpositional ho hnot).2.1
  have hfree : ∀ p ∈ positional, p.kind = .ordinary →
      (d.resolve invocation surroundings).kwargs.has p.name = false := by
    intro p hp hpkind
    have hname : p.name ≠ contextParameter := by
      intro hname
      rw [hd.eq_of_context h hw hpositional ho hp hname, hkind] at hpkind
      cases hpkind
    exact hd.has_kwargs h hnot hp hname
  exact
    { keys := hd.keys_of_last h hw hpositional ho hnot _
      binds := by
        have hempty : collecting = none →
            unnamed named (d.resolve invocation surroundings).kwargs = [] := by
          intro hnone
          simp [hd.acceptsKwargs_eq h, hnone] at haccepts
        rw [hd.bind?_of_last h hw hpositional ho hnot, bind?_cons_positionalOnly_nil hkind, hfallback,
          ← hd.bind?_tail_of_last h hw hextra hempty]
        simp [Function.comp_def]
      declared := fun p hp hname => by
        obtain ⟨w, hw, hmem⟩ := hd.exists_binding h hp hname
        exact ⟨w, hw, List.mem_append_left _ hmem⟩
      context := fun p hp hname hplaces => by
        rw [hd.eq_of_context h hw hpositional ho hp hname] at hplaces
        exact absurd (hplaces hkind) hnot
      unplaced := fun p hp hname _ _ => by
        rw [hd.eq_of_context h hw hpositional ho hp hname]
        exact ⟨haccepts, v, hfallback, by simp⟩
      once := fun p _ _ _ hplaces => absurd hplaces hnot
      named_context := fun p hp hname => absurd hname (name_ne_of_named h hw hpositional ho hp)
      named_kept := fun p _ hname => get?_kwargs_of_not_placed hnot hname
      unnamed_eq := unnamed_eq_filter h hfree }

theorem Describes.outcome_of_positional_context :
    (∃ front left,
      Fits d invocation surroundings s positional named variadic collecting front left) ∨
      d.Misfit invocation surroundings ∧ d.handler.bind? (d.resolve invocation surroundings).args
        (d.resolve invocation surroundings).kwargs = none := by
  have homem : o ∈ positional := by simp [hpositional]
  have hmem : o ∈ d.signature := hd.signature ▸ h.mem_iff.mpr (.inl homem)
  have hcontext : isContext o = true := by
    rw [isContext_of_positional (h.positional_kind o homem)]
    exact beq_iff_eq.mpr ho
  by_cases hplaces : d.PlacesContext invocation surroundings
  · by_cases htwice : o.kind = .ordinary ∧
        (d.passedOn invocation surroundings).has contextParameter = true
    · obtain ⟨hkind, hhas⟩ := htwice
      obtain ⟨hkwargs, hkeeps⟩ := (has_passedOn_iff (hd.context_notMem_params h)).mp hhas
      exact .inr ⟨.contextTwice hmem hcontext hkind hplaces hkwargs hkeeps,
        hd.bind?_eq_none_of_twice h hw hpositional ho hkind hplaces hhas⟩
    · obtain ⟨first, second, hbindings, hfirst, hsecond⟩ :=
        hd.exists_bindings_append h hw hpositional ho invocation surroundings
      refine .inl ⟨_, _, hd.fits_of_placed h hw hpositional ho hplaces hbindings hfirst hsecond ?_⟩
      exact fun hkind => Bool.eq_false_iff.mpr fun hhas => htwice ⟨hkind, hhas⟩
  · have hpositionalKind := h.positional_kind o homem
    cases hkind : o.kind with
    | ordinary => exact .inl ⟨_, _, hd.fits_of_ordinary_last h hw hpositional ho hkind hplaces⟩
    | positionalOnly =>
      rcases hfallback : o.fallback with _ | v
      · exact .inr ⟨.contextUnplaced hmem hcontext hkind hplaces (.inr hfallback),
          hd.bind?_eq_none_of_unplaced h hw hpositional ho hkind hplaces (.inr hfallback)⟩
      · rcases hkwargs : d.acceptsKwargs with _ | _
        · exact .inr ⟨.contextUnplaced hmem hcontext hkind hplaces (.inl hkwargs),
            hd.bind?_eq_none_of_unplaced h hw hpositional ho hkind hplaces (.inl hkwargs)⟩
        · exact .inl ⟨_, _,
            hd.fits_of_positionalOnly_last h hw hpositional ho hkind hplaces hfallback hkwargs⟩
    | variadic | keywordOnly | variadicKeyword =>
      simp [hkind, ParameterKind.isPositional] at hpositionalKind

end context

end parts

/-- A call misses the signature of its handler in the three cases of `Misfit` only, and otherwise every
parameter receives what is meant for it. -/
theorem bind?_resolve_eq_none_iff (h : Handler) {s : Signature} (hs : h.signature = some s)
    (hw : s.IsWellFormed) : ∃ d, ofHandler h = .ok d ∧ ∀ invocation surroundings,
      let call := d.resolve invocation surroundings
      (h.bind? call.args call.kwargs = none ↔ d.Misfit invocation surroundings) ∧
        ∀ bound, h.bind? call.args call.kwargs = some bound →
          d.Receives invocation surroundings bound := by
  obtain ⟨d, hof, rfl, hd⟩ := exists_describes hs hw
  obtain ⟨positional, variadic, named, collecting, hparts⟩ := exists_hasParts hw.ordered
  refine ⟨d, hof, fun invocation surroundings => ?_⟩
  have houtcome : (∃ front left, Fits d invocation surroundings s positional named variadic collecting
      front left) ∨ d.Misfit invocation surroundings ∧ d.handler.bind?
        (d.resolve invocation surroundings).args (d.resolve invocation surroundings).kwargs = none := by
    by_cases hcontext : ∃ o ∈ positional, o.name = contextParameter
    · obtain ⟨o, hmem, ho⟩ := hcontext
      obtain ⟨before, after, hpositional⟩ := List.append_of_mem hmem
      exact hd.outcome_of_positional_context hparts hw hpositional ho
    · exact .inl ⟨_, _, hd.fits_of_no_positional_context hparts hw
        fun p hp hname => hcontext ⟨p, hp, hname⟩⟩
  rcases houtcome with ⟨front, left, hfits⟩ | ⟨hmisfit, hnone⟩
  · exact ⟨hfits.bind?_eq_none_iff hd hparts hw, fun bound => hfits.receives hd hparts hw⟩
  · refine ⟨iff_of_true hnone hmisfit, fun bound hbound => ?_⟩
    rw [hnone] at hbound
    cases hbound

/-- A handler with parameters of all kinds. -/
def mixedHandler : Handler where
  signature := some [{ name := "url", kind := .positionalOnly }, { name := "options" },
    { name := "rest", kind := .variadic }, { name := "title", kind := .keywordOnly },
    { name := "attributes", kind := .variadicKeyword }]
  run := fun frame => return frame.get "title"

/-- A token of the address uses up `id`, so this name does not reach the handler, but `options` does, by
position and by name. -/
theorem bind?_mixedHandler_eq_none : ∃ s, mixedHandler.signature = some s ∧ s.IsWellFormed ∧
    ∃ d, ofHandler mixedHandler = .ok d ∧
      let call := d.resolve
        { positional := [.str "/users/:id", .int 2],
          named := [("id", .int 7), ("title", .str "t"), ("options", .int 1)] } none
      call.args.length = 3 ∧ call.kwargs.keys = ["title", "options"] ∧
        mixedHandler.bind? call.args call.kwargs = none := by
  have hw : Signature.IsWellFormed [{ name := "url", kind := .positionalOnly }, { name := "options" },
      { name := "rest", kind := .variadic }, { name := "title", kind := .keywordOnly },
      { name := "attributes", kind := .variadicKeyword }] := ⟨by decide, by decide⟩
  obtain ⟨d, hof, hcalls⟩ := bind?_resolve_eq_none_iff mixedHandler rfl hw
  obtain rfl : ⟨["url"], mixedHandler, by decide⟩ = d := Except.ok.inj hof
  refine ⟨_, rfl, hw, _, hof, by decide +kernel, by decide +kernel, ?_⟩
  -- the second parameter is the one for the surroundings
  refine (hcalls _ none).1.mpr <|
    .contextTwice (List.mem_cons_of_mem _ List.mem_cons_self) rfl rfl ?_ rfl ?_
  · exact ⟨1, rfl, by decide +kernel⟩
  · exact ⟨by decide, by decide +kernel⟩

end Descriptor

end PromptTemplates
