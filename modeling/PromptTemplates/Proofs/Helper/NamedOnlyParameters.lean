import PromptTemplates.Proofs.Helper.HandlerCalls

/-!
# Parameters that are given by name only

A call of a handler has named arguments only if the handler collects further ones. So the value that a
template gives for a parameter that is given by name only reaches such a handler; any other handler sees
the fallback of the parameter.
-/

namespace PromptTemplates

namespace Descriptor

open Signature

variable {d : Descriptor} {invocation : Invocation} {surroundings : Option Surroundings}
  {s : Signature} {p : Parameter} {value : Value} {bound : Named}

/-- Every call fits or misses the signature in one of the three cases, and when it fits, every parameter
receives what is meant for it. -/
theorem Describes.outcome (hd : Describes d s) (hw : s.IsWellFormed)
    (invocation : Invocation) (surroundings : Option Surroundings) :
    (d.handler.bind? (d.resolve invocation surroundings).args
        (d.resolve invocation surroundings).kwargs = none ↔ d.Misfit invocation surroundings) ∧
      ∀ bound, d.handler.bind? (d.resolve invocation surroundings).args
        (d.resolve invocation surroundings).kwargs = some bound →
          d.Receives invocation surroundings bound := by
  obtain ⟨positional, variadic, named, collecting, hparts⟩ := exists_hasParts hw.ordered
  by_cases hcontext : ∃ o ∈ positional, o.name = contextParameter
  · obtain ⟨o, hmem, ho⟩ := hcontext
    obtain ⟨before, after, hpositional⟩ := List.append_of_mem hmem
    rcases hd.outcome_of_positional_context hparts hw hpositional ho with
      ⟨front, left, hfits⟩ | ⟨hmisfit, hnone⟩
    · exact ⟨hfits.bind?_eq_none_iff hd hparts hw, fun bound => hfits.receives hd hparts hw⟩
    · simp [hnone, hmisfit]
  · have hno : ∀ p ∈ positional, p.name ≠ contextParameter := fun p hp hname => hcontext ⟨p, hp, hname⟩
    have hfits : Fits d invocation surroundings s positional named variadic collecting _ _ :=
      hd.fits_of_no_positional_context hparts hw hno
    exact ⟨hfits.bind?_eq_none_iff hd hparts hw, fun bound => hfits.receives hd hparts hw⟩

/-- A value that is kept is the one for its parameter if the handler collects named arguments. -/
theorem keptValue_eq (hvalue : invocation.named.get? p.name = some value)
    (hkept : p.name ∉ d.consumed invocation surroundings) :
    d.keptValue invocation surroundings p.name = if d.acceptsKwargs then some value else none := by
  simp [keptValue, hvalue, hkept]

theorem Receives.get?_keywordOnly (h : d.Receives invocation surroundings bound) (hp : p ∈ d.signature)
    (hkind : p.kind = .keywordOnly) (hname : p.name ≠ contextParameter)
    (hvalue : invocation.named.get? p.name = some value)
    (hkept : p.name ∉ d.consumed invocation surroundings) :
    bound.get? p.name = if d.acceptsKwargs then some value else p.fallback := by
  rw [h.named p hp hkind hname, keptValue_eq hvalue hkept]
  cases d.acceptsKwargs <;> rfl

/-- A parameter that is given by name only receives the value that the call gives under its name if the
handler collects further named arguments. Otherwise it has its fallback, whatever the call gives, and the
call does not fit if there is none. -/
theorem keywordOnly_receives (h : Handler) {s : Signature} (hs : h.signature = some s)
    (hw : s.IsWellFormed) {p : Parameter} (hp : p ∈ s) (hkind : p.kind = .keywordOnly)
    (hname : p.name ≠ contextParameter) : ∃ d, ofHandler h = .ok d ∧
      ∀ invocation surroundings value, invocation.named.get? p.name = some value →
        p.name ∉ d.consumed invocation surroundings →
        let call := d.resolve invocation surroundings
        (d.acceptsKwargs = true →
          (h.bind? call.args call.kwargs = none ↔ d.Misfit invocation surroundings) ∧
            ∀ bound, h.bind? call.args call.kwargs = some bound → bound.get? p.name = some value) ∧
          (d.acceptsKwargs = false →
            (p.fallback = none → h.bind? call.args call.kwargs = none) ∧
              ∀ bound, h.bind? call.args call.kwargs = some bound → bound.get? p.name = p.fallback) := by
  obtain ⟨d, hof, rfl, hd⟩ := exists_describes hs hw
  refine ⟨d, hof, fun invocation surroundings value hvalue hkept => ?_⟩
  intro call
  rw [← hd.signature] at hp
  obtain ⟨hfails, hreceives⟩ := hd.outcome hw invocation surroundings
  have hget : ∀ bound, d.handler.bind? call.args call.kwargs = some bound →
      bound.get? p.name = if d.acceptsKwargs then some value else p.fallback := fun bound hbound =>
    (hreceives bound hbound).get?_keywordOnly hp hkind hname hvalue hkept
  constructor
  · intro hkwargs
    simp only [hkwargs, if_true] at hget
    exact ⟨hfails, hget⟩
  · intro hkwargs
    simp only [hkwargs, Bool.false_eq_true, if_false] at hget
    refine ⟨fun hfallback => ?_, hget⟩
    exact hfails.mpr (.keywordMissing hp hkind hname hfallback (.inr hkwargs))

/-- A size that is given by name only. -/
def sizeParameter : Parameter := { name := "size", kind := .keywordOnly, fallback := some (.str "small") }

/-- A handler that collects further named arguments. -/
def frameHandler : Handler where
  signature := some [{ name := "url" }, sizeParameter, { name := "attributes", kind := .variadicKeyword }]
  run := fun frame => return frame.get "size"

def frameCall : Invocation where
  positional := [.str "/pictures/:id"]
  named := [("id", .int 3), ("size", .str "large")]

/-- The address uses up `id`, and the size reaches the handler. -/
theorem keywordOnly_receives_size : ∃ s, frameHandler.signature = some s ∧ s.IsWellFormed ∧
    sizeParameter ∈ s ∧ ∃ d, ofHandler frameHandler = .ok d ∧
      sizeParameter.name ∉ d.consumed frameCall none ∧ ∃ bound,
        frameHandler.bind? (d.resolve frameCall none).args (d.resolve frameCall none).kwargs = some bound ∧
          bound.get? "size" = some (.str "large") := by
  have hw : Signature.IsWellFormed
      [{ name := "url" }, sizeParameter, { name := "attributes", kind := .variadicKeyword }] :=
    ⟨by decide, by decide⟩
  have hp : sizeParameter ∈ [({ name := "url" } : Parameter), sizeParameter,
      { name := "attributes", kind := .variadicKeyword }] := List.mem_cons_of_mem _ List.mem_cons_self
  obtain ⟨d, hof, hcalls⟩ := keywordOnly_receives frameHandler rfl hw hp rfl (by decide)
  obtain rfl : ⟨["url"], frameHandler, by decide⟩ = d := Except.ok.inj hof
  have hkept : sizeParameter.name ∉ consumed ⟨["url"], frameHandler, by decide⟩ frameCall none := by
    decide +kernel
  obtain ⟨-, hbound⟩ := (hcalls frameCall none (.str "large") rfl hkept).1 rfl
  have hfits : (frameHandler.bind? (resolve ⟨["url"], frameHandler, by decide⟩ frameCall none).args
      (resolve ⟨["url"], frameHandler, by decide⟩ frameCall none).kwargs).isSome = true := by
    decide +kernel
  obtain ⟨bound, hbind⟩ := Option.isSome_iff_exists.mp hfits
  exact ⟨_, rfl, hw, hp, _, hof, hkept, bound, hbind, hbound bound hbind⟩

/-- A handler that collects no further named arguments. -/
def boxHandler : Handler where
  signature := some [sizeParameter]
  run := fun frame => return frame.get "size"

/-- The size that the call gives by name does not reach the handler. -/
theorem keywordOnly_misses_size : ∃ d, ofHandler boxHandler = .ok d ∧
    let invocation : Invocation := { named := [("size", .str "large")] }
    let call := d.resolve invocation none
    "size" ∉ d.consumed invocation none ∧
      boxHandler.bind? call.args call.kwargs = some [("size", .str "small")] := by
  refine ⟨⟨[], boxHandler, List.nodup_nil⟩, rfl, ?_, rfl⟩
  exact List.not_mem_nil

end Descriptor

end PromptTemplates
