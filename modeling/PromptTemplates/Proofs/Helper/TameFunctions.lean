import PromptTemplates.Helper.Block
import PromptTemplates.Proofs.Template.NestedNodes
import PromptTemplates.Proofs.Text.AngleBrackets
import PromptTemplates.Proofs.Value.Carrying

/-!
# Tame functions

Nodes are tame if their texts have no angle brackets and they write all values escaped. A function is tame
if, from values that carry only tame nodes and safe text without angle brackets, it gives null or such safe
text. The block functions are tame, for what they give is what their branches render.
-/

namespace PromptTemplates

open Text (IsAngleFree)

/-- No text among the nodes has an angle bracket, no value is written as it is, and the names that may be
called satisfy `called`. -/
structure IsTame (called : String → Prop) (nodes : List Node) : Prop where
  texts : ∀ s, .text s ∈ nestedIn nodes → IsAngleFree s
  escaped : ∀ n ∈ nestedIn nodes, n.isEscaped = true
  called : ∀ n ∈ nestedIn nodes, ∀ name ∈ n.called, called name

theorem IsTame.of_subset {called : String → Prop} {nodes inner : List Node} (h : IsTame called nodes)
    (hinner : nestedIn inner ⊆ nestedIn nodes) : IsTame called inner where
  texts s hs := h.texts s (hinner hs)
  escaped n hn := h.escaped n (hinner hn)
  called n hn := h.called n (hinner hn)

/-- Parts of output without angle brackets. -/
def AreAngleFree (parts : List String) : Prop := ∀ s ∈ parts, IsAngleFree s

namespace Value

/-- The safe text in the value has no angle brackets, and the branches in it are tame. -/
abbrev IsTame (called : String → Prop) (v : Value) : Prop :=
  v.Carries AreAngleFree (PromptTemplates.IsTame called)

/-- What a tame function gives: null, or safe text without angle brackets. -/
inductive IsTameOutput : Value → Prop
  | null : IsTameOutput .null
  | safe {parts} : AreAngleFree parts → IsTameOutput (.safe parts)

variable {called : String → Prop} {v : Value}

theorem IsTameOutput.isTame (h : v.IsTameOutput) : v.IsTame called := by
  cases h with
  | null => exact .null
  | safe hparts => exact .safe hparts

end Value

variable {called : String → Prop}

/-- Tame nodes are rendered without angle brackets in tame scopes. -/
def Enter.IsTame (called : String → Prop) (enter : Enter) : Prop :=
  ∀ nodes scope, PromptTemplates.IsTame called nodes → Value.IsTame called scope →
    (enter nodes scope).Yields AreAngleFree

def TemplateFunction.IsTame (called : String → Prop) (f : TemplateFunction) : Prop :=
  ∀ this args kwargs enter, Value.IsTame called this → (∀ v ∈ args, Value.IsTame called v) →
    (∀ e ∈ kwargs, Value.IsTame called e.2) → Enter.IsTame called enter →
      (f this args kwargs enter).Yields Value.IsTameOutput

/-! ## Binding -/

theorem forall_of_map_cons {α : Type} {P : α → Prop} {first : α} {found : Option (List α)}
    {all : List α} (hfirst : P first) (hfound : ∀ rest, found = some rest → ∀ a ∈ rest, P a)
    (h : found.map (first :: ·) = some all) : ∀ a ∈ all, P a := by
  obtain ⟨rest, hrest, rfl⟩ := Option.map_eq_some_iff.mp h
  exact List.forall_mem_cons.mpr ⟨hfirst, hfound rest hrest⟩

namespace Signature

variable {safe : List String → Prop} {branch : List Node → Prop} {kwargs : Named}

theorem carries_of_named {p : Parameter} {v : Value} (hkwargs : ∀ e ∈ kwargs, e.2.Carries safe branch)
    (hown : ∀ v ∈ p.fallback, v.Carries safe branch) (hv : (kwargs.get? p.name <|> p.fallback) = some v) :
    v.Carries safe branch :=
  Value.carries_or (fun _ hv => hkwargs _ (Entries.mem_of_get? hv)) hown v hv

theorem carries_of_erase (name : String) (hkwargs : ∀ e ∈ kwargs, e.2.Carries safe branch) :
    ∀ e ∈ kwargs.erase name, e.2.Carries safe branch :=
  fun e he => hkwargs e (List.mem_filter.mp he).1

theorem carries_collected (hkwargs : ∀ e ∈ kwargs, e.2.Carries safe branch) :
    (Value.map (kwargs.map fun entry => (.str entry.1, entry.2))).Carries safe branch := by
  refine .map (fun e he => ?_) fun e he => ?_
  · obtain ⟨_, -, rfl⟩ := List.mem_map.mp he
    exact .str _
  · obtain ⟨entry, hentry, rfl⟩ := List.mem_map.mp he
    exact hkwargs entry hentry

/-- The values that parameters are bound to come from the call and from fallbacks. -/
theorem carries_of_bind? {signature : Signature} {args : List Value} {bound : Named}
    (hfallback : ∀ p ∈ signature, ∀ v ∈ p.fallback, v.Carries safe branch)
    (hargs : ∀ v ∈ args, v.Carries safe branch) (hkwargs : ∀ e ∈ kwargs, e.2.Carries safe branch)
    (h : signature.bind? args kwargs = some bound) : ∀ e ∈ bound, e.2.Carries safe branch := by
  have hnone : ∀ v ∈ ([] : List Value), v.Carries safe branch := by simp
  fun_induction Signature.bind? signature args kwargs generalizing bound with
  | case1 =>
    cases h
    simp
  | case2 => cases h
  | case3 p rest kwargs arg args hkind ih =>
    obtain ⟨harg, hargs⟩ := List.forall_mem_cons.mp hargs
    have hrest := (List.forall_mem_cons.mp hfallback).2
    exact forall_of_map_cons harg (fun _ => ih hrest hargs hkwargs) h
  | case4 p rest kwargs hkind ih =>
    obtain ⟨hown, hrest⟩ := List.forall_mem_cons.mp hfallback
    obtain ⟨v, hv, h⟩ := Option.bind_eq_some_iff.mp h
    exact forall_of_map_cons (hown v hv) (fun _ => ih hrest hnone hkwargs) h
  | case5 => cases h
  | case6 p rest kwargs arg args hkind hhas ih =>
    obtain ⟨harg, hargs⟩ := List.forall_mem_cons.mp hargs
    have hrest := (List.forall_mem_cons.mp hfallback).2
    exact forall_of_map_cons harg (fun _ => ih hrest hargs hkwargs) h
  | case7 p rest kwargs hkind ih =>
    obtain ⟨hown, hrest⟩ := List.forall_mem_cons.mp hfallback
    obtain ⟨v, hv, h⟩ := Option.bind_eq_some_iff.mp h
    have hleft := carries_of_erase p.name hkwargs
    exact forall_of_map_cons (carries_of_named hkwargs hown hv) (fun _ => ih hrest hnone hleft) h
  | case8 p rest kwargs args hkind ih =>
    have hrest := (List.forall_mem_cons.mp hfallback).2
    exact forall_of_map_cons (.tuple hargs) (fun _ => ih hrest hnone hkwargs) h
  | case9 p rest kwargs args hkind ih =>
    obtain ⟨hown, hrest⟩ := List.forall_mem_cons.mp hfallback
    obtain ⟨v, hv, h⟩ := Option.bind_eq_some_iff.mp h
    have hleft := carries_of_erase p.name hkwargs
    exact forall_of_map_cons (carries_of_named hkwargs hown hv) (fun _ => ih hrest hargs hleft) h
  | case10 p rest kwargs args hkind ih =>
    have hrest := (List.forall_mem_cons.mp hfallback).2
    exact forall_of_map_cons (carries_collected hkwargs) (fun _ => ih hrest hargs (by simp)) h

end Signature

namespace Block

variable {enter : Enter} {this options context v : Value}

/-! ## Operations -/

theorem carries_of_callMethod {safe : List String → Prop} {branch : List Node → Prop} {owner : Value}
    {name : String} {args : List Value} {kwargs : Named} (howner : owner.Carries safe branch)
    (hargs : ∀ v ∈ args, v.Carries safe branch) (h : callMethod owner name args kwargs = .ok v) :
    v.Carries safe branch := by
  have hmap : ∀ w, callMapMethod name args = .ok w → w.Carries safe branch := by
    intro w hw
    unfold callMapMethod at hw
    split at hw <;> cases hw
    · exact .null
    · exact hargs _ List.mem_cons_self
    · exact .null
    · exact hargs _ List.mem_cons_self
    · exact hargs _ List.mem_cons_self
  have hlist : ∀ w, callListMethod name args = .ok w → w.Carries safe branch := by
    intro w hw
    unfold callListMethod at hw
    split at hw <;> cases hw
    · exact .int 0
    · exact .null
  unfold callMethod at h
  split at h
  · split at h
    · cases h
      exact howner
    · cases h
  · split at h
    · cases h
    · split at h
      · exact hmap v h
      · exact hmap v h
      · exact hlist v h
      · exact hlist v h
      · exact hlist v h
      · cases h

theorem carries_of_settle {safe : List String → Prop} {branch : List Node → Prop}
    (hcontext : context.Carries safe branch) (h : settle context = .ok v) : v.Carries safe branch := by
  unfold settle at h
  split at h
  · cases hcontext with
    | method name howner => exact carries_of_callMethod howner (by simp) h
  · cases h
    exact hcontext

/-! ## Scopes -/

theorem carries_ensureScope {safe : List String → Prop} {branch : List Node → Prop} {root : Value}
    (hv : v.Carries safe branch) (hroot : root.Carries safe branch) :
    (ensureScope v root).Carries safe branch := by
  unfold ensureScope
  split
  · exact hv
  · exact .scope hv hv hroot .null .null .null .null

theorem carries_rootOf {safe : List String → Prop} {branch : List Node → Prop}
    (h : options.Carries safe branch) : (rootOf options).Carries safe branch := by
  unfold rootOf
  split
  · cases h with
    | block hmain hother hroot => exact hroot
  · exact .null

theorem carries_itemScope {safe : List String → Prop} {branch : List Node → Prop}
    {root item key : Value} {index count : Nat} (hthis : this.Carries safe branch)
    (hroot : root.Carries safe branch) (hitem : item.Carries safe branch)
    (hkey : key.Carries safe branch) : (itemScope this root item key index count).Carries safe branch :=
  .scope hitem hthis hroot (.int _) hkey (.bool _) (.bool _)

theorem carries_of_items? {safe : List String → Prop} {branch : List Node → Prop}
    {items : List (Value × Value)} (h : v.Carries safe branch) (hitems : items? v = some items) :
    ∀ e ∈ items, e.1.Carries safe branch ∧ e.2.Carries safe branch := by
  have hplain : ∀ {α : Type} {make : α → Value} {members : List α},
      (∀ a ∈ members, (make a).Carries safe branch) →
        ∀ e ∈ members.map fun a => (Value.null, make a), e.1.Carries safe branch ∧
          e.2.Carries safe branch := by
    intro α make members hmembers e he
    obtain ⟨a, ha, rfl⟩ := List.mem_map.mp he
    exact ⟨.null, hmembers a ha⟩
  fun_induction items? v with
  | case1 values =>
    cases hitems
    cases h with
    | list hvalues => exact hplain hvalues
  | case2 values =>
    cases hitems
    cases h with
    | tuple hvalues => exact hplain hvalues
  | case3 parts =>
    cases hitems
    exact hplain fun s _ => .str s
  | case4 s =>
    cases hitems
    exact hplain fun c _ => .str _
  | case5 octets =>
    cases hitems
    exact hplain fun b _ => .int _
  | case6 entries =>
    cases hitems
    cases h with
    | map hkeys hvalues => exact fun e he => ⟨hkeys e he, hvalues e he⟩
  | case7 context parent root index key first last ih =>
    cases h with
    | scope hcontext => exact ih hcontext hitems
  | case8 => cases hitems

/-! ## Branches -/

variable (henter : enter.IsTame called) (hoptions : options.IsTame called)

include henter hoptions

theorem yields_renderBranch (branch : Branch) (hcontext : context.IsTame called) :
    (renderBranch enter options branch context).Yields Value.IsTameOutput := by
  unfold renderBranch
  cases hoptions with
  | @block main other root hmain hother hroot =>
    have hscope := carries_ensureScope hcontext hroot
    have hrender : ∀ nodes, IsTame called nodes →
        (do return .safe (← enter nodes (ensureScope context root)) : Action Value).Yields
          Value.IsTameOutput :=
      fun nodes hnodes => (henter nodes _ hnodes hscope).bind fun parts hparts => .pure (.safe hparts)
    dsimp only
    split
    · next nodes => exact hrender nodes (hmain nodes rfl)
    · next nodes => exact hrender nodes (hother nodes rfl)
    · exact .pure .null
  | map => exact .throw _
  | _ => exact .throw _

/-- What is rendered for an item are parts of output, if it can be joined at all. -/
theorem yields_renderItems (hthis : this.IsTame called) (count index : Nat)
    {items : List (Value × Value)}
    (hitems : ∀ e ∈ items, e.1.IsTame called ∧ e.2.IsTame called) :
    (renderItems enter this options count index items).Yields AreAngleFree := by
  have hnone : AreAngleFree [] := fun s hs => absurd hs List.not_mem_nil
  induction items generalizing index with
  | nil => exact .pure hnone
  | cons item rest ih =>
    obtain ⟨hitem, hrest⟩ := List.forall_mem_cons.mp hitems
    have hscope : (itemScope this (rootOf options) item.2 item.1 index count).IsTame called :=
      carries_itemScope hthis (carries_rootOf hoptions) hitem.2 hitem.1
    unfold renderItems
    refine Action.Yields.bind (P := AreAngleFree) ?_ fun rendered hrendered => ?_
    · refine .tryCatch ?_ fun fault => ?_
      · refine (yields_renderBranch henter hoptions .main hscope).bind fun v hv => ?_
        refine .ofExcept fun rendered hrendered => ?_
        cases hv with
        | null => cases hrendered
        | safe hparts =>
          cases hrendered
          exact hparts
      · exact .ite (.pure hnone) (.throw _)
    · refine (ih (index + 1) hrest).bind fun others hothers => .pure ?_
      exact List.forall_mem_append.mpr ⟨hrendered, hothers⟩

theorem yields_each (hthis : this.IsTame called) (hcontext : context.IsTame called) :
    (each enter this options context).Yields Value.IsTameOutput := by
  unfold each
  split
  · next first rest hitems =>
    have hall := carries_of_items? hcontext hitems
    exact (yields_renderItems henter hoptions hthis _ 0 hall).bind fun parts hparts =>
      .pure (.safe hparts)
  · exact yields_renderBranch henter hoptions .other hthis

theorem yields_sectionOf (hthis : this.IsTame called) (hcontext : context.IsTame called) :
    (sectionOf enter this options context).Yields Value.IsTameOutput := by
  unfold sectionOf
  refine (Action.Yields.ofExcept fun v hv => carries_of_settle hcontext hv).bind fun v hv => ?_
  refine .ite (yields_renderBranch henter hoptions .other hthis) ?_
  split
  · exact yields_each henter hoptions hthis hv
  · exact yields_each henter hoptions hthis hv
  · exact yields_each henter hoptions hthis hv
  · exact yields_renderBranch henter hoptions .main hthis
  · exact yields_renderBranch henter hoptions .main hv

omit henter hoptions

/-! ## Functions -/

theorem isTame_function {signature : Signature} {run : Frame → Action Value}
    (hfallback : ∀ p ∈ signature, p.fallback = none)
    (h : ∀ bound enter, (∀ e ∈ bound, e.2.IsTame called) → Enter.IsTame called enter →
      (run ⟨bound, enter⟩).Yields Value.IsTameOutput) : (function signature run).IsTame called := by
  intro this args kwargs enter hthis hargs hkwargs henter
  unfold function Handler.call Handler.bind?
  dsimp only
  split
  · next bound hbound =>
    refine h bound enter (Signature.carries_of_bind? ?_ ?_ hkwargs hbound) henter
    · intro p hp v hv
      rw [hfallback p hp] at hv
      cases hv
    · exact List.forall_mem_cons.mpr ⟨hthis, hargs⟩
  · exact .throw _

theorem isTame_get {bound : Named} (h : ∀ e ∈ bound, e.2.IsTame called) (enter : Enter)
    (name : String) : (Frame.get ⟨bound, enter⟩ name).IsTame called := by
  unfold Frame.get
  cases hget : bound.get? name with
  | none => exact .null
  | some v => exact h _ (Entries.mem_of_get? hget)

theorem isTame_blockFunction {run : Enter → (this options context : Value) → Action Value}
    (h : ∀ enter, Enter.IsTame called enter → ∀ this options context, this.IsTame called →
      options.IsTame called → context.IsTame called →
        (run enter this options context).Yields Value.IsTameOutput) :
    (blockFunction run).IsTame called := by
  refine isTame_function (by decide) fun bound enter hbound henter => ?_
  exact h enter henter _ _ _ (isTame_get hbound enter _) (isTame_get hbound enter _)
    (isTame_get hbound enter _)

/-- All the functions that templates always have are tame but the look-up, which gives what it finds. -/
theorem isTame_functions : ∀ entry ∈ functions, entry.1 ≠ "lookup" → entry.2.IsTame called := by
  intro entry hentry hname
  simp only [functions, List.mem_cons, List.not_mem_nil, or_false] at hentry
  rcases hentry with rfl | rfl | rfl | rfl | rfl | rfl | rfl | rfl
  · refine isTame_function (by decide) fun bound enter hbound henter => ?_
    split
    · exact .throw _
    · exact .pure .null
  · exact isTame_blockFunction fun enter henter this options context hthis hoptions hcontext =>
      yields_sectionOf henter hoptions hthis hcontext
  · exact isTame_blockFunction fun enter henter this options context hthis hoptions hcontext =>
      yields_each henter hoptions hthis hcontext
  · dsimp only
    refine isTame_blockFunction fun enter henter this options context hthis hoptions hcontext => ?_
    exact (Action.Yields.ofExcept fun _ _ => trivial).bind fun v _ =>
      yields_renderBranch henter hoptions _ hthis
  · dsimp only
    refine isTame_blockFunction fun enter henter this options context hthis hoptions hcontext => ?_
    exact .ite (.pure .null) (yields_renderBranch henter hoptions .main hthis)
  · dsimp only
    refine isTame_blockFunction fun enter henter this options context hthis hoptions hcontext => ?_
    refine (Action.Yields.ofExcept fun v hv => carries_of_settle hcontext hv).bind fun v hv => ?_
    exact yields_renderBranch henter hoptions .main hv
  · exact absurd rfl hname
  · exact isTame_function (by decide) fun bound enter hbound henter => .pure .null

end Block

end PromptTemplates
