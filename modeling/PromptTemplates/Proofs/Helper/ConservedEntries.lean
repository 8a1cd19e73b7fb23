import PromptTemplates.Proofs.Helper.AddressReading
import PromptTemplates.Proofs.Helper.BoundNames

/-!
# Named values that are not declared

Such a value either replaces one token of one address or is passed on to the handler. The addresses of a
call are written piece by piece, and the pieces show which values have gone into them.
-/

namespace PromptTemplates

namespace Url

open Text

/-- A piece of an address as it is written: a character, a token that stays, or a token that a value
replaces. -/
inductive Written where
  | plain (c : Char)
  | kept (name : String)
  | filled (name : String) (value : Value)

namespace Written

/-- The piece that was read. -/
def piece : Written → Piece
  | plain c => .plain c
  | kept name => .token name
  | filled name _ => .token name

/-- The text that is written. -/
def text : Written → List Char
  | plain c => [c]
  | kept name => ':' :: name.toList
  | filled _ value => value.text.toList

end Written

/-- Writes pieces from left to right. The value that replaces a token leaves the table. -/
def write (working : Named) : List Piece → List Written
  | [] => []
  | .plain c :: rest => .plain c :: write working rest
  | .token name :: rest =>
    match working.get? name with
    | some value => .filled name value :: write (working.erase name) rest
    | none => .kept name :: write working rest

/-- The values that have replaced the tokens of a name. -/
def fillings (name : String) : List Written → List Value
  | [] => []
  | .filled other value :: rest =>
    if other = name then value :: fillings name rest else fillings name rest
  | .plain _ :: rest => fillings name rest
  | .kept _ :: rest => fillings name rest

variable {working : Named} {pieces : List Piece} {s : List Char} {name : String} {value : Value}

@[simp] theorem write_plain (c : Char) :
    write working (.plain c :: pieces) = .plain c :: write working pieces := rfl

theorem write_token_of_some (h : working.get? name = some value) :
    write working (.token name :: pieces) = .filled name value :: write (working.erase name) pieces := by
  rw [write, h]

theorem write_token_of_none (h : working.get? name = none) :
    write working (.token name :: pieces) = .kept name :: write working pieces := by
  rw [write, h]

@[simp] theorem map_piece_write : (write working pieces).map Written.piece = pieces := by
  induction pieces generalizing working with
  | nil => rfl
  | cons piece pieces ih =>
    cases piece with
    | plain c => simp [Written.piece, ih]
    | token name =>
      cases hvalue : working.get? name with
      | some value => simp [write_token_of_some hvalue, Written.piece, ih]
      | none => simp [write_token_of_none hvalue, Written.piece, ih]

variable {written more : List Written}

@[simp] theorem fillings_plain (c : Char) :
    fillings name (.plain c :: written) = fillings name written := rfl

@[simp] theorem fillings_kept (other : String) :
    fillings name (.kept other :: written) = fillings name written := rfl

theorem fillings_filled (other : String) : fillings name (.filled other value :: written) =
    if other = name then value :: fillings name written else fillings name written := rfl

theorem fillings_append :
    fillings name (written ++ more) = fillings name written ++ fillings name more := by
  induction written with
  | nil => rfl
  | cons w written ih =>
    cases w with
    | plain c => simpa using ih
    | kept other => simpa using ih
    | filled other value => by_cases h : other = name <;> simp [fillings_filled, h, ih]

/-- A name that has tokens replaces the first of them by its value and no other. -/
theorem fillings_write : fillings name (write working pieces) =
    if .token name ∈ pieces then (working.get? name).toList else [] := by
  induction pieces generalizing working with
  | nil => rfl
  | cons piece pieces ih =>
    cases piece with
    | plain c => simp [ih]
    | token other =>
      cases hvalue : working.get? other with
      | none =>
        rw [write_token_of_none hvalue, fillings_kept, ih]
        by_cases h : name = other
        · simp [h, hvalue]
        · simp [h]
      | some value =>
        rw [write_token_of_some hvalue, fillings_filled, ih, Entries.get?_erase]
        by_cases h : other = name
        · simp [← h, hvalue]
        · simp [h, Ne.symm h]

/-- Completing an address writes its pieces. -/
theorem Reads.fill_fst_eq_write (h : Reads s pieces) :
    (fill working s).1 = (write working pieces).flatMap Written.text := by
  induction h generalizing working with
  | nil => rw [fill]; rfl
  | @token first rest pieces start tail ih =>
    rw [fill_token start, ih]
    cases hvalue : working.get? (String.ofList (first :: rest.takeWhile isWordChar)) with
    | some value =>
      rw [write_token_of_some hvalue, Piece.filled_token_of_some hvalue]
      rfl
    | none =>
      rw [write_token_of_none hvalue, Piece.filled_token_of_none hvalue, erase_of_absent hvalue]
      rfl
  | plain noToken _ ih =>
    rw [fill_plain noToken, ih]
    rfl

theorem Reads.without_tokens (h : Reads s pieces) :
    without (tokens s) working = unspent pieces working := by
  refine List.filter_congr fun entry _ => ?_
  simp [h.mem_tokens]

end Url

namespace Descriptor

open Url

/-- The addresses among some names, each as it is written with the table that the addresses before it
leave. -/
inductive WritesAddresses (base : Option String) : (names : List String) → (working : Named) →
    (addresses : List (String × List Written)) → Prop
  | done {working : Named} : WritesAddresses base [] working []
  | address {name url : String} {rest : List String} {working : Named} {pieces : List Piece}
      {addresses : List (String × List Written)} (named : name ∈ addressNames)
      (found : working.get? name = some (.str url)) (reads : Url.Reads (rebase base url).toList pieces)
      (tail : WritesAddresses base rest (unspent pieces working) addresses) :
      WritesAddresses base (name :: rest) working ((name, write working pieces) :: addresses)
  | other {name : String} {rest : List String} {working : Named}
      {addresses : List (String × List Written)}
      (noAddress : name ∈ addressNames → ∀ url, working.get? name ≠ some (.str url))
      (tail : WritesAddresses base rest working addresses) :
      WritesAddresses base (name :: rest) working addresses

variable {d : Descriptor} {invocation : Invocation} {surroundings : Option Surroundings}
  {base : Option String} {position i : Nat} {name key : String} {names rest : List String}
  {working : Named} {pieces : List Piece} {written : List Written} {value : Value}
  {addresses : List (String × List Written)}

theorem exists_writesAddresses (base : Option String) (names : List String) (working : Named) :
    ∃ addresses, WritesAddresses base names working addresses := by
  induction names generalizing working with
  | nil => exact ⟨[], .done⟩
  | cons name rest ih =>
    by_cases haddress : name ∈ addressNames ∧ ∃ url, working.get? name = some (.str url)
    · obtain ⟨hname, url, hurl⟩ := haddress
      obtain ⟨pieces, hreads⟩ := exists_reads (rebase base url).toList
      obtain ⟨addresses, htail⟩ := ih (unspent pieces working)
      exact ⟨_, .address hname hurl hreads htail⟩
    · obtain ⟨addresses, htail⟩ := ih working
      exact ⟨addresses, .other (fun hname url hurl => haddress ⟨hname, url, hurl⟩) htail⟩

theorem addressTokens_address (hname : name ∈ addressNames) {url : String}
    (hurl : working.get? name = some (.str url)) (hreads : Url.Reads (rebase base url).toList pieces) :
    addressTokens base (name :: rest) working =
      tokens (rebase base url).toList ++ addressTokens base rest (unspent pieces working) := by
  simp [addressTokens, hurl, hname, hreads.without_tokens]

theorem addressTokens_other (h : name ∈ addressNames → ∀ url, working.get? name ≠ some (.str url)) :
    addressTokens base (name :: rest) working = addressTokens base rest working := by
  have hnone : addressTokens base [name] working = [] := by
    cases hvalue : working.get? name with
    | none => simp [addressTokens, hvalue]
    | some value =>
      cases value with
      | str url =>
        have hname : name ∉ addressNames := fun hname => h hname url hvalue
        simp [addressTokens, hvalue, hname]
      | _ => simp [addressTokens, hvalue]
  rw [addressTokens_cons, hnone, without_nil, List.nil_append]

/-- An address is bound to what its pieces are written as, and leaves the table without its tokens. -/
theorem bindNames_address (hname : name ∈ addressNames) {url : String}
    (hurl : working.get? name = some (.str url)) (hreads : Url.Reads (rebase base url).toList pieces) :
    (d.bindNames base position (name :: rest) working).1 =
      (name, .str (String.ofList ((write working pieces).flatMap Written.text))) ::
        (d.bindNames base (position + 1) rest (unspent pieces working)).1 := by
  have htext : (normalize url working base).1 =
      String.ofList ((write working pieces).flatMap Written.text) := by
    rw [← hreads.fill_fst_eq_write]
    rfl
  have hleft : (normalize url working base).2 = unspent pieces working := by
    rw [normalize_snd, hreads.without_tokens]
  rw [← htext, ← hleft]
  simp [bindNames, hurl, normalizeParam, hname]

/-- A name that is no address is bound to its value and leaves the table as it is. -/
theorem bindNames_other (h : name ∈ addressNames → ∀ url, working.get? name ≠ some (.str url)) :
    (d.bindNames base position (name :: rest) working).1 =
      (name, (working.get? name).getD (d.defaultFor position)) ::
        (d.bindNames base (position + 1) rest working).1 := by
  cases hvalue : working.get? name with
  | none => simp [bindNames, hvalue]
  | some value =>
    have hsame : normalizeParam base name value working = (value, working) := by
      cases value with
      | str url => exact normalizeParam_of_plain (fun hname => h hname url hvalue) _
      | _ => rfl
    simp [bindNames, hvalue, hsame]

namespace WritesAddresses

theorem keys_sublist (h : WritesAddresses base names working addresses) :
    (addresses.map (·.1)).Sublist names := by
  induction h with
  | done => exact List.Sublist.refl _
  | address _ _ _ _ ih => exact ih.cons_cons _
  | other _ _ ih => exact ih.cons _

/-- A name whose tokens occur in the addresses replaces one token by its value, if it has a value, and any
other name replaces none. -/
theorem fillings_eq (h : WritesAddresses base names working addresses) (key : String) :
    fillings key (addresses.flatMap (·.2)) =
      if key ∈ addressTokens base names working then (working.get? key).toList else [] := by
  induction h with
  | done => simp [addressTokens, fillings]
  | @address first url rest working pieces addresses named found reads _ ih =>
    rw [List.flatMap_cons, fillings_append, fillings_write, ih, get?_unspent]
    simp only [addressTokens_address named found reads, List.mem_append, reads.mem_tokens]
    by_cases hkey : .token key ∈ pieces <;> simp [hkey]
  | other noAddress _ ih => rw [ih, addressTokens_other noAddress]

/-- An address is bound to what is written for it. -/
theorem get?_bindNames_of_mem (h : WritesAddresses base names working addresses) (hnodup : names.Nodup)
    (hmem : (name, written) ∈ addresses) : (d.bindNames base position names working).1.get? name =
      some (.str (String.ofList (written.flatMap Written.text))) := by
  induction h generalizing position with
  | done => cases hmem
  | @address first url rest working pieces addresses named found reads tail ih =>
    obtain ⟨hnew, hnodup⟩ := List.nodup_cons.mp hnodup
    rw [bindNames_address named found reads, Entries.get?]
    rcases List.mem_cons.mp hmem with hfirst | hrest
    · obtain ⟨rfl, rfl⟩ := Prod.mk.inj hfirst
      rw [if_pos (beq_self_eq_true _)]
    · have hne : first ≠ name := by
        rintro rfl
        exact hnew (tail.keys_sublist.subset (List.mem_map_of_mem hrest))
      rw [if_neg (by simpa using hne), ih hnodup hrest]
  | @other first rest working addresses noAddress tail ih =>
    obtain ⟨hnew, hnodup⟩ := List.nodup_cons.mp hnodup
    have hne : first ≠ name := by
      rintro rfl
      exact hnew (tail.keys_sublist.subset (List.mem_map_of_mem hmem))
    rw [bindNames_other noAddress, Entries.get?, if_neg (by simpa using hne), ih hnodup hmem]

/-- Any other name keeps its value, or has its fallback when an address has used up the value. -/
theorem get?_bindNames_of_notMem (h : WritesAddresses base names working addresses)
    (hname : names[i]? = some name) (hnodup : names.Nodup) (hnot : name ∉ addresses.map (·.1)) :
    (d.bindNames base position names working).1.get? name = some (d.defaultFor (position + i)) ∨
      ∃ value, working.get? name = some value ∧
        (d.bindNames base position names working).1.get? name = some value := by
  induction h generalizing position i with
  | done => cases hname
  | @address first url rest working pieces addresses named found reads tail ih =>
    obtain ⟨hne, hnot⟩ : name ≠ first ∧ name ∉ addresses.map (·.1) := by simpa using hnot
    rw [bindNames_address named found reads, Entries.get?, if_neg (by simpa using hne.symm)]
    cases i with
    | zero => exact absurd (Option.some.inj hname).symm hne
    | succ i =>
      rw [Nat.add_comm i 1, ← Nat.add_assoc]
      rcases ih hname (List.nodup_cons.mp hnodup).2 hnot with hdefault | ⟨value, hvalue, hbound⟩
      · exact .inl hdefault
      · rw [get?_unspent] at hvalue
        split at hvalue
        · cases hvalue
        · exact .inr ⟨value, hvalue, hbound⟩
  | @other first rest working addresses noAddress tail ih =>
    rw [bindNames_other noAddress, Entries.get?]
    cases i with
    | zero =>
      obtain rfl : first = name := Option.some.inj hname
      rw [if_pos (beq_self_eq_true _)]
      cases hvalue : working.get? first with
      | none => exact .inl rfl
      | some value => exact .inr ⟨value, rfl, rfl⟩
    | succ i =>
      have hne : first ≠ name := by
        rintro rfl
        exact (List.nodup_cons.mp hnodup).1 (List.mem_of_getElem? hname)
      rw [if_neg (by simpa using hne), Nat.add_comm i 1, ← Nat.add_assoc]
      exact ih hname (List.nodup_cons.mp hnodup).2 hnot

end WritesAddresses

theorem get?_kwargs_of_declared (hname : name ∈ d.params) (hcontext : name ≠ contextParameter) :
    (d.resolve invocation surroundings).kwargs.get? name = none := by
  have hpassed : (d.passedOn invocation surroundings).get? name = none := by
    rw [get?_passedOn, if_pos hname]
  by_cases hplaced : d.PlacesContext invocation surroundings
  · obtain ⟨i, hi, hlt⟩ := placesContext_iff.mp hplaced
    rw [resolve_of_lt hi hlt, hpassed]
  · rw [get?_kwargs_of_not_placed hplaced hcontext, hpassed]

/-- What is passed on by name was given by name and is not declared. -/
theorem mem_named_of_mem_kwargs {entry : String × Value}
    (h : entry ∈ (d.resolve invocation surroundings).kwargs) :
    entry.1 = contextParameter ∨ entry.1 ∉ d.params ∧ entry ∈ invocation.named := by
  by_cases hcontext : entry.1 = contextParameter
  · exact .inl hcontext
  · refine .inr ⟨fun hdeclared => ?_, ?_⟩
    · have hnone : (d.resolve invocation surroundings).kwargs.get? entry.1 = none :=
        get?_kwargs_of_declared hdeclared hcontext
      exact Entries.get?_eq_none_iff.mp hnone (List.mem_map_of_mem h)
    · rcases mem_kwargs h with hnamed | rfl
      · exact hnamed
      · exact absurd rfl hcontext

/-- Every value that is given by name and not declared replaces exactly one token of one address, and is
then not passed on, or it is passed on as it is and replaces none. Nothing else is passed on by name, apart
from the surroundings. -/
theorem resolve_conserves {d : Descriptor} (hkwargs : d.acceptsKwargs = true) (invocation : Invocation)
    (surroundings : Option Surroundings) :
    let call := d.resolve invocation surroundings
    ∃ addresses, WritesAddresses (surroundings.bind (·.baseUrl)) d.params (d.working invocation) addresses ∧
      (∀ name written, (name, written) ∈ addresses →
        call.bindings.get? name = some (.str (String.ofList (written.flatMap Written.text)))) ∧
      (∀ i name, d.params[i]? = some name → name ∉ addresses.map (·.1) →
        call.bindings.get? name = some (d.defaultFor i) ∨
          ∃ value, d.supplied invocation name = some value ∧ call.bindings.get? name = some value) ∧
      (∀ key value, invocation.named.get? key = some value → key ∉ d.params → key ≠ contextParameter →
        fillings key (addresses.flatMap (·.2)) = [value] ∧ call.kwargs.get? key = none ∨
          fillings key (addresses.flatMap (·.2)) = [] ∧ call.kwargs.get? key = some value) ∧
      ∀ entry ∈ call.kwargs,
        entry.1 = contextParameter ∨ entry.1 ∉ d.params ∧ entry ∈ invocation.named := by
  intro call
  obtain ⟨addresses, h⟩ :=
    exists_writesAddresses (surroundings.bind (·.baseUrl)) d.params (d.working invocation)
  refine ⟨addresses, h, ?_, ?_, ?_, fun entry => mem_named_of_mem_kwargs⟩
  · intro name written hmem
    rw [resolve_bindings]
    exact h.get?_bindNames_of_mem d.params_nodup hmem
  · intro i name hname hnot
    rw [resolve_bindings, ← get?_working_of_declared (List.mem_of_getElem? hname), ← Nat.zero_add i]
    exact h.get?_bindNames_of_notMem hname d.params_nodup hnot
  · intro key value hvalue hkey hcontext
    have hfillings := h.fillings_eq key
    have hpassed : call.kwargs.get? key = _ := get?_kwargs hkey hcontext
    rw [get?_working hkey, hvalue] at hfillings
    rw [keptValue, consumed, hkwargs, hvalue] at hpassed
    by_cases hconsumed : key ∈ addressTokens (surroundings.bind (·.baseUrl)) d.params (d.working invocation)
    · left
      simpa [hconsumed] using And.intro hfillings hpassed
    · right
      simpa [hconsumed] using And.intro hfillings hpassed

/-- A handler with two addresses that takes further named arguments. -/
def routeHandler : Handler where
  signature := some [{ name := "url" }, { name := "href" }, { name := "attributes", kind := .variadicKeyword }]
  run := fun frame => return frame.get "attributes"

def routeDescriptor : Descriptor := ⟨["url", "href"], routeHandler, by decide⟩

def routeCall : Invocation where
  positional := [.str "/users/:id"]
  named := [("id", .int 7), ("tab", .str "info"), ("width", .int 2), ("href", .str "/tabs/:id/:tab")]

/-- Both addresses have a token for the first value, which only the first of them takes, and no address has
one for the third value. -/
theorem resolve_conserves_route : routeDescriptor.acceptsKwargs = true ∧
    let call := routeDescriptor.resolve routeCall none
    ∃ addresses, WritesAddresses none routeDescriptor.params (routeDescriptor.working routeCall) addresses ∧
      fillings "id" (addresses.flatMap (·.2)) = [.int 7] ∧ call.kwargs.get? "id" = none ∧
      fillings "width" (addresses.flatMap (·.2)) = [] ∧ call.kwargs.get? "width" = some (.int 2) := by
  have hkwargs : routeDescriptor.acceptsKwargs = true := rfl
  obtain ⟨addresses, haddresses, -, -, hplace, -⟩ := resolve_conserves hkwargs routeCall none
  refine ⟨hkwargs, addresses, haddresses, ?_⟩
  have hid : (routeDescriptor.resolve routeCall none).kwargs.has "id" = false := by decide +kernel
  have hwidth : (routeDescriptor.resolve routeCall none).kwargs.has "width" = true := by decide +kernel
  rcases hplace "id" (.int 7) rfl (by decide) (by decide) with ⟨hfilled, hgone⟩ | ⟨-, hkept⟩
  · rcases hplace "width" (.int 2) rfl (by decide) (by decide) with ⟨-, hgone'⟩ | ⟨hunfilled, hkept⟩
    · simp [Entries.has, hgone'] at hwidth
    · exact ⟨hfilled, hgone, hunfilled, hkept⟩
  · simp [Entries.has, hkept] at hid

end Descriptor

end PromptTemplates
