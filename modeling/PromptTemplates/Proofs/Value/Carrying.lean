import PromptTemplates.Proofs.Journal.Outcomes
import PromptTemplates.Proofs.Value.Tables
import PromptTemplates.Template.Lookup

/-!
# What values carry

A value may hold safe text and the branches of blocks, at any depth. Names, paths and operations lead only
to values that carry no more than those they start from.
-/

namespace PromptTemplates

namespace Value

variable {safe : List String → Prop} {branch : List Node → Prop} {v : Value}

/-- All the safe texts in the value satisfy `safe`, and all the branches of blocks `branch`. -/
inductive Carries (safe : List String → Prop) (branch : List Node → Prop) : Value → Prop
  | null : Carries safe branch .null
  | bool (b) : Carries safe branch (.bool b)
  | int (n) : Carries safe branch (.int n)
  | float (x) : Carries safe branch (.float x)
  | str (s) : Carries safe branch (.str s)
  | bytes (octets) : Carries safe branch (.bytes octets)
  | date (d) : Carries safe branch (.date d)
  | moment (m) : Carries safe branch (.moment m)
  | time (t) : Carries safe branch (.time t)
  | list {items} : (∀ v ∈ items, Carries safe branch v) → Carries safe branch (.list items)
  | tuple {items} : (∀ v ∈ items, Carries safe branch v) → Carries safe branch (.tuple items)
  | map {entries : List (Value × Value)} : (∀ e ∈ entries, Carries safe branch e.1) →
      (∀ e ∈ entries, Carries safe branch e.2) → Carries safe branch (.map entries)
  | safe {parts} : safe parts → Carries safe branch (.safe parts)
  | record {fields : List (String × Value)} : (∀ f ∈ fields, Carries safe branch f.2) →
      Carries safe branch (.record fields)
  | element (tag) {attributes : List (Value × Value)} {content} :
      (∀ e ∈ attributes, Carries safe branch e.1) → (∀ e ∈ attributes, Carries safe branch e.2) →
      Carries safe branch content → Carries safe branch (.element tag attributes content)
  | scope {context parent root index key first last} : Carries safe branch context →
      Carries safe branch parent → Carries safe branch root → Carries safe branch index →
      Carries safe branch key → Carries safe branch first → Carries safe branch last →
      Carries safe branch (.scope context parent root index key first last)
  | block {main other root} : (∀ nodes ∈ main, branch nodes) → (∀ nodes ∈ other, branch nodes) →
      Carries safe branch root → Carries safe branch (.block main other root)
  | helperContext (surroundings) {data : List (String × Value)} :
      (∀ e ∈ data, Carries safe branch e.2) → Carries safe branch (.helperContext surroundings data)
  | method {owner} (name) : Carries safe branch owner → Carries safe branch (.method owner name)

/-- Plain data: neither safe text nor the branches of a block are in it. -/
abbrev IsData (v : Value) : Prop := v.Carries (fun _ => False) fun _ => False

theorem Carries.mono {safe' : List String → Prop} {branch' : List Node → Prop}
    (h : v.Carries safe branch) (hsafe : ∀ parts, safe parts → safe' parts)
    (hbranch : ∀ nodes, branch nodes → branch' nodes) : v.Carries safe' branch' := by
  induction h with
  | null => exact .null
  | bool b => exact .bool b
  | int n => exact .int n
  | float x => exact .float x
  | str s => exact .str s
  | bytes octets => exact .bytes octets
  | date d => exact .date d
  | moment m => exact .moment m
  | time t => exact .time t
  | list _ ih => exact .list ih
  | tuple _ ih => exact .tuple ih
  | map _ _ ihkeys ihvalues => exact .map ihkeys ihvalues
  | safe hparts => exact .safe (hsafe _ hparts)
  | record _ ih => exact .record ih
  | element tag _ _ _ ihkeys ihvalues ihcontent => exact .element tag ihkeys ihvalues ihcontent
  | scope _ _ _ _ _ _ _ ihcontext ihparent ihroot ihindex ihkey ihfirst ihlast =>
    exact .scope ihcontext ihparent ihroot ihindex ihkey ihfirst ihlast
  | block hmain hother _ ihroot =>
    exact .block (fun nodes h => hbranch _ (hmain nodes h)) (fun nodes h => hbranch _ (hother nodes h))
      ihroot
  | helperContext surroundings _ ih => exact .helperContext surroundings ih
  | method name _ ih => exact .method name ih

/-- Plain data carries whatever is asked for. -/
theorem IsData.carries (h : v.IsData) : v.Carries safe branch :=
  h.mono (fun _ => False.elim) fun _ => False.elim

theorem carries_ofLiteral (l : Literal) : (ofLiteral l).Carries safe branch := by
  cases l with
  | text s => exact .str s
  | int n => exact .int n
  | bool b => exact .bool b
  | null => exact .null

theorem carries_ofOption {found : Option Value} (h : ∀ v ∈ found, v.Carries safe branch) :
    (ofOption found).Carries safe branch := by
  cases found with
  | none => exact .null
  | some v => exact h v rfl

theorem Carries.orElse {other : Value} (h : v.Carries safe branch)
    (hother : other.Carries safe branch) : (v.orElse other).Carries safe branch := by
  unfold Value.orElse
  split
  · exact hother
  · exact h

/-! ## Names -/

theorem carries_method? {names : List String} {name : String} (h : v.Carries safe branch) :
    ∀ w ∈ v.method? names name, w.Carries safe branch := by
  intro w hw
  unfold method? at hw
  split at hw
  · obtain rfl := Option.mem_some.mp hw
    exact .method name h
  · cases hw

theorem carries_datePart? (d : Calendar.YearMonthDay) (name : String) :
    ∀ w ∈ datePart? d name, w.Carries safe branch := by
  intro w hw
  unfold datePart? at hw
  split at hw
  · exact Option.mem_some.mp hw ▸ .int _
  · exact Option.mem_some.mp hw ▸ .int _
  · exact Option.mem_some.mp hw ▸ .int _
  · cases hw

theorem carries_clockPart? (hour minute second microsecond : Nat) (name : String) :
    ∀ w ∈ clockPart? hour minute second microsecond name, w.Carries safe branch := by
  intro w hw
  unfold clockPart? at hw
  split at hw
  · exact Option.mem_some.mp hw ▸ .int _
  · exact Option.mem_some.mp hw ▸ .int _
  · exact Option.mem_some.mp hw ▸ .int _
  · exact Option.mem_some.mp hw ▸ .int _
  · cases hw

theorem carries_wholeNumber {name : String} (n : Int) (h : v.Carries safe branch) :
    ∀ w ∈ attribute?.wholeNumber v name n, w.Carries safe branch := by
  intro w hw
  unfold attribute?.wholeNumber at hw
  split at hw
  · exact Option.mem_some.mp hw ▸ .int _
  · exact Option.mem_some.mp hw ▸ .int _
  · exact Option.mem_some.mp hw ▸ .int _
  · exact Option.mem_some.mp hw ▸ .int _
  · exact carries_method? h w hw

theorem carries_or {first second : Option Value} (hfirst : ∀ w ∈ first, w.Carries safe branch)
    (hsecond : ∀ w ∈ second, w.Carries safe branch) :
    ∀ w ∈ (first <|> second), w.Carries safe branch := by
  cases first with
  | none => exact hsecond
  | some found => exact hfirst

theorem Carries.attribute? (h : v.Carries safe branch) (name : String) :
    ∀ w ∈ v.attribute? name, w.Carries safe branch := by
  have hmethod : ∀ names name, ∀ w ∈ v.method? names name, w.Carries safe branch :=
    fun names name => carries_method? h
  unfold Value.attribute?
  cases h with
  | str s => exact hmethod _ _
  | list hitems => exact hmethod _ _
  | safe hparts => exact hmethod _ _
  | tuple hitems => exact hmethod _ _
  | map hkeys hvalues => exact hmethod _ _
  | block hmain hother hroot => exact hmethod _ _
  | record hfields =>
    intro w hw
    exact hfields _ (Entries.mem_of_get? hw)
  | element tag hkeys hvalues hcontent =>
    dsimp only
    split
    · rintro w ⟨⟩
      exact .str tag
    · rintro w ⟨⟩
      exact .map hkeys hvalues
    · rintro w ⟨⟩
      exact hcontent
    · exact hmethod _ _
  | date d => exact carries_or (carries_datePart? _ name) (hmethod _ _)
  | moment m =>
    exact carries_or (carries_clockPart? _ _ _ _ _) (carries_or (carries_datePart? _ name) (hmethod _ _))
  | time t => exact carries_or (carries_clockPart? _ _ _ _ name) (hmethod _ _)
  | bool b => exact carries_wholeNumber _ (.bool b)
  | int n => exact carries_wholeNumber _ (.int n)
  | float x =>
    dsimp only
    split
    · exact fun w hw => Option.mem_some.mp hw ▸ .float _
    · exact fun w hw => Option.mem_some.mp hw ▸ .float _
    · exact hmethod _ _
  | null | bytes | scope | helperContext | method => exact fun w hw => nomatch hw

theorem Carries.pick (h : v.Carries safe branch) (name : String) :
    (v.pick name).Carries safe branch := by
  unfold Value.pick
  refine carries_ofOption (carries_or ?_ (h.attribute? name))
  split
  · next entries =>
    intro w hw
    cases h with
    | map hkeys hvalues => exact hvalues _ (mem_of_found hw)
  · exact fun w hw => nomatch hw

theorem Carries.member (h : v.Carries safe branch) (name : String) :
    (v.member name).Carries safe branch := by
  unfold Value.member
  split
  · cases h with
    | scope hcontext hparent hroot hindex hkey hfirst hlast =>
      split
      · exact hroot
      · exact hparent
      · exact hindex.orElse (hcontext.pick _)
      · exact hkey.orElse (hcontext.pick _)
      · exact hfirst.orElse (hcontext.pick _)
      · exact hlast.orElse (hcontext.pick _)
      · exact hcontext
      · exact hcontext.pick _
  · exact h.pick name

theorem mem_of_nth? {α : Type} {items : List α} {i : Int} {a : α} (h : nth? items i = some a) :
    a ∈ items := by
  unfold nth? at h
  extract_lets position at h
  split at h
  · cases h
  · exact List.mem_of_getElem? h

end Value

/-! ## Paths -/

namespace TemplatePath

open Value (Carries)

variable {safe : List String → Prop} {branch : List Node → Prop} {v w : Value}

theorem carries_of_inItems {items : List Value} (h : ∀ v ∈ items, v.Carries safe branch)
    {segment : String} (hw : inItems items segment = .ok w) : w.Carries safe branch := by
  unfold inItems at hw
  split at hw
  · cases hw
  · split at hw
    · next hnth =>
      cases hw
      exact h _ (Value.mem_of_nth? hnth)
    · cases hw

theorem carries_of_step (h : v.Carries safe branch) {segment : String}
    (hw : step v segment = .ok w) : w.Carries safe branch := by
  unfold step at hw
  split at hw
  · cases hw
    exact .null
  · split at hw
    · cases hw
      exact h
    · cases h with
      | list hitems => exact carries_of_inItems hitems hw
  · split at hw
    · cases hw
      exact h
    · cases h with
      | tuple hitems => exact carries_of_inItems hitems hw
  · split at hw
    · cases hw
      exact h
    · cases hw
      exact h.member segment

theorem carries_of_follow {data : Bool} {path : TemplatePath} (h : v.Carries safe branch)
    (hw : follow data v path = .ok w) : w.Carries safe branch := by
  induction path generalizing data v with
  | nil =>
    cases hw
    exact h
  | cons segment rest ih =>
    unfold follow at hw
    dsimp only at hw
    generalize (if data = true then "@" ++ segment else segment) = name at hw
    split at hw
    · cases hw
      exact .int _
    · split at hw
      · obtain ⟨reached, hstep, hw⟩ := exists_of_bind_eq_ok hw
        exact ih (carries_of_step h hstep) hw
      · obtain ⟨reached, hstep, hw⟩ := exists_of_bind_eq_ok hw
        exact ih (carries_of_step h hstep) hw

theorem carries_of_resolve {path : TemplatePath} (h : v.Carries safe branch)
    (hw : resolve v path = .ok w) : w.Carries safe branch := by
  unfold resolve at hw
  split at hw
  · cases hw
    cases h with
    | scope hcontext => exact hcontext
  · exact carries_of_follow h hw

end TemplatePath

end PromptTemplates
