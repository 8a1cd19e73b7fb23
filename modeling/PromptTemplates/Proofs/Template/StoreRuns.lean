import PromptTemplates.Template.Store
import Mathlib.Data.Finset.Card
import Mathlib.Data.Finset.Dedup

/-!
# Runs of a store

A run of a store is a sequence of requests for templates, with any changes of the files between them.
What a request yields is fixed by the first request for the same key whose template could be made:
later changes of the files and other requests do not matter. A request that fails leaves no trace
among the templates, and the next request for its key starts anew from the files of its time.
-/

namespace PromptTemplates

namespace TemplateMaker

variable (maker : TemplateMaker) (files : FileTree) (key : TemplateKey)

/-- The text that is given to the compiler: the source without the blanks at its ends, if it is found
and its blocks are well nested. -/
def checked? : Option String :=
  match maker.source files key with
  | .error _ => none
  | .ok source =>
    match Nesting.check (Text.trim source) with
    | .error _ => none
    | .ok () => some (Text.trim source)

/-- What comes of making the template of a key from the files. -/
def build : Except RenderFault Template :=
  match maker.source files key with
  | .error fault => .error fault
  | .ok source =>
    match Nesting.check (Text.trim source) with
    | .error cause => .error (.compilation key.identifier (.nesting cause))
    | .ok () =>
      match maker.compile (Text.trim source) with
      | some t => .ok t
      | none => .error (.compilation key.identifier .grammar)

theorem source_of_build {t : Template} (h : maker.build files key = .ok t) :
    ∃ source, maker.source files key = .ok source ∧ maker.compile (Text.trim source) = some t := by
  unfold build at h
  cases hs : maker.source files key with
  | error fault => simp [hs] at h
  | ok source =>
    refine ⟨source, rfl, ?_⟩
    cases hc : Nesting.check (Text.trim source) with
    | error cause => simp [hs, hc] at h
    | ok => cases hm : maker.compile (Text.trim source) <;> simp_all

end TemplateMaker

namespace TemplateStore

/-- What happens around a store: the files change in some way, or a template is asked for. -/
inductive Step where
  | edit (change : FileTree → FileTree)
  | get (key : TemplateKey)

/-- The requests of a run that starts with these files, each with the files of its time. -/
def requests (files : FileTree) : List Step → List (FileTree × TemplateKey)
  | [] => []
  | .edit change :: rest => requests (change files) rest
  | .get key :: rest => (files, key) :: requests files rest

/-- The files, the store and the journal at some point of a run. -/
structure Session where
  files : FileTree
  store : TemplateStore := {}
  journal : Journal := []

variable (maker : TemplateMaker)

/-- The template of the first request for a key whose template could be made. -/
def firstBuilt? (key : TemplateKey) (asked : List (FileTree × TemplateKey)) : Option Template :=
  asked.findSome? fun request =>
    if request.2 = key then (maker.build request.1 key).toOption else none

namespace Session

/-- The answer to a request, and the session after it. -/
def ask (s : Session) (key : TemplateKey) : Except RenderFault Template × Session :=
  let ((answer, store), journal) := ((get s.files key maker).run s.store).run s.journal
  (answer, { s with store, journal })

/-- The session after a step. -/
def step (s : Session) : Step → Session
  | .edit change => { s with files := change s.files }
  | .get key => (s.ask maker key).2

/-- The session after some steps. -/
def run (s : Session) (steps : List Step) : Session := steps.foldl (step maker) s

end Session

/-! ## One request -/

section Request

theorem run_get (files : FileTree) (key : TemplateKey) (store : TemplateStore) (journal : Journal) :
    ((get files key maker).run store).run journal =
      match store.templates.get? key with
      | some t => ((.ok t, store), .cacheHit :: journal)
      | none => (((do
          let source ← resolve maker files key
          let t ← compile maker key source
          keep key t : StoreAction Template).run store).run (.cacheMiss :: journal)) := by
  change ((match store.templates.get? key with
      | some t => (do noteStored .cacheHit; return t : StoreAction Template)
      | none => (do
          noteStored .cacheMiss
          let source ← resolve maker files key
          let t ← compile maker key source
          keep key t : StoreAction Template)).run store).run journal = _
  cases store.templates.get? key <;> rfl

/-- The events of a search for a source are put on top of the journal. -/
theorem run_notes (events : List Event) (journal : Journal) :
    (events.forM note).run journal = ((), events.reverse ++ journal) := by
  induction events generalizing journal with
  | nil => rfl
  | cons e rest ih =>
    change (rest.forM note).run (e :: journal) = _
    rw [ih, List.reverse_cons, List.append_assoc]
    rfl

theorem run_resolve (files : FileTree) (key : TemplateKey) (store : TemplateStore)
    (journal : Journal) :
    ((resolve maker files key).run store).run journal =
      (((maker.source files key).map Text.trim,
        { store with resolutions := store.resolutions + 1 }),
        (maker.events files key).reverse ++ journal) := by
  change ((maker.events files key).forM note >>= fun _ => pure _ : Logged _).run journal = _
  rw [StateT.run_bind, run_notes]
  rfl

theorem run_compile (key : TemplateKey) (text : String) (store : TemplateStore)
    (journal : Journal) :
    ((compile maker key text).run store).run journal =
      match Nesting.check text with
      | .error cause =>
        ((.error (.compilation key.identifier (.nesting cause)), store),
          .compilationFailed :: journal)
      | .ok () =>
        let store := { store with compilations := store.compilations + 1 }
        match maker.compile text with
        | some t => ((.ok t, store), .templateCompiled :: journal)
        | none => ((.error (.compilation key.identifier .grammar), store),
            .compilationFailed :: journal) := by
  unfold compile
  cases hc : Nesting.check text with
  | error cause =>
    simp only [ExceptT.run]
    rfl
  | ok =>
    simp only [ExceptT.run]
    cases maker.compile text <;> rfl

/-- A request for a template that is kept changes nothing but the journal. -/
theorem ask_of_kept {s : Session} {key : TemplateKey} {t : Template}
    (h : s.store.templates.get? key = some t) :
    s.ask maker key = (.ok t, { s with journal := .cacheHit :: s.journal }) := by
  unfold Session.ask
  rw [run_get, h]

/-- What a request leaves in the store if the template is not kept yet. -/
def afterMiss (files : FileTree) (key : TemplateKey) (store : TemplateStore) : TemplateStore where
  templates := match maker.build files key with
    | .ok t => store.templates.put key t
    | .error _ => store.templates
  resolutions := store.resolutions + 1
  compilations := store.compilations + if (maker.checked? files key).isSome then 1 else 0

/-- A request for a template that is not kept makes it from the files of its time. -/
theorem ask_of_absent {s : Session} {key : TemplateKey} (h : s.store.templates.get? key = none) :
    ∃ journal, s.ask maker key =
      (maker.build s.files key, ⟨s.files, afterMiss maker s.files key s.store, journal⟩) := by
  unfold Session.ask
  rw [run_get, h]
  simp only [StoreAction.run_bind, run_resolve, run_compile]
  unfold afterMiss TemplateMaker.build TemplateMaker.checked?
  cases hs : maker.source s.files key with
  | error fault => exact ⟨_, rfl⟩
  | ok source =>
    cases hc : Nesting.check (Text.trim source) with
    | error cause =>
      simp only [Except.map, hc]
      exact ⟨_, rfl⟩
    | ok =>
      cases hm : maker.compile (Text.trim source) with
      | none =>
        simp only [Except.map, hc, hm]
        exact ⟨_, rfl⟩
      | some t =>
        simp only [Except.map, hc, hm]
        exact ⟨_, rfl⟩

theorem absent_of_error {s : Session} {key : TemplateKey} {fault : RenderFault}
    (h : (s.ask maker key).1 = .error fault) :
    s.store.templates.get? key = none ∧ maker.build s.files key = .error fault := by
  cases hk : s.store.templates.get? key with
  | some t =>
    rw [ask_of_kept maker hk] at h
    cases h
  | none =>
    obtain ⟨journal, hask⟩ := ask_of_absent maker hk
    rw [hask] at h
    exact ⟨rfl, h⟩

/-- A request that fails leaves the templates alone. -/
theorem templates_of_error {s : Session} {key : TemplateKey} {fault : RenderFault}
    (h : (s.ask maker key).1 = .error fault) :
    (s.ask maker key).2.store.templates = s.store.templates := by
  obtain ⟨habsent, hbuild⟩ := absent_of_error maker h
  obtain ⟨journal, hask⟩ := ask_of_absent maker habsent
  rw [hask]
  simp only [afterMiss, hbuild]

end Request

/-! ## Whole runs -/

section Runs

theorem exists_of_firstBuilt? {key : TemplateKey} {asked : List (FileTree × TemplateKey)}
    {t : Template} (h : firstBuilt? maker key asked = some t) :
    ∃ found, (found, key) ∈ asked ∧ maker.build found key = .ok t := by
  obtain ⟨⟨found, k⟩, hmem, hbuilt⟩ := List.exists_of_findSome?_eq_some h
  dsimp only at hbuilt
  split_ifs at hbuilt with hk
  subst hk
  refine ⟨found, hmem, ?_⟩
  cases hb : maker.build found k with
  | error fault => simp [hb, Except.toOption] at hbuilt
  | ok t' =>
    simp only [hb, Except.toOption, Option.some.injEq] at hbuilt
    rw [hbuilt]

theorem firstBuilt?_snoc (key : TemplateKey) (asked : List (FileTree × TemplateKey))
    (request : FileTree × TemplateKey) :
    firstBuilt? maker key (asked ++ [request]) =
      (firstBuilt? maker key asked).or
        (if request.2 = key then (maker.build request.1 key).toOption else none) := by
  unfold firstBuilt?
  rw [List.findSome?_append, List.findSome?_singleton]

/-- Requests for other keys build nothing. -/
theorem firstBuilt?_append_of_not_asked {key : TemplateKey}
    (asked : List (FileTree × TemplateKey)) {others : List (FileTree × TemplateKey)}
    (h : ∀ request ∈ others, request.2 ≠ key) :
    firstBuilt? maker key (asked ++ others) = firstBuilt? maker key asked := by
  have hnone : firstBuilt? maker key others = none := by
    apply List.findSome?_eq_none_iff.mpr
    intro request hrequest
    rw [if_neg (h request hrequest)]
  unfold firstBuilt? at *
  rw [List.findSome?_append, hnone, Option.or_none]

theorem ne_key_of_requests {key : TemplateKey} {steps : List Step}
    (h : ∀ step ∈ steps, step ≠ .get key) (files : FileTree) :
    ∀ request ∈ requests files steps, request.2 ≠ key := by
  induction steps generalizing files with
  | nil => simp [requests]
  | cons step rest ih =>
    have hrest := ih fun s hs => h s (List.mem_cons_of_mem _ hs)
    cases step with
    | edit change => exact hrest (change files)
    | get other =>
      intro request hrequest
      rcases List.mem_cons.mp hrequest with rfl | hrequest
      · rintro rfl
        exact h _ List.mem_cons_self rfl
      · exact hrest files request hrequest

/-- A store holds what the requests so far have built, under each key once. -/
structure Reflects (asked : List (FileTree × TemplateKey)) (store : TemplateStore) : Prop where
  get?_eq : ∀ key, store.templates.get? key = firstBuilt? maker key asked
  nodup_keys : (Entries.keys store.templates).Nodup

variable {maker}

theorem Reflects.ask {asked : List (FileTree × TemplateKey)} {s : Session}
    (h : Reflects maker asked s.store) (key : TemplateKey) :
    Reflects maker (asked ++ [(s.files, key)]) (s.ask maker key).2.store := by
  cases hk : s.store.templates.get? key with
  | some t =>
    rw [ask_of_kept maker hk]
    refine ⟨fun other => ?_, h.nodup_keys⟩
    rw [firstBuilt?_snoc, ← h.get?_eq]
    by_cases he : key = other
    · rw [← he, hk, Option.some_or]
    · rw [if_neg he, Option.or_none]
  | none =>
    obtain ⟨journal, ha⟩ := ask_of_absent maker hk
    rw [ha]
    constructor
    · intro other
      rw [firstBuilt?_snoc, ← h.get?_eq]
      by_cases he : key = other
      · subst he
        cases hb : maker.build s.files key <;> simp [afterMiss, hb, hk, Except.toOption]
      · cases hb : maker.build s.files key <;> simp [afterMiss, hb, he]
    · cases hb : maker.build s.files key with
      | error fault => simpa [afterMiss, hb] using h.nodup_keys
      | ok t =>
        have habsent : key ∉ Entries.keys s.store.templates := Entries.get?_eq_none_iff.mp hk
        simp only [afterMiss, hb, Entries.keys_put_of_absent t hk]
        exact List.nodup_append.mpr ⟨h.nodup_keys, List.nodup_singleton _, by
          rintro a ha b hb rfl
          exact habsent (List.mem_singleton.mp hb ▸ ha)⟩

theorem Reflects.run {asked : List (FileTree × TemplateKey)} {s : Session}
    (h : Reflects maker asked s.store) (steps : List Step) :
    Reflects maker (asked ++ requests s.files steps) (s.run maker steps).store := by
  induction steps generalizing asked s with
  | nil => simpa [requests, Session.run] using h
  | cons step rest ih =>
    cases step with
    | edit change =>
      have hedited : Reflects maker asked ({ s with files := change s.files } : Session).store := h
      exact ih hedited
    | get key =>
      have hfiles : (s.ask maker key).2.files = s.files := rfl
      have := ih (h.ask key)
      rw [hfiles, List.append_assoc] at this
      exact this

/-- The number of templates is the number of keys that some request has built. -/
theorem Reflects.size_eq {asked : List (FileTree × TemplateKey)} {store : TemplateStore}
    (h : Reflects maker asked store) :
    store.size = ((asked.map Prod.snd).toFinset.filter fun key =>
      (firstBuilt? maker key asked).isSome).card := by
  have hkeys : (Entries.keys store.templates).toFinset =
      (asked.map Prod.snd).toFinset.filter fun key => (firstBuilt? maker key asked).isSome := by
    ext key
    rw [List.mem_toFinset, Finset.mem_filter, List.mem_toFinset, ← h.get?_eq,
      Option.isSome_iff_ne_none, Ne, Entries.get?_eq_none_iff, not_not]
    refine ⟨fun hk => ⟨?_, hk⟩, And.right⟩
    have hsome : (firstBuilt? maker key asked).isSome := by
      rw [← h.get?_eq, Option.isSome_iff_ne_none, Ne, Entries.get?_eq_none_iff, not_not]
      exact hk
    obtain ⟨t, ht⟩ := Option.isSome_iff_exists.mp hsome
    obtain ⟨found, hfound, _⟩ := exists_of_firstBuilt? maker ht
    exact List.mem_map_of_mem hfound
  rw [← hkeys, List.toFinset_card_of_nodup h.nodup_keys]
  exact (List.length_map _).symm

/-- After a request that fails, the next one for its key makes the template anew. -/
theorem Reflects.retry {asked : List (FileTree × TemplateKey)} {s : Session} {key : TemplateKey}
    {fault : RenderFault} (h : Reflects maker asked s.store)
    (herror : (s.ask maker key).1 = .error fault) {later : List Step}
    (hlater : ∀ step ∈ later, step ≠ .get key) :
    (((s.ask maker key).2.run maker later).ask maker key).1 =
      maker.build ((s.ask maker key).2.run maker later).files key := by
  obtain ⟨habsent, hbuild⟩ := absent_of_error maker herror
  have hafter := (h.ask key).run later
  have hnone : ((s.ask maker key).2.run maker later).store.templates.get? key = none := by
    rw [hafter.get?_eq, firstBuilt?_append_of_not_asked maker _ (ne_key_of_requests hlater _),
      firstBuilt?_snoc, ← h.get?_eq, habsent, hbuild]
    simp [Except.toOption]
  obtain ⟨journal, hask⟩ := ask_of_absent maker hnone
  exact congrArg Prod.fst hask

variable (maker)

/-- What a request yields after any run of a new store. If an earlier request has built the template of
its key, that template is the answer and neither a source is looked for nor a text compiled.
Otherwise the template is made from the files of the time of the request, with one search for the
source, and with one compilation if the source passes the check. A request that fails leaves the
templates alone, and the next request for the key makes the template from the files of its time. -/
theorem ask_after_run (files : FileTree) (journal : Journal) (steps : List Step)
    (key : TemplateKey) :
    let asked := requests files steps
    let before := Session.run maker { files := files, journal := journal } steps
    let answer := (before.ask maker key).1
    let after := (before.ask maker key).2
    (match firstBuilt? maker key asked with
      | some t =>
        answer = .ok t ∧ after.store = before.store ∧
          ∃ found source, (found, key) ∈ asked ∧ maker.source found key = .ok source ∧
            maker.compile (Text.trim source) = some t
      | none =>
        answer = maker.build before.files key ∧
          after.store.resolutions = before.store.resolutions + 1 ∧
          after.store.compilations = before.store.compilations +
            if (maker.checked? before.files key).isSome then 1 else 0) ∧
    (∀ fault, answer = .error fault →
      after.store.templates = before.store.templates ∧
        ∀ later, (∀ step ∈ later, step ≠ .get key) →
          ((after.run maker later).ask maker key).1 =
            maker.build (after.run maker later).files key) ∧
    before.store.size = ((asked.map Prod.snd).toFinset.filter fun key =>
      (firstBuilt? maker key asked).isSome).card := by
  intro asked before answer after
  have hnew : Reflects maker [] ({ files := files, journal := journal } : Session).store :=
    ⟨fun key => rfl, List.nodup_nil⟩
  have hreflects : Reflects maker asked before.store := hnew.run steps
  refine ⟨?_, ?_, hreflects.size_eq⟩
  · cases hfirst : firstBuilt? maker key asked with
    | some t =>
      have hask := ask_of_kept maker ((hreflects.get?_eq key).trans hfirst)
      obtain ⟨found, hfound, hbuild⟩ := exists_of_firstBuilt? maker hfirst
      obtain ⟨source, hsource, hcompile⟩ := maker.source_of_build found key hbuild
      exact ⟨congrArg Prod.fst hask, congrArg (fun p => p.2.store) hask,
        found, source, hfound, hsource, hcompile⟩
    | none =>
      obtain ⟨journal', hask⟩ := ask_of_absent maker ((hreflects.get?_eq key).trans hfirst)
      exact ⟨congrArg Prod.fst hask, congrArg (fun p => p.2.store.resolutions) hask,
        congrArg (fun p => p.2.store.compilations) hask⟩
  · intro fault hfault
    exact ⟨templates_of_error maker hfault, fun later hlater => hreflects.retry hfault hlater⟩

end Runs

end TemplateStore

end PromptTemplates
