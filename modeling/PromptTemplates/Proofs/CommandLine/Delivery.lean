import PromptTemplates.CommandLine.Run

/-!
# What a run leaves behind

The text of a result is complete before any of it is written. The file comes first among the places that
it is written to, and writing it is the only step from there on that can fail. So a run that fails leaves
everything as it was, and a run that does not has written the whole text to each of its places.
-/

namespace PromptTemplates

namespace FileTree

variable {tree written : FileTree} {p : Path} {octets : List UInt8} {place names : List String}

/-- A path leads to a file, and all other places are as they were. -/
structure Gains (tree : FileTree) (p : Path) (octets : List UInt8) (written : FileTree) : Prop where
  node : written.node? p = some (.file octets)
  others : ∀ place, tree.place? p ≠ some place → written.nodeAt place = tree.nodeAt place

theorem nodeAt_put {target : List String} (htarget : tree.nodeAt target ≠ some .directory) :
    nodeAt { tree with nodes := tree.nodes.put target (.file octets) } place =
      if target = place then some (.file octets) else tree.nodeAt place := by
  unfold nodeAt at *
  by_cases hplace : target = place
  · subst hplace
    have hinside : ¬ target.isPrefixOf tree.workingDirectory.names = true := by
      intro h
      rw [if_pos h] at htarget
      exact htarget rfl
    simp [hinside]
  · simp [hplace]

/-- A file that is written at a place where no directory is does not change where paths lead. -/
theorem follow_put {target : List String} (htarget : tree.nodeAt target ≠ some .directory) :
    follow { tree with nodes := tree.nodes.put target (.file octets) } place names =
      tree.follow place names := by
  induction names generalizing place with
  | nil => rfl
  | cons name rest ih =>
    unfold follow
    rw [nodeAt_put htarget]
    by_cases hplace : target = place
    · subst hplace
      rw [if_pos rfl]
      cases hnode : tree.nodeAt target with
      | none => rfl
      | some node =>
        cases node with
        | directory => exact absurd hnode htarget
        | file => rfl
    · rw [if_neg hplace, ih]

theorem gains_of_write? (h : tree.write? p octets = some written) : tree.Gains p octets written := by
  unfold write? at h
  cases hplace : tree.place? p with
  | none =>
    rw [hplace] at h
    cases h
  | some target =>
    rw [hplace] at h
    dsimp only at h
    split at h
    · cases h
    next hfree =>
    cases h
    have htarget : tree.nodeAt target ≠ some .directory := fun h => hfree (.inl h)
    constructor
    · have hfollow : place? { tree with nodes := tree.nodes.put target (.file octets) } p =
          some target := (follow_put htarget).trans hplace
      rw [node?, hfollow]
      exact (nodeAt_put htarget).trans (if_pos rfl)
    · intro other hother
      rw [nodeAt_put htarget, if_neg]
      rintro rfl
      exact hother hplace

end FileTree

namespace CommandLine

namespace RunAction

variable {α β : Type} {action : RunAction α} {next : α → RunAction β} {before : Effects}
  {journal : Journal}

/-- What a step ends with, and the effects that it leaves. -/
def result (action : RunAction α) (before : Effects) (journal : Journal) :
    Except RunFault α × Effects := ((action.run.run before).run journal).1

/-- What a step ends with and the effects that it leaves are related. -/
def Leaves (action : RunAction α) (before : Effects) (journal : Journal)
    (post : Except RunFault α → Effects → Prop) : Prop :=
  post (action.result before journal).1 (action.result before journal).2

/-- A failure of the first step leaves the second one out. -/
theorem run_bind : ((action >>= next).run.run before).run journal =
    match (action.run.run before).run journal with
    | ((.ok a, after), journal) => ((next a).run.run after).run journal
    | ((.error fault, after), journal) => ((.error fault, after), journal) := by
  unfold ExceptT.run
  simp only [bind, ExceptT.bind, ExceptT.mk, StateT.run, StateT.bind]
  rcases action before journal with ⟨⟨_ | _, _⟩, _⟩ <;> rfl

theorem result_tryCatch (handle : RunFault → RunAction α) :
    (tryCatch action handle).result before journal =
      match (action.run.run before).run journal with
      | ((.ok a, after), _) => (.ok a, after)
      | ((.error fault, after), journal) => (handle fault).result after journal := by
  unfold tryCatch instMonadExceptOfMonadExceptOf result
  simp only [tryCatchThe, MonadExceptOf.tryCatch, ExceptT.tryCatch, ExceptT.mk, ExceptT.run, StateT.run,
    bind, StateT.bind]
  rcases action before journal with ⟨⟨_ | _, _⟩, _⟩ <;> rfl

theorem result_note (e : Event) :
    (note e >>= fun _ => action).result before journal = action.result before (e :: journal) := rfl

theorem result_getThe {next : Effects → RunAction β} :
    (getThe Effects >>= next).result before journal = (next before).result before journal := rfl

theorem Leaves.mono {post post' : Except RunFault α → Effects → Prop}
    (h : action.Leaves before journal post) (hpost : ∀ outcome after, post outcome after →
      post' outcome after) : action.Leaves before journal post' := hpost _ _ h

/-- A step that goes on from the effects of the one before it. -/
theorem Leaves.bind {mid : Except RunFault α → Effects → Prop}
    {post : Except RunFault β → Effects → Prop} (h : action.Leaves before journal mid)
    (hok : ∀ a after, mid (.ok a) after → ∀ journal, (next a).Leaves after journal post)
    (herror : ∀ fault after, mid (.error fault) after → post (.error fault) after) :
    (action >>= next).Leaves before journal post := by
  unfold Leaves result at *
  rw [run_bind]
  rcases hrun : (action.run.run before).run journal with ⟨⟨fault | a, after⟩, journal'⟩
  · rw [hrun] at h
    exact herror fault after h
  · rw [hrun] at h
    exact hok a after h journal'

/-! ## Steps that keep the effects -/

/-- Whatever a step ends with, it leaves the effects as they were. -/
def KeepsEffects (action : RunAction α) : Prop := ∀ before journal, (action.result before journal).2 = before

theorem KeepsEffects.leaves (h : action.KeepsEffects) : action.Leaves before journal fun outcome after =>
    outcome = (action.result before journal).1 ∧ after = before := ⟨rfl, h before journal⟩

theorem result_ofAction (inner : Action α) : (ofAction inner).result before journal =
    ((inner.run.run journal).1.mapError RunFault.ofFault, before) := by
  unfold result ofAction ExceptT.run
  simp only [bind, StateT.run, StateT.bind]
  rcases inner journal with ⟨_ | _, _⟩ <;> rfl

theorem keepsEffects_ofAction (inner : Action α) : (ofAction inner).KeepsEffects := by
  intro before journal
  rw [result_ofAction]

theorem KeepsEffects.bind (h : action.KeepsEffects) (hnext : ∀ a, (next a).KeepsEffects) :
    (action >>= next).KeepsEffects := by
  intro before journal
  change (action >>= next).Leaves before journal fun _ after => after = before
  apply h.leaves.bind
  · rintro a after ⟨-, rfl⟩ journal
    exact hnext a after journal
  · rintro fault after ⟨-, hafter⟩
    exact hafter

theorem result_ofExcept (outcome : Except Fault α) :
    (ofAction (Action.ofExcept outcome)).result before journal =
      (outcome.mapError RunFault.ofFault, before) := by
  rw [result_ofAction]
  cases outcome <;> rfl

/-! ## Steps that do not fail -/

/-- A step does not fail. It adds a text to the standard output and texts to the clipboard, and keeps the
files. It may add messages. -/
def Writes (action : RunAction α) (a : α) (text : String) (copied : List String) : Prop :=
  ∀ before journal, ∃ messages, action.result before journal = (.ok a, { before with
    stdout := before.stdout ++ text
    copied := before.copied ++ copied
    messages := before.messages ++ messages })

variable {a : α} {b : β} {text text' : String} {copied copied' : List String}

theorem Writes.bind (h : action.Writes a text copied) (hnext : (next a).Writes b text' copied') :
    (action >>= next).Writes b (text ++ text') (copied ++ copied') := by
  intro before journal
  obtain ⟨messages, hresult⟩ := h before journal
  unfold result at *
  rw [run_bind]
  rcases hrun : (action.run.run before).run journal with ⟨⟨fault | a', after⟩, journal'⟩
  · rw [hrun] at hresult
    cases hresult
  · rw [hrun] at hresult
    cases hresult
    obtain ⟨messages', hresult'⟩ := hnext _ journal'
    refine ⟨messages ++ messages', hresult'.trans ?_⟩
    simp only [String.append_assoc, List.append_assoc]

theorem writes_pure (a : α) : (pure a : RunAction α).Writes a "" [] := by
  intro before journal
  refine ⟨[], ?_⟩
  simp only [String.append_empty, List.append_nil]
  rfl

theorem writes_note (e : Event) : (note e).Writes () "" [] := by
  intro before journal
  refine ⟨[], ?_⟩
  simp only [String.append_empty, List.append_nil]
  rfl

theorem writes_say (message : String) : (say message).Writes () "" [] := by
  intro before journal
  refine ⟨[message], ?_⟩
  simp only [String.append_empty, List.append_nil]
  rfl

/-- A text that is written after what is copied. -/
theorem Writes.bind_copied (h : action.Writes a "" copied) (hnext : (next a).Writes b text []) :
    (action >>= next).Writes b text copied := by
  simpa using h.bind hnext

/-- A step that does not depend on what the one before it ends with. -/
theorem Writes.seq {rest : RunAction β} (h : action.Writes a text copied)
    (hrest : rest.Writes b text' copied') :
    (action >>= fun _ => rest).Writes b (text ++ text') (copied ++ copied') := h.bind hrest

theorem Writes.note (e : Event) (h : action.Writes a text copied) :
    (RunAction.note e >>= fun _ => action).Writes a text copied := by
  simpa using (writes_note e).seq h

theorem Writes.say (message : String) (h : action.Writes a text copied) :
    (RunAction.say message >>= fun _ => action).Writes a text copied := by
  simpa using (writes_say message).seq h

end RunAction

open RunAction

theorem writes_writeStdout (canShow : Char → Bool) (text : String) :
    (writeStdout canShow text).Writes () text [] := by
  have hwritten : (modifyThe Effects fun e => { e with stdout := e.stdout ++ text } :
      RunAction Unit).Writes () text [] := by
    intro before journal
    refine ⟨[], ?_⟩
    simp only [List.append_nil]
    rfl
  unfold writeStdout
  split
  · exact hwritten.note _
  · exact hwritten

theorem writes_copy (works : Bool) (text : String) :
    (copy works text).Writes works "" (if works then [text] else []) := by
  have hcopied : (modifyThe Effects fun e => { e with copied := e.copied ++ [text] } :
      RunAction Unit).Writes () "" [text] := by
    intro before journal
    refine ⟨[], ?_⟩
    simp only [String.append_empty, List.append_nil]
    rfl
  unfold copy
  apply Writes.note
  cases works with
  | true =>
    apply hcopied.bind_copied
    exact ((writes_pure true).say _).note _
  | false => exact (((writes_pure false).say _).say _).note _

/-- Whether the text of a run is written to the standard output. -/
def Options.writesStdout (o : Options) (clipboardWorks : Bool) : Bool :=
  (o.output.isNone && !o.clipboard) || (o.clipboard && !clipboardWorks)

/-- Writes a text to everything but the file. -/
def deliverRest (s : Surround) (o : Options) (text : String) : RunAction Unit := do
  let copied ← if o.clipboard then copy s.clipboardWorks (Text.trim text) else pure false
  if o.clipboard && !copied then
    say "Info: Clipboard copy failed. Outputting to stdout instead."
  if (o.output.isNone && !o.clipboard) || (o.clipboard && !copied) then
    RunAction.note .writingToStdout
    writeStdout s.canShow text

theorem writes_deliverRest (s : Surround) (o : Options) (text : String) :
    (deliverRest s o text).Writes () (if o.writesStdout s.clipboardWorks then text else "")
      (if o.clipboard && s.clipboardWorks then [Text.trim text] else []) := by
  have hshown (wanted : Bool) : (if wanted then RunAction.note .writingToStdout >>= fun _ =>
      writeStdout s.canShow text else pure () : RunAction Unit).Writes ()
        (if wanted then text else "") [] := by
    cases wanted with
    | false => exact writes_pure ()
    | true => exact (writes_writeStdout _ _).note _
  unfold deliverRest Options.writesStdout
  cases o.clipboard with
  | false => exact hshown _
  | true =>
    have hcopied := writes_copy s.clipboardWorks (Text.trim text)
    cases hworks : s.clipboardWorks with
    | true =>
      rw [hworks] at hcopied
      apply hcopied.bind_copied
      exact hshown _
    | false =>
      rw [hworks] at hcopied
      apply hcopied.bind_copied
      exact (hshown _).say _

/-! ## A whole run -/

/-- The text of a run is in each of its places, and nothing else is anywhere. -/
structure IsDelivered (s : Surround) (o : Options) (text : String) (effects : Effects) : Prop where
  untouched : o.output = none → effects.files = s.files
  file : ∀ path, o.output = some path →
    s.files.Gains (Path.ofString path) (Text.Utf8.encode text) effects.files
  stdout : effects.stdout = if o.writesStdout s.clipboardWorks then text else ""
  copied : effects.copied = if o.clipboard && s.clipboardWorks then [Text.trim text] else []

/-- The file of a run, if it has one, can be written. -/
def CanWrite (s : Surround) (o : Options) (text : String) : Prop :=
  ∀ path, o.output = some path →
    (s.files.write? (Path.ofString path) (Text.Utf8.encode text)).isSome = true

theorem leaves_writeFile {before : Effects} {journal : Journal} (p : Path) (text : String) :
    (writeFile p text).Leaves before journal fun outcome after =>
      (∃ files messages, before.files.write? p (Text.Utf8.encode text) = some files ∧
        outcome = .ok () ∧ after = { before with files, messages }) ∨
      (before.files.write? p (Text.Utf8.encode text) = none ∧
        outcome = .error (.unwritable p.text) ∧ after = before) := by
  unfold Leaves writeFile
  rw [result_note, result_getThe]
  cases before.files.write? p (Text.Utf8.encode text) with
  | none => exact .inr ⟨rfl, rfl, rfl⟩
  | some files => exact .inl ⟨files, _, rfl, rfl, rfl⟩

theorem deliver_of_none {s : Surround} {o : Options} {text : String} (h : o.output = none) :
    deliver s o text = deliverRest s o text := by
  unfold deliver deliverRest
  rw [h]

theorem deliver_of_some {s : Surround} {o : Options} {text path : String} (h : o.output = some path) :
    deliver s o text = writeFile (Path.ofString path) text >>= fun _ => deliverRest s o text := by
  unfold deliver deliverRest
  rw [h]

/-- What a run of certain options starts with. -/
def initial (s : Surround) : Effects := { files := s.files }

/-- What is noted before a template is rendered. -/
def opening : Journal := [.commandInvoked, .loggingConfigured]

/-- The whole text that a run writes. -/
def resultText (s : Surround) (o : Options) : Except RunFault String := do
  let d ← ((renderDocument s o).result (initial s) opening).1
  let text ← (formatted o.format o.sectionName d).mapError .ofFault
  return text ++ "\n"

variable {s : Surround} {o : Options} {text : String} {journal : Journal}

theorem leaves_deliver : (deliver s o text).Leaves (initial s) journal fun outcome after =>
    (outcome = .ok () ∧ CanWrite s o text ∧ IsDelivered s o text after) ∨
      ((∃ fault, outcome = .error fault) ∧ ¬ CanWrite s o text ∧ after = initial s) := by
  cases hoption : o.output with
  | none =>
    obtain ⟨messages, hresult⟩ := writes_deliverRest s o text (initial s) journal
    rw [deliver_of_none hoption, Leaves, hresult]
    refine .inl ⟨rfl, ?_, ?_⟩
    · simp [CanWrite, hoption]
    · refine ⟨fun _ => rfl, ?_, ?_, rfl⟩
      · simp [hoption]
      · simp [initial]
  | some path =>
    rw [deliver_of_some hoption]
    apply (leaves_writeFile _ _).bind
    · rintro ⟨⟩ after (⟨files, messages, hwrite, -, rfl⟩ | ⟨-, hfault, -⟩) journal
      · obtain ⟨messages', hresult⟩ := writes_deliverRest s o text _ journal
        rw [Leaves, hresult]
        refine .inl ⟨rfl, ?_, ?_⟩
        · intro path' hpath'
          cases hoption.symm.trans hpath'
          exact Option.isSome_of_eq_some hwrite
        · refine ⟨?_, ?_, ?_, rfl⟩
          · simp [hoption]
          · intro path' hpath'
            cases hoption.symm.trans hpath'
            exact FileTree.gains_of_write? hwrite
          · simp [initial]
      · cases hfault
    · rintro fault after (⟨_, _, -, hok, -⟩ | ⟨hwrite, -, hafter⟩)
      · cases hok
      · refine .inr ⟨⟨fault, rfl⟩, ?_, hafter⟩
        intro hcan
        have hsome := hcan path hoption
        rw [show s.files.write? _ _ = none from hwrite] at hsome
        cases hsome

theorem keepsEffects_renderDocument (s : Surround) (o : Options) : (renderDocument s o).KeepsEffects := by
  unfold renderDocument
  refine (keepsEffects_ofAction _).bind fun options => (keepsEffects_ofAction _).bind fun r => ?_
  intro before journal
  unfold result ExceptT.run
  simp only [bind, StateT.run, StateT.bind]
  rcases r.render s.files s.clock _ {} journal with ⟨⟨_ | _, _⟩, _⟩ <;> rfl

theorem resultText_of_document {d : Document}
    (hd : .ok d = ((renderDocument s o).result (initial s) opening).1) :
    resultText s o = (formatted o.format o.sectionName d).mapError .ofFault >>= fun text =>
      .ok (text ++ "\n") := by
  unfold resultText
  rw [← hd]
  rfl

/-- A run ends well with the text of the result in its places, or badly with the effects that it started
with. -/
def AllOrNothing (s : Surround) (o : Options) (outcome : Except RunFault Unit) (after : Effects) : Prop :=
  (outcome = .ok () ∧ ∃ text, resultText s o = .ok text ∧ CanWrite s o text ∧
    IsDelivered s o text after) ∨
  ((∃ fault, outcome = .error fault) ∧ (∀ text, resultText s o = .ok text → ¬ CanWrite s o text) ∧
    after = initial s)

theorem leaves_render : (render s o).Leaves (initial s) opening (AllOrNothing s o) := by
  unfold render
  apply (keepsEffects_renderDocument s o).leaves.bind
  · rintro d after ⟨hd, rfl⟩ journal
    have hresult := resultText_of_document hd
    have hformatted : (ofAction (Action.ofExcept (formatted o.format o.sectionName d))).Leaves
        (initial s) journal fun outcome after => outcome =
          (formatted o.format o.sectionName d).mapError .ofFault ∧ after = initial s := by
      rw [Leaves, result_ofExcept]
      exact ⟨rfl, rfl⟩
    apply hformatted.bind
    · rintro text after ⟨htext, rfl⟩ journal
      rw [← htext] at hresult
      apply leaves_deliver.bind
      · rintro ⟨⟩ after (⟨-, hcan, hdelivered⟩ | ⟨⟨fault, hfault⟩, -⟩) journal
        · have hsummary : IsDelivered s o (text ++ "\n") { after with summary := some (summary d) } :=
            ⟨hdelivered.untouched, hdelivered.file, hdelivered.stdout, hdelivered.copied⟩
          cases o.summary with
          | true => exact .inl ⟨rfl, _, hresult, hcan, hsummary⟩
          | false => exact .inl ⟨rfl, _, hresult, hcan, hdelivered⟩
        · cases hfault
      · rintro fault after (⟨hok, -⟩ | ⟨-, hcan, hafter⟩)
        · cases hok
        · refine .inr ⟨⟨fault, rfl⟩, ?_, hafter⟩
          rintro text' htext'
          cases hresult.symm.trans htext'
          exact hcan
    · rintro fault after ⟨hfault, rfl⟩
      rw [← hfault] at hresult
      refine .inr ⟨⟨fault, rfl⟩, ?_, rfl⟩
      intro text htext
      cases hresult.symm.trans htext
  · rintro fault after ⟨hfault, rfl⟩
    refine .inr ⟨⟨fault, rfl⟩, ?_, rfl⟩
    intro text htext
    unfold resultText at htext
    rw [← hfault] at htext
    cases htext

/-- The notes of a failure change nothing about how a run ends. -/
theorem result_attempt : (attempt s o).result (initial s) [] = (render s o).result (initial s) opening := by
  unfold attempt
  rw [result_note, result_note, result_tryCatch]
  unfold result opening
  rcases ((render s o).run.run (initial s)).run [.commandInvoked, .loggingConfigured] with
    ⟨⟨fault | _, after⟩, journal⟩
  · rfl
  · rfl

/-- The exit code of a run that renders tells how it ended. -/
theorem allOrNothing_run (hrequest : Request.ofArguments s.args s.files = .ok (.render o)) :
    ∃ outcome, AllOrNothing s o outcome (run s).effects ∧
      ((run s).exitCode = 0 ↔ outcome = .ok ()) := by
  have hended : AllOrNothing s o ((attempt s o).result (initial s) []).1
      ((attempt s o).result (initial s) []).2 := by
    rw [result_attempt]
    exact leaves_render
  unfold result initial at hended
  rcases hrun : ((attempt s o).run.run { files := s.files }).run [] with ⟨⟨fault | _, after⟩, journal⟩
  · rw [hrun] at hended
    have hrun : (run s).exitCode = 1 ∧ (run s).effects = after := by
      unfold run
      simp only [hrequest, hrun, and_self]
    rw [hrun.1, hrun.2]
    exact ⟨.error fault, hended, by simp⟩
  · rw [hrun] at hended
    have hrun : (run s).exitCode = 0 ∧ (run s).effects = after := by
      unfold run
      simp only [hrequest, hrun, and_self]
    rw [hrun.1, hrun.2]
    exact ⟨.ok (), hended, by simp⟩

/-- A misused command line has no effects. -/
theorem effects_of_usage {fault : UsageFault}
    (hrequest : Request.ofArguments s.args s.files = .error fault) :
    (run s).effects = initial s := by
  unfold run
  rw [hrequest]
  rfl

/-- A run that fails writes nothing anywhere. A run that renders a template does not fail if there is a
result and it can be written; then the whole text of the result is in each of its places. -/
theorem run_delivers (s : Surround) :
    ((run s).exitCode ≠ 0 →
      (run s).effects.stdout = "" ∧ (run s).effects.files = s.files ∧ (run s).effects.copied = []) ∧
    ∀ o, Request.ofArguments s.args s.files = .ok (.render o) →
      ((run s).exitCode = 0 ↔ ∃ text, resultText s o = .ok text ∧ CanWrite s o text) ∧
      ((run s).exitCode = 0 →
        ∃ text, resultText s o = .ok text ∧ IsDelivered s o text (run s).effects) := by
  constructor
  · intro hcode
    cases hrequest : Request.ofArguments s.args s.files with
    | error fault =>
      rw [effects_of_usage hrequest]
      exact ⟨rfl, rfl, rfl⟩
    | ok request =>
      cases request with
      | showVersion => exact absurd (by simp [run, hrequest]) hcode
      | showHelp => exact absurd (by simp [run, hrequest]) hcode
      | render o =>
        obtain ⟨outcome, hended, hok⟩ := allOrNothing_run hrequest
        rcases hended with ⟨houtcome, -⟩ | ⟨-, -, heffects⟩
        · exact absurd (hok.mpr houtcome) hcode
        · rw [heffects]
          exact ⟨rfl, rfl, rfl⟩
  · intro o hrequest
    obtain ⟨outcome, hended, hok⟩ := allOrNothing_run hrequest
    rw [hok]
    rcases hended with ⟨rfl, text, htext, hcan, hdelivered⟩ | ⟨⟨fault, rfl⟩, hnot, -⟩
    · exact ⟨⟨fun _ => ⟨text, htext, hcan⟩, fun _ => rfl⟩, fun _ => ⟨text, htext, hdelivered⟩⟩
    · constructor
      · constructor
        · rintro ⟨⟩
        · rintro ⟨text, htext, hcan⟩
          exact absurd hcan (hnot text htext)
      · rintro ⟨⟩

/-- A run to a file and a clipboard that does not work, with a standard output that can show nothing. -/
def savedRun : Surround where
  args := ["Hi {{name}}!", "--var", "name=Ada", "-o", "out.md", "--clipboard"]
  files := { workingDirectory := Path.ofString "/w" }
  home := "/u"
  userConfig := Path.ofString "/u/config.toml"
  clock := ⟨Calendar.microsPerDay, .floating, by decide⟩
  clipboardWorks := false
  canShow := fun _ => false

def savedOptions : Options where
  template := "Hi {{name}}!"
  assignments := ["name=Ada"]
  output := some "out.md"
  clipboard := true

theorem run_delivers_savedRun : (run savedRun).exitCode = 0 ∧
    (run savedRun).effects.stdout = "Hi Ada!\n" ∧
      (run savedRun).effects.files.node? (Path.ofString "out.md") =
        some (.file (Text.Utf8.encode "Hi Ada!\n")) := by
  have hrequest : Request.ofArguments savedRun.args savedRun.files = .ok (.render savedOptions) := by
    rfl
  have htext : resultText savedRun savedOptions = .ok "Hi Ada!\n" := by
    have hsome : (resultText savedRun savedOptions).toOption = some "Hi Ada!\n" := by decide +kernel
    cases hresult : resultText savedRun savedOptions with
    | error fault =>
      rw [hresult] at hsome
      cases hsome
    | ok text =>
      rw [hresult] at hsome
      cases hsome
      rfl
  have hcan : CanWrite savedRun savedOptions "Hi Ada!\n" := by
    rintro path ⟨⟩
    decide +kernel
  obtain ⟨hcode, hdelivered⟩ := (run_delivers savedRun).2 savedOptions hrequest
  have hok := hcode.mpr ⟨_, htext, hcan⟩
  obtain ⟨text, htext', hdelivered⟩ := hdelivered hok
  cases htext.symm.trans htext'
  exact ⟨hok, hdelivered.stdout, (hdelivered.file "out.md" rfl).node⟩

end CommandLine

end PromptTemplates
