import PromptTemplates.Fault

/-!
# The journal

Every step that is worth noting leaves an event in the journal, also when a later step fails. An
event has a level, a source and a name. A computation that may fail and keeps a journal is an
`Action`.
-/

namespace PromptTemplates

/-- How important an event is. -/
inductive Level where
  | debug
  | info
  | warning
  | error
  | critical
  deriving DecidableEq, Repr

/-- The rank of a level, from the least important one upwards. -/
def Level.rank : Level → Nat
  | .debug => 10
  | .info => 20
  | .warning => 30
  | .error => 40
  | .critical => 50

/-- The name of a level in a journal. -/
def Level.name : Level → String
  | .debug => "debug"
  | .info => "info"
  | .warning => "warning"
  | .error => "error"
  | .critical => "critical"

/-- The events. The failure of a helper has its name and what the handler failed with. -/
inductive Event where
  | loggingConfigured
  | commandInvoked
  | paramsFileLoaded
  | applicationError
  | unexpectedError
  | unknownConfigKey
  | configFileLoading
  | userConfigLoading
  | projectConfigLoading
  | noConfigLoaded
  | profileApplied
  | pairIgnored
  | templateNotFound
  | templateLoaded
  | cacheHit
  | cacheMiss
  | compilationFailed
  | templateCompiled
  | loadFailed
  | rendering
  | helperFailed
  | evaluationFailed
  | extractionFailed
  | rendered
  | outputExtracted
  | noSignature
  | positionalDropped
  | helperInvocationFailed (helper : String) (cause : Fault)
  | noLongZoneName
  | writingToStdout
  | stdoutFallback
  | writingToFile
  | fileNotWritten
  | fileWritten
  | copying
  | copyFailed
  | copied
  deriving DecidableEq, Repr

namespace Event

/-- Level, source and name of an event. -/
def description : Event → Level × String × String
  | .loggingConfigured => (.info, "promptkit.logging_setup", "logging_configured")
  | .commandInvoked => (.debug, "promptkit.cli.interface", "cli_command_invoked")
  | .paramsFileLoaded => (.debug, "promptkit.cli.interface", "params_file_loaded")
  | .applicationError => (.error, "promptkit.cli.interface", "handled_application_error_in_cli")
  | .unexpectedError => (.critical, "promptkit.cli.interface", "unexpected_critical_error_in_cli")
  | .unknownConfigKey => (.debug, "promptkit.config.settings", "ignoring_unknown_config_key")
  | .configFileLoading => (.debug, "promptkit.config.loader", "loading_toml_config_file")
  | .userConfigLoading => (.info, "promptkit.config.loader", "loading_user_global_config")
  | .projectConfigLoading => (.info, "promptkit.config.loader", "loading_project_local_config")
  | .noConfigLoaded => (.debug, "promptkit.config.loader", "no_configuration_files_loaded")
  | .profileApplied => (.info, "promptkit.config.loader", "applying_profile_settings")
  | .pairIgnored => (.warning, "promptkit.util", "ignoring_malformed_key_value_pair")
  | .templateNotFound =>
    (.debug, "promptkit.core.templating.source", "template_file_not_found_using_literal_source")
  | .templateLoaded => (.debug, "promptkit.core.templating.source", "template_file_loaded")
  | .cacheHit => (.debug, "promptkit.core.templating.cache", "template_cache_hit")
  | .cacheMiss => (.debug, "promptkit.core.templating.cache", "template_cache_miss")
  | .compilationFailed =>
    (.error, "promptkit.core.templating.cache", "template_compilation_failed")
  | .templateCompiled =>
    (.debug, "promptkit.core.templating.cache", "template_compiled_successfully")
  | .loadFailed => (.error, "promptkit.core.templating.renderer", "template_load_failed")
  | .rendering => (.debug, "promptkit.core.templating.renderer", "rendering_template")
  | .helperFailed => (.error, "promptkit.core.templating.renderer", "template_helper_failed")
  | .evaluationFailed => (.error, "promptkit.core.templating.renderer", "template_rendering_error")
  | .extractionFailed =>
    (.error, "promptkit.core.templating.renderer", "template_output_extraction_failed")
  | .rendered => (.info, "promptkit.core.templating.renderer", "template_rendered")
  | .outputExtracted =>
    (.debug, "promptkit.core.templating.extraction", "render_output_extracted")
  | .noSignature =>
    (.debug, "promptkit.core.templating.arguments", "helper_signature_unavailable")
  | .positionalDropped =>
    (.debug, "promptkit.core.templating.arguments", "unbound_positional_arguments_dropped")
  | .helperInvocationFailed .. =>
    (.warning, "promptkit.core.templating.helpers", "helper_invocation_failed")
  | .noLongZoneName =>
    (.debug, "promptkit.core.templating.datetime_format", "no_long_name_for_time_zone")
  | .writingToStdout => (.info, "promptkit.cli.interface", "writing_final_output_to_stdout")
  | .stdoutFallback =>
    (.warning, "promptkit.core.output", "stdout_write_failed_trying_binary_fallback")
  | .writingToFile => (.info, "promptkit.core.output", "writing_output_to_file")
  | .fileNotWritten => (.error, "promptkit.core.output", "failed_to_write_output_file")
  | .fileWritten => (.debug, "promptkit.core.output", "output_successfully_written_to_file")
  | .copying => (.info, "promptkit.core.output", "attempting_to_copy_output_to_clipboard")
  | .copyFailed => (.warning, "promptkit.core.output", "clipboard_copy_failed_pyperclip_exception")
  | .copied => (.info, "promptkit.core.output", "successfully_copied_to_clipboard_via_pyperclip")

/-- The level of an event. -/
def level (e : Event) : Level := e.description.1

end Event

/-- The events so far, the latest first. -/
abbrev Journal := List Event

/-- A computation that keeps a journal. -/
abbrev Logged := StateM Journal

/-- A computation that keeps a journal and may fail. The journal survives the failure. -/
abbrev Action := ExceptT Fault Logged

/-- A phase of rendering that keeps a journal and may fail. -/
abbrev RenderAction := ExceptT RenderFault Logged

/-- Notes an event. -/
def note (e : Event) : Logged Unit := modify (e :: ·)

namespace Action

/-- Fails with a fault that is known by its kind only. -/
def failWith {α : Type} (kind : FaultKind) : Action α := throw (.plain kind)

/-- An optional result; without one the computation fails. -/
def ofOption {α : Type} (kind : FaultKind) : Option α → Action α
  | some a => pure a
  | none => failWith kind

/-- The outcome of a computation that keeps no journal. -/
def ofExcept {α : Type} : Except Fault α → Action α
  | .ok a => pure a
  | .error fault => throw fault

/-- A failure of the first action leaves the second one out. -/
theorem run_bind {α β : Type} (action : Action α) (next : α → Action β) (journal : Journal) :
    (action >>= next).run.run journal =
      match action.run.run journal with
      | (.ok a, journal) => (next a).run.run journal
      | (.error fault, journal) => (.error fault, journal) := by
  unfold ExceptT.run
  simp only [bind, ExceptT.bind, ExceptT.mk, StateT.run, StateT.bind]
  rcases action journal with ⟨_ | _, _⟩ <;> rfl

theorem run_tryCatch {α : Type} (action : Action α) (handle : Fault → Action α) (journal : Journal) :
    (tryCatch action handle).run.run journal =
      match action.run.run journal with
      | (.ok a, journal) => (.ok a, journal)
      | (.error fault, journal) => (handle fault).run.run journal := by
  unfold tryCatch instMonadExceptOfMonadExceptOf
  simp only [tryCatchThe, MonadExceptOf.tryCatch, ExceptT.tryCatch, ExceptT.mk, ExceptT.run, StateT.run,
    bind, StateT.bind]
  rcases action journal with ⟨_ | _, _⟩ <;> rfl

theorem run_ofExcept {α : Type} (result : Except Fault α) (journal : Journal) :
    (ofExcept result).run.run journal = (result, journal) := by
  cases result <;> rfl

/-- Runs a computation from an empty journal. -/
def outcome {α : Type} (action : Action α) : Except Fault α := ((ExceptT.run action).run []).1

end Action

end PromptTemplates
