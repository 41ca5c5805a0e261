import FetchClient.Proofs.Generation.Failure
import FetchClient.Proofs.Watch.Ending

/-!
# Which errors end a session

The errors of a cycle are reported, and the session goes on. What is wrong with a template that is
no template is found before the first cycle already.

- `cases_of_start_error`, `Loop.Runs.error_eq`: the errors with which a session does not begin, and
  with which it ends;
- `generation_failures_reported`: a generation failure ends a session only where the template is
  malformed;
- `malformed_template_refused`: and there it does.
-/

namespace FetchClient.Watch

open Files (Fault Tree)
open Generation (HasMalformedTemplate cases_of_setUp_error isGenerationFailure_of_cycle
  readText_template setUp_of_malformed templateConfig templateTree)

variable {config : Config} {template : Template} {watcher : Watcher} {tree : Tree} {error : Error}
  {session : Session}

/-! ## Cycles -/

/-- A cycle that fails is reported. -/
theorem failedMessage_mem_lines_endCycle (session : Session) (error : Error) :
    ⟨.error, Session.failedMessage error⟩ ∈ (session.endCycle (.error error)).lines := by
  unfold Session.endCycle
  exact List.mem_cons_self

theorem reported_of_cycle
    (h : (Generation.cycle session.config session.beginCycle.cycleTemplate tree).value.2 =
      .error error) :
    (session.runCycle tree).value.1 = session.recorded (.error error) ∧
      ⟨.error, Session.failedMessage error⟩ ∈ (session.runCycle tree).lines := by
  rw [Session.value_runCycle, Session.lines_runCycle, h]
  exact ⟨rfl, List.mem_append_right _ (failedMessage_mem_lines_endCycle _ error)⟩

/-! ## Beginnings -/

/-- A session does not begin if it has no template, or if the watcher refuses to watch. -/
theorem cases_of_start_error [Engine]
    (h : (Session.start config watcher tree).value.2.2 = .error error) :
    Generation.setUp config tree = .error error ∨ ∃ fault, error = .watcher fault := by
  unfold Session.start at h
  cases hsetUp : Generation.setUp config tree with
  | error reason =>
    rw [hsetUp] at h
    cases h
    exact .inl rfl
  | ok template =>
    rw [hsetUp] at h
    simp only [Logged.value_bind] at h
    cases hcreate : watcher.create with
    | error fault =>
      rw [hcreate] at h
      cases h
      exact .inr ⟨_, rfl⟩
    | ok _ =>
      simp only [hcreate] at h
      split at h <;> cases h
      exact .inr ⟨_, rfl⟩

theorem start_of_setUp_error [Engine] (h : Generation.setUp config tree = .error error) :
    (Session.start config watcher tree).value.2.2 = .error error := by
  unfold Session.start
  rw [h]
  rfl

theorem generation_failure_of_start_iff [Engine] :
    (∃ error, (Session.start config watcher tree).value.2.2 = .error error ∧
        error.isGenerationFailure = true) ↔
      config.validate = .ok () ∧ HasMalformedTemplate config tree := by
  constructor
  · rintro ⟨error, hstart, hfailure⟩
    obtain hsetUp | ⟨_, rfl⟩ := cases_of_start_error hstart
    · obtain ⟨_, rfl⟩ | ⟨-, hmalformed⟩ := cases_of_setUp_error hsetUp
      · cases hfailure
      · exact hmalformed
    · cases hfailure
  · rintro ⟨hvalid, hmalformed⟩
    exact ⟨.template, start_of_setUp_error (setUp_of_malformed hvalid hmalformed), rfl⟩

/-! ## Ends -/

theorem Loop.Runs.error_eq {first loop : Loop} {events : List Loop.Event} {lines : List Log.Line}
    (h : Loop.Runs first events lines loop) (hrunning : first.result = none)
    (hended : loop.result = some (.error error)) : error = .watcher .closed := by
  cases h with
  | refl => simp [hrunning] at hended
  | step _ hstep => exact ((hstep.result_eq_error_iff error).mp hended).1

theorem error_eq_of_run (h : (session.run watcher tree).value.2.2.2 = .error error) :
    error = .watcher .closed := by
  rw [(Loop.run_eq session watcher tree).1] at h
  unfold Loop.ending at h
  split at h <;> cases h
  rfl

/-- **No generation failure ends a session**, except for a malformed template:

- a session does not begin for a generation failure only if the configuration is valid and its
  template file can be read but holds no template;
- with a template, it does not begin for the watcher only, however the first cycle ends;
- the errors of a cycle are generation failures, and are recorded and reported;
- the error with which a session ends is none, whatever happens to it. -/
theorem generation_failures_reported [Engine] (config : Config) (watcher : Watcher) (tree : Tree) :
    ((∃ error, (Session.start config watcher tree).value.2.2 = .error error ∧
        error.isGenerationFailure = true) ↔
      config.validate = .ok () ∧ HasMalformedTemplate config tree) ∧
    (∀ template error, Generation.setUp config tree = .ok template →
      (Session.start config watcher tree).value.2.2 = .error error →
      ∃ fault, error = .watcher fault) ∧
    (∀ (session : Session) (found : Tree) (error : Error),
      (Generation.cycle session.config session.beginCycle.cycleTemplate found).value.2 =
        .error error →
      error.isGenerationFailure = true ∧
        (session.runCycle found).value.1 = session.recorded (.error error) ∧
        ⟨.error, Session.failedMessage error⟩ ∈ (session.runCycle found).lines) ∧
    (∀ (session : Session) (left : Watcher) (found : Tree) (error : Error),
      (session.run left found).value.2.2.2 = .error error → error.isGenerationFailure = false) ∧
    ∀ (first loop : Loop) (events : List Loop.Event) (lines : List Log.Line) (error : Error),
      Loop.Runs first events lines loop → first.result = none →
      loop.result = some (.error error) → error.isGenerationFailure = false := by
  refine ⟨generation_failure_of_start_iff, fun template error hsetUp hstart => ?_,
    fun session found error hcycle => ⟨isGenerationFailure_of_cycle hcycle,
      reported_of_cycle hcycle⟩, fun session left found error hrun => ?_,
    fun first loop events lines error hruns hrunning hended => ?_⟩
  · refine (cases_of_start_error hstart).resolve_left fun hfails => ?_
    rw [hsetUp] at hfails
    cases hfails
  · rw [error_eq_of_run hrun]
    rfl
  · rw [hruns.error_eq hrunning hended]
    rfl

/-! ## A malformed template -/

/-- A session with a template in which a tag is left open does not begin, although nobody but the
template is at fault. -/
theorem malformed_template_refused :
    (Session.start templateConfig .sound (templateTree "\x7b\x7b")).value.2.2 = .error .template ∧
      Error.template.isGenerationFailure = true := by
  have hmalformed : Template.read? "\x7b\x7b" = none := by
    rw [← Option.isNone_iff_eq_none]
    decide
  exact ⟨start_of_setUp_error (setUp_of_malformed rfl
    ⟨_, _, rfl, readText_template _, hmalformed⟩), rfl⟩

end FetchClient.Watch
