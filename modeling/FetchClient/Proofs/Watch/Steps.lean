import FetchClient.Watch.Session

/-!
# What the steps of a session change

- `Session.recorded`: a session after a cycle;
- `Session.value_runCycle`: a cycle changes the session and the files, and nothing else;
- `Session.value_handleNext_of_irrelevant`, `Session.value_handleNext_of_relevant`: what becomes of
  a session when it handles a notification;
- `Session.exists_of_start`: what a session is when it was started.
-/

namespace FetchClient.Watch

/-- How a cycle ended, by its result. -/
def Outcome.ofResult : Except Error Client → Outcome
  | .ok _ => .settled
  | .error _ => .failed

namespace Session

open Files (Tree)

variable {session : Session} {notification : Notification} {waiting : List Notification}

/-- The session after a cycle with a certain result. -/
def recorded (session : Session) (result : Except Error Client) : Session :=
  { session with
    phase := .idle
    lastOutcome := some (.ofResult result)
    cycles := session.cycles + 1 }

/-! ## Cycles -/

theorem value_endCycle (session : Session) (result : Except Error Client) :
    (session.endCycle result).value =
      { session with phase := .idle, lastOutcome := some (.ofResult result) } := by
  cases result with
  | ok client =>
    by_cases hfailed : session.lastOutcome = some .failed <;>
      simp [endCycle, hfailed, Outcome.ofResult]
  | error error =>
    by_cases hgood : session.isLastKnownGood = true <;> simp [endCycle, hgood, Outcome.ofResult]

theorem value_runCycle (session : Session) (tree : Tree) :
    (session.runCycle tree).value =
      (session.recorded
        (Generation.cycle session.config session.beginCycle.cycleTemplate tree).value.2,
       (Generation.cycle session.config session.beginCycle.cycleTemplate tree).value.1) := by
  unfold runCycle
  simp only [Logged.value_bind, value_endCycle]
  rfl

/-! ## Notifications -/

theorem value_receive (session : Session) (notification : Notification) :
    (session.receive notification).value =
      if session.isRelevant notification then
        { session with phase := Phase.noticed session.phase }
      else session := by
  cases notification with
  | fault text => rfl
  | change what paths => rfl

/-- While notifications are gathered, the changes among them are counted. -/
theorem value_foldlM_receive {changes : Nat} (notifications : List Notification)
    (hphase : session.phase = .gathering changes) :
    (notifications.foldlM receive session).value =
      { session with
        phase := .gathering (changes + notifications.countP session.isRelevant) } := by
  induction notifications generalizing session changes with
  | nil =>
    rw [List.countP_nil, Nat.add_zero, ← hphase]
    rfl
  | cons notification notifications ih =>
    rw [List.foldlM_cons, Logged.value_bind, value_receive]
    -- The session at the next notification differs in its phase at most: what is relevant stays so.
    by_cases hrelevant : session.isRelevant notification = true
    · have hnext : ({ session with phase := .gathering (changes + 1) } : Session).phase =
          .gathering (changes + 1) := rfl
      have hcount : changes + 1 + notifications.countP session.isRelevant =
          changes + (notification :: notifications).countP session.isRelevant := by
        rw [List.countP_cons_of_pos hrelevant]
        omega
      rw [if_pos hrelevant, hphase, ← hcount]
      exact ih hnext
    · rw [if_neg hrelevant, List.countP_cons_of_neg hrelevant, ih hphase]

theorem value_handleNext (tree : Tree) (hqueue : session.queue = notification :: waiting) :
    (session.handleNext tree).value =
      if (({ session with queue := waiting } : Session).receive notification).value.phase =
          .settling then
        ((({ session with queue := waiting } : Session).receive
          notification).value.wake.gather.value.answerGathered tree).value
      else ((({ session with queue := waiting } : Session).receive notification).value, tree) := by
  unfold handleNext
  rw [hqueue]
  simp only [Logged.value_bind]
  split <;> rfl

/-- A notification that does not concern the input is taken out of the queue, and nothing else. -/
theorem value_handleNext_of_irrelevant (tree : Tree) (hphase : session.phase = .idle)
    (hqueue : session.queue = notification :: waiting)
    (hirrelevant : session.isRelevant notification = false) :
    (session.handleNext tree).value = ({ session with queue := waiting }, tree) := by
  have hreceive : (({ session with queue := waiting } : Session).receive notification).value =
      { session with queue := waiting } :=
    (value_receive _ _).trans (if_neg (Bool.not_eq_true _ ▸ hirrelevant))
  have hidle : ({ session with queue := waiting } : Session).phase ≠ .settling := by
    show session.phase ≠ .settling
    rw [hphase]
    decide
  rw [value_handleNext tree hqueue, hreceive, if_neg hidle]

/-- What was gathered does not change what the cycle behind it does. -/
theorem value_answerGathered (session : Session) (tree : Tree) :
    (session.answerGathered tree).value = (session.runCycle tree).value := by
  unfold answerGathered
  split
  · split <;> rfl
  · rfl

/-- A change of the input empties the queue and is answered by one cycle. -/
theorem value_handleNext_of_relevant (tree : Tree) (hphase : session.phase = .idle)
    (hqueue : session.queue = notification :: waiting)
    (hrelevant : session.isRelevant notification = true) :
    (session.handleNext tree).value =
      (({ session with queue := [] } : Session).recorded
        (Generation.cycle session.config session.beginCycle.cycleTemplate tree).value.2,
       (Generation.cycle session.config session.beginCycle.cycleTemplate tree).value.1) := by
  have hreceive : (({ session with queue := waiting } : Session).receive notification).value =
      { session with queue := waiting, phase := .settling } := by
    refine (value_receive _ _).trans ((if_pos hrelevant).trans ?_)
    show ({ session with queue := waiting, phase := Phase.noticed session.phase } : Session) = _
    rw [hphase]
    rfl
  have hbegin : ({ session with queue := [], phase := .gathering 0 } : Session).phase =
      .gathering 0 := rfl
  have hgather :
      ({ session with queue := waiting, phase := .settling } : Session).wake.gather.value =
        { session with queue := [], phase := .gathering (0 + waiting.countP session.isRelevant) } :=
    value_foldlM_receive waiting hbegin
  rw [value_handleNext tree hqueue, hreceive, if_pos rfl, hgather, value_answerGathered,
    value_runCycle]
  rfl

/-! ## Beginnings -/

/-- A session that was started is the one behind its first cycle, registered with the watcher. -/
theorem exists_of_start [Engine] {config : Config} {watcher left : Watcher} {tree found : Tree}
    (h : (start config watcher tree).value = (found, left, .ok session)) :
    ∃ template, Generation.setUp config tree = .ok template ∧
      session = { ((ofTemplate config template).runCycle tree).value.1 with watching := true } ∧
      found = ((ofTemplate config template).runCycle tree).value.2 := by
  unfold start at h
  cases hsetUp : Generation.setUp config tree with
  | error error =>
    rw [hsetUp] at h
    cases h
  | ok template =>
    rw [hsetUp] at h
    simp only [Logged.value_bind] at h
    cases hcreate : watcher.create with
    | error fault =>
      rw [hcreate] at h
      cases h
    | ok _ =>
      simp only [hcreate] at h
      split at h
      · cases h
      · cases h
        exact ⟨template, rfl, rfl, rfl⟩

end Session

end FetchClient.Watch
