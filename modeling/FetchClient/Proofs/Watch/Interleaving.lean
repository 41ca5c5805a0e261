import FetchClient.Proofs.Generation.Cycle
import FetchClient.Proofs.Watch.Steps

/-!
# Sessions step by step

A session does one thing at a time, and in between notifications may come and files may change:
while it waits, during the delay, while it takes what came during the delay, and in the middle of a
cycle.

- `Act`, `Scene`: what may happen, and where;
- `Step`: what becomes of a scene, and what is logged;
- `Runs`: any number of steps;
- `Turn`: the acts with which a session answers a notification;
- `Session.exists_runs_of_start`, `Session.runs_handleNext`: beginning a session and handling a
  notification, with nothing in between, are such runs.
-/

namespace FetchClient.Watch

open Files (Fault Tree)
open Generation (conclude conclude_readText)

/-- What may happen. The first two are not done by the session. -/
inductive Act where
  /-- A notification comes. -/
  | arrive (notification : Notification)
  /-- Files change. -/
  | change (found : Tree)
  /-- A session that waits takes a notification. -/
  | take (notification : Notification)
  /-- The delay ends. -/
  | wake
  /-- A session takes a notification after the delay. -/
  | gather (notification : Notification)
  /-- A cycle begins. -/
  | begin
  /-- The cycle reads its input. -/
  | read
  /-- The cycle does the rest, and ends. -/
  | finish
  /-- The session is registered with the watcher. -/
  | register

/-- A session, the files, and what the cycle in flight has read. -/
structure Scene where
  session : Session
  tree : Tree
  reading : Option (Except Fault String)

/-- A session at its first cycle. -/
def Scene.first (config : Config) (template : Template) (tree : Tree) : Scene :=
  ⟨(Session.ofTemplate config template).beginCycle, tree, none⟩

/-- What is logged of a notification. -/
def Notification.faultLine? : Notification → Option Log.Line
  | .fault text => some ⟨.warn, "Watcher reported a fault: " ++ text⟩
  | .change .. => none

/-- Takes the notification that has waited longest. -/
def Session.takeNext (session : Session) (notification : Notification)
    (waiting : List Notification) : Logged Session :=
  { session with queue := waiting }.receive notification

/-- What is logged of the changes that were gathered. -/
def Session.coalescedLines (changes : Nat) : List Log.Line :=
  if 0 < changes then [⟨.debug, coalescedMessage changes⟩] else []

inductive Step : Scene → Act → List Log.Line → Scene → Prop where
  | arrive (session : Session) (tree : Tree) (reading : Option (Except Fault String))
      (notification : Notification) :
      Step ⟨session, tree, reading⟩ (.arrive notification) []
        ⟨{ session with queue := session.queue ++ [notification] }, tree, reading⟩
  | change (session : Session) (tree : Tree) (reading : Option (Except Fault String))
      (found : Tree) :
      Step ⟨session, tree, reading⟩ (.change found) [] ⟨session, found, reading⟩
  | take {session : Session} (tree : Tree) {notification : Notification}
      {waiting : List Notification} (hphase : session.phase = .idle)
      (hqueue : session.queue = notification :: waiting) :
      Step ⟨session, tree, none⟩ (.take notification)
        (session.takeNext notification waiting).lines
        ⟨(session.takeNext notification waiting).value, tree, none⟩
  | wake {session : Session} (tree : Tree) (hphase : session.phase = .settling) :
      Step ⟨session, tree, none⟩ .wake [] ⟨session.wake, tree, none⟩
  | gather {session : Session} (tree : Tree) {notification : Notification}
      {waiting : List Notification} {changes : Nat} (hphase : session.phase = .gathering changes)
      (hqueue : session.queue = notification :: waiting) :
      Step ⟨session, tree, none⟩ (.gather notification)
        (session.takeNext notification waiting).lines
        ⟨(session.takeNext notification waiting).value, tree, none⟩
  /-- A cycle begins when nothing waits any more. -/
  | begin {session : Session} (tree : Tree) {changes : Nat}
      (hphase : session.phase = .gathering changes) (hqueue : session.queue = []) :
      Step ⟨session, tree, none⟩ .begin (Session.coalescedLines changes)
        ⟨session.beginCycle, tree, none⟩
  | read {session : Session} (tree : Tree) (hphase : session.phase = .generating) :
      Step ⟨session, tree, none⟩ .read []
        ⟨session, tree, some (tree.readText session.config.inputPath)⟩
  | finish {session : Session} (tree : Tree) (reading : Except Fault String)
      (hphase : session.phase = .generating) :
      Step ⟨session, tree, some reading⟩ .finish
        ((conclude session.config session.cycleTemplate reading tree).lines ++
          (session.endCycle
            (conclude session.config session.cycleTemplate reading tree).value.2).lines)
        ⟨(session.endCycle
            (conclude session.config session.cycleTemplate reading tree).value.2).value,
          (conclude session.config session.cycleTemplate reading tree).value.1, none⟩
  | register {session : Session} (tree : Tree) (hphase : session.phase = .idle) :
      Step ⟨session, tree, none⟩ .register
        [⟨.info, "Watching " ++ session.config.inputPath ++ " for changes"⟩]
        ⟨{ session with watching := true }, tree, none⟩

/-- Any number of steps, with everything that was done and logged on the way. -/
inductive Runs (first : Scene) : List Act → List Log.Line → Scene → Prop where
  | refl : Runs first [] [] first
  | step {acts : List Act} {lines more : List Log.Line} {scene next : Scene} {act : Act}
      (hruns : Runs first acts lines scene) (hstep : Step scene act more next) :
      Runs first (acts ++ [act]) (lines ++ more) next

theorem Runs.single {scene next : Scene} {act : Act} {lines : List Log.Line}
    (hstep : Step scene act lines next) : Runs scene [act] lines next :=
  .step .refl hstep

theorem Runs.trans {first scene next : Scene} {acts more : List Act}
    {lines others : List Log.Line} (h : Runs first acts lines scene)
    (h' : Runs scene more others next) : Runs first (acts ++ more) (lines ++ others) next := by
  induction h' with
  | refl => rwa [List.append_nil, List.append_nil]
  | step _ hstep ih =>
    rw [← List.append_assoc, ← List.append_assoc]
    exact .step ih hstep

/-- How a session answers a notification. -/
inductive Turn where
  /-- It takes the notification, and that is all. -/
  | passed (notification : Notification)
  /-- It runs a cycle for the notification and for those that it gathers behind the delay. -/
  | answered (trigger : Notification) (gathered : List Notification)

def Turn.acts : Turn → List Act
  | .passed notification => [.take notification]
  | .answered trigger gathered =>
    .take trigger :: .wake :: gathered.map .gather ++ [.begin, .read, .finish]

namespace Session

variable {session : Session} {notification : Notification} {waiting : List Notification}

/-- Whether a session runs a cycle for the notification that has waited longest. -/
def turn (session : Session) (notification : Notification) (waiting : List Notification) : Turn :=
  if session.isRelevant notification then .answered notification waiting else .passed notification

theorem value_takeNext_of_relevant (hrelevant : session.isRelevant notification = true) :
    (session.takeNext notification waiting).value =
      { session with queue := waiting, phase := Phase.noticed session.phase } :=
  (value_receive _ _).trans (if_pos hrelevant)

theorem value_takeNext_of_irrelevant (hirrelevant : session.isRelevant notification = false) :
    (session.takeNext notification waiting).value = { session with queue := waiting } :=
  (value_receive _ _).trans (if_neg (Bool.not_eq_true _ ▸ hirrelevant))

/-- Taking a notification changes the queue and the phase only. -/
theorem value_takeNext (session : Session) (notification : Notification)
    (waiting : List Notification) :
    (session.takeNext notification waiting).value =
      { session with
        queue := waiting
        phase := if session.isRelevant notification then Phase.noticed session.phase
          else session.phase } := by
  cases hrelevant : session.isRelevant notification with
  | true => exact value_takeNext_of_relevant hrelevant
  | false => exact value_takeNext_of_irrelevant hrelevant

/-! ## What is logged -/

theorem lines_receive (session : Session) (notification : Notification) :
    (session.receive notification).lines = notification.faultLine?.toList := by
  cases notification <;> rfl

theorem lines_takeNext (session : Session) (notification : Notification)
    (waiting : List Notification) :
    (session.takeNext notification waiting).lines = notification.faultLine?.toList :=
  lines_receive _ notification

theorem filterMap_faultLine?_cons (notification : Notification)
    (notifications : List Notification) :
    (notification :: notifications).filterMap Notification.faultLine? =
      notification.faultLine?.toList ++ notifications.filterMap Notification.faultLine? := by
  cases notification <;> rfl

theorem lines_foldlM_receive (session : Session) (notifications : List Notification) :
    (notifications.foldlM receive session).lines =
      notifications.filterMap Notification.faultLine? := by
  induction notifications generalizing session with
  | nil => rfl
  | cons notification notifications ih =>
    rw [List.foldlM_cons, Logged.lines_bind, ih, lines_receive, filterMap_faultLine?_cons]

theorem lines_runCycle (session : Session) (tree : Tree) :
    (session.runCycle tree).lines =
      (Generation.cycle session.config session.beginCycle.cycleTemplate tree).lines ++
        (session.beginCycle.endCycle
          (Generation.cycle session.config session.beginCycle.cycleTemplate
            tree).value.2).lines := by
  unfold runCycle
  simp only [Logged.lines_bind, Logged.lines_pure, List.append_nil]
  rfl

theorem lines_answerGathered {changes : Nat} (tree : Tree)
    (hphase : session.phase = .gathering changes) :
    (session.answerGathered tree).lines =
      coalescedLines changes ++ (session.runCycle tree).lines := by
  unfold answerGathered coalescedLines
  rw [hphase]
  by_cases hsome : 0 < changes
  · simp only [hsome, if_true]
    rfl
  · simp only [hsome, if_false]
    rfl

/-! ## Undisturbed runs -/

/-- A cycle that nothing disturbs. -/
theorem runs_runCycle (session : Session) (tree : Tree) :
    Runs ⟨session.beginCycle, tree, none⟩ [.read, .finish] (session.runCycle tree).lines
      ⟨(session.runCycle tree).value.1, (session.runCycle tree).value.2, none⟩ := by
  have hread : Step ⟨session.beginCycle, tree, none⟩ .read [] _ := .read tree rfl
  have hfinish : Step ⟨session.beginCycle, tree, some (tree.readText session.config.inputPath)⟩
      .finish _ _ := .finish tree _ rfl
  have hruns := (Runs.single hread).trans (.single hfinish)
  have hcycle : conclude session.beginCycle.config session.beginCycle.cycleTemplate
      (tree.readText session.config.inputPath) tree =
      Generation.cycle session.config session.beginCycle.cycleTemplate tree :=
    conclude_readText session.config session.beginCycle.cycleTemplate tree
  rw [hcycle] at hruns
  rw [lines_runCycle]
  exact hruns

/-- The notifications that wait are gathered one after the other, and the changes among them are
counted. -/
theorem runs_gather_all {changes : Nat} (tree : Tree) {queue : List Notification}
    (hphase : session.phase = .gathering changes) (hqueue : session.queue = queue) :
    Runs ⟨session, tree, none⟩ (queue.map .gather) (queue.filterMap Notification.faultLine?)
      ⟨{ session with
          queue := []
          phase := .gathering (changes + queue.countP session.isRelevant) }, tree, none⟩ := by
  induction queue generalizing session changes with
  | nil =>
    have hsame : ({ session with queue := [], phase := .gathering (changes + 0) } : Session) =
        session := by
      rw [Nat.add_zero, ← hphase, ← hqueue]
    rw [List.countP_nil, hsame]
    exact .refl
  | cons notification waiting ih =>
    have hstep := Step.gather tree hphase hqueue
    rw [lines_takeNext] at hstep
    rw [filterMap_faultLine?_cons]
    cases hrelevant : session.isRelevant notification with
    | true =>
      have hrest : Runs
          ⟨{ session with queue := waiting, phase := .gathering (changes + 1) }, tree, none⟩
          _ _ _ := ih rfl rfl
      have hcount : changes + 1 + waiting.countP session.isRelevant =
          changes + (notification :: waiting).countP session.isRelevant := by
        rw [List.countP_cons_of_pos hrelevant]
        omega
      rw [value_takeNext_of_relevant hrelevant, hphase] at hstep
      rw [← hcount]
      exact (Runs.single hstep).trans hrest
    | false =>
      have hrest : Runs ⟨{ session with queue := waiting }, tree, none⟩ _ _ _ := ih hphase rfl
      rw [value_takeNext_of_irrelevant hrelevant] at hstep
      rw [List.countP_cons_of_neg (by simp [hrelevant])]
      exact (Runs.single hstep).trans hrest

theorem value_gather {changes : Nat} (hphase : session.phase = .gathering changes) :
    session.gather.value =
      { session with
        queue := []
        phase := .gathering (changes + session.queue.countP session.isRelevant) } :=
  value_foldlM_receive session.queue hphase

theorem runs_gather {changes : Nat} (tree : Tree) (hphase : session.phase = .gathering changes) :
    Runs ⟨session, tree, none⟩ (session.queue.map .gather) session.gather.lines
      ⟨session.gather.value, tree, none⟩ := by
  have hlines : session.gather.lines = session.queue.filterMap Notification.faultLine? :=
    lines_foldlM_receive _ _
  rw [hlines, value_gather hphase]
  exact runs_gather_all tree hphase rfl

theorem runs_answerGathered {changes : Nat} (tree : Tree)
    (hphase : session.phase = .gathering changes) (hqueue : session.queue = []) :
    Runs ⟨session, tree, none⟩ [.begin, .read, .finish] (session.answerGathered tree).lines
      ⟨(session.answerGathered tree).value.1, (session.answerGathered tree).value.2, none⟩ := by
  rw [lines_answerGathered tree hphase, value_answerGathered]
  exact (Runs.single (.begin tree hphase hqueue)).trans (runs_runCycle session tree)

theorem lines_handleNext (tree : Tree) (hqueue : session.queue = notification :: waiting) :
    (session.handleNext tree).lines =
      (session.takeNext notification waiting).lines ++
        if (session.takeNext notification waiting).value.phase = .settling then
          (session.takeNext notification waiting).value.wake.gather.lines ++
            ((session.takeNext notification waiting).value.wake.gather.value.answerGathered
              tree).lines
        else [] := by
  unfold handleNext takeNext
  rw [hqueue]
  simp only [Logged.lines_bind]
  split <;> rfl

/-- What a session does with a notification, when nothing disturbs it, is a turn. -/
theorem runs_handleNext (tree : Tree) (hphase : session.phase = .idle)
    (hqueue : session.queue = notification :: waiting) :
    Runs ⟨session, tree, none⟩ (session.turn notification waiting).acts
      (session.handleNext tree).lines
      ⟨(session.handleNext tree).value.1, (session.handleNext tree).value.2, none⟩ := by
  have htake := Step.take tree hphase hqueue
  have hlines := lines_handleNext tree hqueue
  unfold turn
  cases hrelevant : session.isRelevant notification with
  | false =>
    have hnot : ¬ ({ session with queue := waiting } : Session).phase = .settling := by
      simp [hphase]
    rw [value_takeNext_of_irrelevant hrelevant] at htake hlines
    rw [if_neg hnot, List.append_nil] at hlines
    rw [hlines, value_handleNext_of_irrelevant tree hphase hqueue hrelevant]
    exact .single htake
  | true =>
    have hnoticed : (session.takeNext notification waiting).value =
        { session with queue := waiting, phase := .settling } := by
      rw [value_takeNext_of_relevant hrelevant, hphase]
      rfl
    have hvalue := value_handleNext tree hqueue
    change _ = if (session.takeNext notification waiting).value.phase = .settling then
      ((session.takeNext notification waiting).value.wake.gather.value.answerGathered tree).value
      else _ at hvalue
    rw [hnoticed] at htake hlines hvalue
    rw [if_pos rfl] at hlines hvalue
    rw [hlines, hvalue]
    have hwake : ({ session with queue := waiting, phase := .settling } : Session).wake.phase =
      .gathering 0 := rfl
    have hgathered := value_gather hwake
    have hruns := (Runs.single htake).trans ((Runs.single (.wake tree rfl)).trans
      ((runs_gather tree hwake).trans
        (runs_answerGathered tree (congrArg Session.phase hgathered)
          (congrArg Session.queue hgathered))))
    exact hruns

/-- A session that was started has run a cycle, and then was registered with the watcher. -/
theorem exists_runs_of_start [Engine] {config : Config} {watcher left : Watcher} {tree found : Tree}
    (h : (start config watcher tree).value = (found, left, .ok session)) :
    ∃ template lines, Generation.setUp config tree = .ok template ∧
      Runs (.first config template tree) [.read, .finish, .register] lines
        ⟨session, found, none⟩ := by
  obtain ⟨template, hsetUp, rfl, rfl⟩ := exists_of_start h
  have hphase : ((ofTemplate config template).runCycle tree).value.1.phase = .idle := by
    rw [value_runCycle]
    rfl
  exact ⟨template, _, hsetUp, .step (runs_runCycle _ tree) (.register _ hphase)⟩

end Session

end FetchClient.Watch
