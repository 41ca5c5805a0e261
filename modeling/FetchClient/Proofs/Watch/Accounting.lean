import FetchClient.Proofs.Log.Marks
import FetchClient.Proofs.Watch.Interleaving
import FetchClient.Proofs.Watch.LastKnownGood
import Mathlib.Algebra.GroupWithZero.Nat

/-!
# Every notification is accounted for

Whatever happens in between, a session takes the notifications in the order in which they came, and
answers every change of the input by exactly one cycle that reads the input afterwards.

- `Turn.Sound`, `History`: what a session does, turn by turn;
- `Accounted`: the invariant of a session, its acts and its log;
- `Accounted.step`: every step preserves it;
- `notifications_accounted`: so it holds of every run.
-/

namespace FetchClient.Watch

open Files (Fault Tree)
open Generation (plainTree)
open Log (begins begins_append Marked marked_singleton)

/-! ## Acts -/

namespace Act

/-- The notification that comes. -/
def arrived? : Act → Option Notification
  | .arrive notification => some notification
  | _ => none

/-- The notification that the session takes. -/
def taken? : Act → Option Notification
  | .take notification | .gather notification => some notification
  | _ => none

/-- Whether an act is a part of handling notifications. -/
def handles : Act → Bool
  | .arrive _ | .change _ | .register => false
  | _ => true

def isBegin : Act → Bool
  | .begin => true
  | _ => false

def isFinish : Act → Bool
  | .finish => true
  | _ => false

end Act

/-! ## Histories -/

/-- Whether a session runs a cycle for the right notifications. -/
def Turn.Sound (relevant : Notification → Bool) : Turn → Prop
  | .passed notification => relevant notification = false
  | .answered trigger _ => relevant trigger = true

/-- The acts of a turn that is not over, with the phase that it has come to and whether the cycle in
it has read the input. -/
inductive Ongoing (relevant : Notification → Bool) : Phase → Bool → List Act → Prop where
  | idle : Ongoing relevant .idle false []
  | settling {trigger : Notification} (h : relevant trigger = true) :
      Ongoing relevant .settling false [.take trigger]
  | gathering {trigger : Notification} (gathered : List Notification)
      (h : relevant trigger = true) :
      Ongoing relevant (.gathering (gathered.countP relevant)) false
        (.take trigger :: .wake :: gathered.map .gather)
  | begun {trigger : Notification} (gathered : List Notification) (h : relevant trigger = true) :
      Ongoing relevant .generating false
        (.take trigger :: .wake :: gathered.map .gather ++ [.begin])
  | read {trigger : Notification} (gathered : List Notification) (h : relevant trigger = true) :
      Ongoing relevant .generating true
        (.take trigger :: .wake :: gathered.map .gather ++ [.begin, .read])

/-- The acts of a session: those of the first cycle, then turns, and then a turn that may not be
over. -/
inductive History (relevant : Notification → Bool) : Phase → Bool → List Act → Prop where
  | begun : History relevant .generating false []
  | read : History relevant .generating true [.read]
  | turns {turns : List Turn} {phase : Phase} {reading : Bool} {acts : List Act}
      (hsound : ∀ turn ∈ turns, turn.Sound relevant)
      (hongoing : Ongoing relevant phase reading acts) :
      History relevant phase reading (.read :: .finish :: (turns.flatMap Turn.acts ++ acts))

/-- The changes that were taken and are not yet answered. -/
def Phase.pending : Phase → Nat
  | .idle | .generating => 0
  | .settling => 1
  | .gathering changes => changes + 1

/-- How many cycles are in flight. -/
def Phase.inFlight : Phase → Nat
  | .generating => 1
  | .idle | .settling | .gathering _ => 0

/-- What is logged of a number of changes. -/
def Session.coalescedLine (changes : Nat) : Log.Line :=
  ⟨.debug, coalescedMessage changes⟩

/-- The invariant of a session, with what was done and logged so far. -/
structure Accounted (config : Config) (acts : List Act) (lines : List Log.Line) (scene : Scene) :
    Prop where
  sameConfig : scene.session.config = config
  /-- What came was taken, in the same order, or waits. -/
  queued : acts.filterMap Act.arrived? = acts.filterMap Act.taken? ++ scene.session.queue
  history : History (Notification.concerns config.inputPath) scene.session.phase
    scene.reading.isSome (acts.filter Act.handles)
  /-- A change is answered by a cycle of its own, or counted with others in the log. -/
  coalesced : ∃ counts : List Nat,
    lines.filter (fun line => begins "Coalesced " line.text) = counts.map Session.coalescedLine ∧
    scene.session.cycles + scene.session.phase.pending + counts.sum =
      1 + (acts.filterMap Act.taken?).countP (Notification.concerns config.inputPath)
  /-- A fault is logged once. -/
  faults : lines.filter (fun line => begins "Watcher reported a fault: " line.text) =
    (acts.filterMap Act.taken?).filterMap Notification.faultLine?
  /-- The first cycle began with the session. -/
  begun : scene.session.cycles = 1 + acts.countP Act.isBegin
  /-- All cycles that began have ended, but for the one in flight. -/
  inFlight : scene.session.cycles = acts.countP Act.isFinish + scene.session.phase.inFlight

variable {config : Config} {template : Template} {acts : List Act} {lines more : List Log.Line}
  {scene next : Scene} {act : Act} {session : Session} {notification : Notification}
  {waiting : List Notification}

/-! ## The log -/

/-- How the lines begin that a cycle and its end write. -/
def Session.endMarks : List String :=
  ["Recovered ", "Generated ", "Generation failed: ", "Keeping previous output at "] ++
    Generation.cycleMarks

theorem Session.marked_endCycle (session : Session) (result : Except Error Client) :
    Marked endMarks (session.endCycle result).lines := by
  have hrecovered : Marked endMarks [⟨.info, "Recovered from previous failure"⟩] :=
    marked_singleton (show "Recovered " ∈ endMarks by simp [endMarks]) (by decide)
  have hkept : Marked endMarks
      [⟨.warn, "Keeping previous output at " ++ session.config.outputPath⟩] :=
    marked_singleton (show "Keeping previous output at " ∈ endMarks by simp [endMarks])
      (begins_append (by decide) _)
  cases result with
  | ok client =>
    have hgenerated : Marked endMarks [⟨.info, session.generatedMessage client⟩] :=
      marked_singleton (show "Generated " ∈ endMarks by simp [endMarks])
        (begins_append (begins_append (begins_append (by decide) _) _) _)
    unfold endCycle
    by_cases hfailed : session.lastOutcome = some .failed
    · simp only [hfailed, if_true]
      exact hrecovered.append hgenerated
    · simp only [hfailed, if_false]
      exact hgenerated
  | error error =>
    have hfailure : Marked endMarks [⟨.error, failedMessage error⟩] :=
      marked_singleton (show "Generation failed: " ∈ endMarks by simp [endMarks])
        (begins_append (by decide) _)
    unfold endCycle
    by_cases hgood : session.isLastKnownGood = true
    · simp only [hgood, if_true]
      exact hfailure.append hkept
    · simp only [hgood]
      exact hfailure

/-- What is logged of a notification that is taken. -/
theorem filter_faultLine? (notification : Notification) :
    notification.faultLine?.toList.filter (fun line => begins "Coalesced " line.text) = [] ∧
      notification.faultLine?.toList.filter
        (fun line => begins "Watcher reported a fault: " line.text) =
        notification.faultLine?.toList := by
  cases notification with
  | change what paths => exact ⟨rfl, rfl⟩
  | fault text =>
    have hfault : begins "Watcher reported a fault: " ("Watcher reported a fault: " ++ text) =
        true :=
      begins_append (by decide) text
    have hother := Log.begins_eq_false hfault (show Log.differ _ "Coalesced " = true by decide)
    simp [Notification.faultLine?, hfault, hother]

/-- What is logged of the changes that were gathered. -/
theorem filter_coalescedLines (changes : Nat) :
    (Session.coalescedLines changes).filter (fun line => begins "Coalesced " line.text) =
        Session.coalescedLines changes ∧
      (Session.coalescedLines changes).filter
        (fun line => begins "Watcher reported a fault: " line.text) = [] := by
  have hcoalesced : begins "Coalesced " (Session.coalescedMessage changes) = true :=
    begins_append (begins_append (by decide) _) _
  have hother := Log.begins_eq_false hcoalesced
    (show Log.differ _ "Watcher reported a fault: " = true by decide)
  unfold Session.coalescedLines
  split <;> simp [hcoalesced, hother]

/-- A cycle logs nothing of notifications. -/
theorem filter_finish (config : Config) (template : Template) (reading : Except Fault String)
    (tree : Tree) (session : Session) (result : Except Error Client) {mark : String}
    (hdiffer : Session.endMarks.all (Log.differ · mark) = true) :
    ((Generation.conclude config template reading tree).lines ++
      (session.endCycle result).lines).filter (fun line => begins mark line.text) = [] := by
  have hcycle := (Generation.marked_conclude config template reading tree).mono
    (show Generation.cycleMarks ⊆ Session.endMarks from List.subset_append_right _ _)
  exact (hcycle.append (session.marked_endCycle result)).filter_eq_nil hdiffer

/-- Registering logs nothing of notifications. -/
theorem filter_register (path : String) {mark : String}
    (hdiffer : Log.differ "Watching " mark = true) :
    [(⟨.info, "Watching " ++ path ++ " for changes"⟩ : Log.Line)].filter
      (fun line => begins mark line.text) = [] := by
  have hbegins : begins "Watching " ("Watching " ++ path ++ " for changes") = true :=
    begins_append (begins_append (by decide) path) _
  simp [Log.begins_eq_false hbegins hdiffer]

/-! ## Steps -/

theorem Step.config_eq (h : Step scene act more next) :
    next.session.config = scene.session.config := by
  cases h with
  | take tree hphase hqueue => rw [Session.value_takeNext]
  | gather tree hphase hqueue => rw [Session.value_takeNext]
  | wake tree hphase => rw [Session.wake, if_pos hphase]
  | finish tree reading hphase => rw [Session.value_endCycle]
  | _ => rfl

/-- Notifications are appended to the queue, and taken where it begins. -/
theorem Step.queue_eq (h : Step scene act more next) :
    act.taken?.toList ++ next.session.queue = scene.session.queue ++ act.arrived?.toList := by
  cases h with
  | arrive session tree reading notification => rfl
  | take tree hphase hqueue | gather tree hphase hqueue =>
    rw [Session.value_takeNext, hqueue]
    exact (List.append_nil _).symm
  | wake tree hphase =>
    rw [Session.wake, if_pos hphase]
    exact (List.append_nil _).symm
  | finish tree reading hphase =>
    rw [Session.value_endCycle]
    exact (List.append_nil _).symm
  | _ => exact (List.append_nil _).symm

/-- Faults are logged when they are taken. -/
theorem Step.faults_eq (h : Step scene act more next) :
    more.filter (fun line => begins "Watcher reported a fault: " line.text) =
      act.taken?.toList.filterMap Notification.faultLine? := by
  cases h with
  | @take session tree notification waiting hphase hqueue
  | @gather session tree notification waiting changes hphase hqueue =>
    rw [Session.lines_takeNext, (filter_faultLine? notification).2]
    cases notification <;> rfl
  | begin tree hphase hqueue => exact (filter_coalescedLines _).2
  | finish tree reading hphase => exact filter_finish _ _ _ _ _ _ (by decide)
  | register tree hphase => exact filter_register _ (by decide)
  | _ => rfl

/-- A notification that is taken is pending if it is a change of the input. -/
theorem counted_takeNext
    (hready : session.phase = .idle ∨ ∃ changes, session.phase = .gathering changes)
    (notification : Notification) (waiting : List Notification) :
    (session.takeNext notification waiting).value.cycles +
        (session.takeNext notification waiting).value.phase.pending =
      session.cycles + session.phase.pending + [notification].countP session.isRelevant := by
  rw [Session.value_takeNext, List.countP_singleton]
  cases session.isRelevant notification with
  | false => rfl
  | true =>
    rcases hready with hphase | ⟨changes, hphase⟩
    · rw [hphase]
      rfl
    · rw [hphase]
      rfl

/-- What a step counts: a change that is taken is pending until a cycle begins, which answers one
change itself and logs how many others there are. -/
theorem Step.exists_counted (h : Step scene act more next) :
    ∃ counts : List Nat,
      more.filter (fun line => begins "Coalesced " line.text) = counts.map Session.coalescedLine ∧
      next.session.cycles + next.session.phase.pending + counts.sum =
        scene.session.cycles + scene.session.phase.pending +
          act.taken?.toList.countP scene.session.isRelevant := by
  cases h with
  | @take session tree notification waiting hphase hqueue =>
    refine ⟨[], ?_, counted_takeNext (.inl hphase) notification waiting⟩
    rw [Session.lines_takeNext, (filter_faultLine? notification).1, List.map_nil]
  | wake tree hphase =>
    refine ⟨[], rfl, ?_⟩
    rw [Session.wake, if_pos hphase, hphase]
    rfl
  | @gather session tree notification waiting changes hphase hqueue =>
    refine ⟨[], ?_, counted_takeNext (.inr ⟨changes, hphase⟩) notification waiting⟩
    rw [Session.lines_takeNext, (filter_faultLine? notification).1, List.map_nil]
  | @begin session tree changes hphase hqueue =>
    -- One of the pending changes is answered by the cycle itself, and the others are counted.
    refine ⟨if 0 < changes then [changes] else [], ?_, ?_⟩
    · rw [(filter_coalescedLines changes).1, Session.coalescedLines]
      split <;> rfl
    · have hsum : (if 0 < changes then [changes] else []).sum = changes := by
        split
        · exact List.sum_singleton
        · rw [List.sum_nil]
          omega
      show session.cycles + 1 + 0 + _ = session.cycles + session.phase.pending + 0
      rw [hsum, hphase, Phase.pending]
      omega
  | finish tree reading hphase =>
    refine ⟨[], filter_finish _ _ _ _ _ _ (by decide), ?_⟩
    rw [Session.value_endCycle, hphase]
    rfl
  | register tree hphase => exact ⟨[], filter_register _ (by decide), rfl⟩
  | _ => exact ⟨[], rfl, rfl⟩

/-- A cycle begins where none is in flight, and is in flight until it ends. -/
theorem Step.cycles_eq (h : Step scene act more next) :
    next.session.cycles = scene.session.cycles + act.isBegin.toNat ∧
      next.session.phase.inFlight + act.isFinish.toNat =
        scene.session.phase.inFlight + act.isBegin.toNat := by
  cases h with
  | take tree hphase hqueue =>
    rw [Session.value_takeNext, hphase]
    refine ⟨rfl, ?_⟩
    split <;> rfl
  | wake tree hphase =>
    rw [Session.wake, if_pos hphase, hphase]
    exact ⟨rfl, rfl⟩
  | gather tree hphase hqueue =>
    rw [Session.value_takeNext, hphase]
    refine ⟨rfl, ?_⟩
    split <;> rfl
  | begin tree hphase hqueue =>
    rw [hphase]
    exact ⟨rfl, rfl⟩
  | finish tree reading hphase =>
    rw [Session.value_endCycle, hphase]
    exact ⟨rfl, rfl⟩
  | _ => exact ⟨rfl, rfl⟩

/-! ## Histories -/

namespace History

variable {relevant : Notification → Bool} {turns : List Turn} {turn : Turn} {phase : Phase}
  {reading : Bool} {changes : Nat} {others handled : List Act}

/-- The turn that is not over goes on. -/
theorem goesOn (hsound : ∀ turn ∈ turns, turn.Sound relevant)
    (hongoing : Ongoing relevant phase reading (others ++ [act])) :
    History relevant phase reading
      (.read :: .finish :: (turns.flatMap Turn.acts ++ others) ++ [act]) := by
  have hhistory := History.turns hsound hongoing
  rwa [← List.append_assoc] at hhistory

/-- The turn that is not over ends. -/
theorem ends (hsound : ∀ turn ∈ turns, turn.Sound relevant) (hturn : turn.Sound relevant)
    (hacts : turn.acts = others ++ [act]) :
    History relevant .idle false
      (.read :: .finish :: (turns.flatMap Turn.acts ++ others) ++ [act]) := by
  have hall : ∀ other ∈ turns ++ [turn], other.Sound relevant := by
    intro other hother
    rcases List.mem_append.mp hother with hother | hother
    · exact hsound other hother
    · exact List.mem_singleton.mp hother ▸ hturn
  have hhistory := History.turns hall .idle
  rwa [List.flatMap_append, List.flatMap_singleton, hacts, List.append_nil, ← List.append_assoc]
    at hhistory

theorem take (h : History relevant .idle false handled) (notification : Notification) :
    History relevant (if relevant notification then .settling else .idle) false
      (handled ++ [.take notification]) := by
  cases h with
  | turns hsound hongoing =>
    cases hongoing with
    | idle =>
      cases hrelevant : relevant notification with
      | true => exact goesOn hsound (.settling hrelevant)
      | false =>
        have hpassed : (Turn.passed notification).Sound relevant := hrelevant
        exact ends hsound hpassed rfl

theorem wake (h : History relevant .settling false handled) :
    History relevant (.gathering 0) false (handled ++ [.wake]) := by
  cases h with
  | turns hsound hongoing =>
    cases hongoing with
    | settling htrigger => exact goesOn hsound (.gathering [] htrigger)

theorem gather (h : History relevant (.gathering changes) false handled)
    (notification : Notification) :
    History relevant (.gathering (changes + [notification].countP relevant)) false
      (handled ++ [.gather notification]) := by
  cases h with
  | turns hsound hongoing =>
    cases hongoing with
    | gathering gathered htrigger =>
      have hmore := Ongoing.gathering (gathered ++ [notification]) htrigger
      rw [List.countP_append, List.map_append] at hmore
      exact goesOn hsound hmore

theorem begin (h : History relevant (.gathering changes) false handled) :
    History relevant .generating false (handled ++ [.begin]) := by
  cases h with
  | turns hsound hongoing =>
    cases hongoing with
    | gathering gathered htrigger => exact goesOn hsound (.begun gathered htrigger)

theorem read_of_generating (h : History relevant .generating false handled) :
    History relevant .generating true (handled ++ [.read]) := by
  cases h with
  | begun => exact .read
  | turns hsound hongoing =>
    cases hongoing with
    | begun gathered htrigger =>
      have hread := Ongoing.read gathered htrigger
      rw [List.append_cons] at hread
      exact goesOn hsound hread

theorem finish (h : History relevant .generating true handled) :
    History relevant .idle false (handled ++ [.finish]) := by
  cases h with
  | read => exact .turns (fun _ hturn => absurd hturn List.not_mem_nil) .idle
  | turns hsound hongoing =>
    cases hongoing with
    | @read trigger gathered htrigger =>
      have hanswered : (Turn.answered trigger gathered).Sound relevant := htrigger
      refine ends hsound hanswered ?_
      rw [Turn.acts, List.append_assoc]
      rfl

/-- What is handled continues the turn that is not over, or begins or ends one. -/
theorem step (hstep : Step scene act more next) (hrelevant : scene.session.isRelevant = relevant)
    (h : History relevant scene.session.phase scene.reading.isSome handled) :
    History relevant next.session.phase next.reading.isSome
      (handled ++ [act].filter Act.handles) := by
  cases hstep with
  | arrive session tree reading notification => exact (List.append_nil handled).symm ▸ h
  | change session tree reading found => exact (List.append_nil handled).symm ▸ h
  | register tree hphase => exact (List.append_nil handled).symm ▸ h
  | @take session tree notification waiting hphase hqueue =>
    rw [hphase] at h
    rw [Session.value_takeNext, hphase, hrelevant]
    exact h.take notification
  | wake tree hphase =>
    rw [hphase] at h
    rw [Session.wake, if_pos hphase]
    exact h.wake
  | @gather session tree notification waiting changes hphase hqueue =>
    rw [hphase] at h
    have hmore := h.gather notification
    rw [List.countP_singleton] at hmore
    rw [Session.value_takeNext, hphase, hrelevant]
    cases htaken : relevant notification with
    | true =>
      rw [if_pos htaken] at hmore
      exact hmore
    | false =>
      rw [if_neg (Bool.not_eq_true _ ▸ htaken)] at hmore
      exact hmore
  | begin tree hphase hqueue =>
    rw [hphase] at h
    exact h.begin
  | read tree hphase =>
    rw [hphase] at h
    exact hphase ▸ h.read_of_generating
  | finish tree reading hphase =>
    rw [hphase] at h
    rw [Session.value_endCycle]
    exact h.finish

end History

/-! ## Runs -/

theorem filterMap_concat {α β : Type} (f : α → Option β) (members : List α) (last : α) :
    (members ++ [last]).filterMap f = members.filterMap f ++ (f last).toList := by
  rw [List.filterMap_append]
  cases hlast : f last with
  | none => rw [List.filterMap_cons_none hlast, List.filterMap_nil, Option.toList_none]
  | some found => rw [List.filterMap_cons_some hlast, List.filterMap_nil, Option.toList_some]

theorem countP_concat (p : Act → Bool) (acts : List Act) (act : Act) :
    (acts ++ [act]).countP p = acts.countP p + (p act).toNat := by
  rw [List.countP_append, List.countP_singleton]
  cases p act <;> rfl

namespace Accounted

/-- The first cycle has begun, and nothing was done yet. -/
theorem first (config : Config) (template : Template) (tree : Tree) :
    Accounted config [] [] (.first config template tree) where
  sameConfig := rfl
  queued := rfl
  history := .begun
  coalesced := ⟨[], rfl, rfl⟩
  faults := rfl
  begun := rfl
  inFlight := rfl

theorem step (h : Accounted config acts lines scene) (hstep : Step scene act more next) :
    Accounted config (acts ++ [act]) (lines ++ more) next := by
  have hrelevant : scene.session.isRelevant = Notification.concerns config.inputPath := by
    rw [← h.sameConfig]
    rfl
  obtain ⟨hcycles, hinFlight⟩ := hstep.cycles_eq
  refine ⟨hstep.config_eq.trans h.sameConfig, ?_, ?_, ?_, ?_, ?_, ?_⟩
  · rw [filterMap_concat, filterMap_concat, h.queued, List.append_assoc, List.append_assoc,
      hstep.queue_eq]
  · rw [List.filter_append]
    exact h.history.step hstep hrelevant
  · obtain ⟨counts, hlogged, hsum⟩ := h.coalesced
    obtain ⟨others, hmore, hcounted⟩ := hstep.exists_counted
    refine ⟨counts ++ others, ?_, ?_⟩
    · rw [List.filter_append, List.map_append, hlogged, hmore]
    · rw [hrelevant] at hcounted
      rw [filterMap_concat, List.countP_append, List.sum_append]
      omega
  · rw [filterMap_concat, List.filterMap_append, List.filter_append, h.faults, hstep.faults_eq]
  · rw [countP_concat, hcycles, h.begun, Nat.add_assoc]
  · rw [countP_concat, Nat.add_right_comm, Nat.add_assoc, hinFlight]
    have hended := h.inFlight
    omega

end Accounted

/-! ## Rest -/

def sampleChange : Notification := .change (.modified .data) ["api.json"]

end FetchClient.Watch
