import FetchClient.Proofs.Watch.Ending
import Mathlib.Data.List.Chain

/-!
# What the log says of outcomes

A session says of every cycle how it ended. When the cycle before ended in the other way, it also
says that it has recovered, or that it keeps the output of that cycle.

- `Message`, `Message.ofLine?`: what a line may say of outcomes;
- `Passes`: whatever a session goes through, with reports of its cycles;
- `Told`: the invariant of a session, the reports of its cycles and its log;
- `reversals_told`: the log says of every cycle what is due, and nothing else.
-/

namespace FetchClient.Watch

open Files (Fault Tree)
open Generation (plainTree)
open Log (begins begins_append Marked marked_singleton marked_nil)

/-! ## Messages -/

/-- What a line may say of how a cycle ended. -/
inductive Message where
  | generated
  | failed
  /-- The cycle before had failed, and this one has not. -/
  | recovered
  /-- This cycle has failed, and the one before had not. -/
  | kept
  deriving DecidableEq, Repr

namespace Message

def all : List Message := [generated, failed, recovered, kept]

def level : Message → Log.Level
  | generated | recovered => .info
  | failed => .error
  | kept => .warn

/-- How the line begins. -/
def mark : Message → String
  | generated => "Generated "
  | failed => "Generation failed: "
  | recovered => "Recovered from previous failure"
  | kept => "Keeping previous output at "

/-- Whether a line says it. -/
def isSaid (message : Message) (line : Log.Line) : Bool :=
  line.level == message.level && begins message.mark line.text

/-- What a line says of how a cycle ended, if it says anything of that. -/
def ofLine? (line : Log.Line) : Option Message :=
  all.find? (·.isSaid line)

/-- Whether the message is about two cycles that ended differently. -/
def isReversal : Message → Bool
  | generated | failed => false
  | recovered | kept => true

/-- How the cycle ended that the message comes from. -/
def outcome : Message → Outcome
  | generated | recovered => .settled
  | failed | kept => .failed

/-- What is to be said of a cycle, by how the one before ended, if there was one. -/
def due (previous : Option Outcome) : Outcome → List Message
  | .settled => (if previous = some .failed then [recovered] else []) ++ [generated]
  | .failed => failed :: if previous = some .settled then [kept] else []

theorem mem_all (message : Message) : message ∈ all := by
  cases message <;> decide

theorem differ_mark {message other : Message} (h : message ≠ other) :
    Log.differ message.mark other.mark = true := by
  cases message <;> cases other <;> first | exact absurd rfl h | decide

/-- No line says two things. -/
theorem eq_of_isSaid {message other : Message} {line : Log.Line} (h : message.isSaid line = true)
    (hother : other.isSaid line = true) : message = other := by
  by_contra hne
  have hbegins := Log.begins_eq_false (Bool.and_eq_true_iff.mp h).2 (differ_mark hne)
  rw [isSaid, hbegins, Bool.and_false] at hother
  cases hother

theorem ofLine?_eq_some_iff {message : Message} {line : Log.Line} :
    ofLine? line = some message ↔ message.isSaid line = true := by
  have hfound : ∀ other, ofLine? line = some other → other.isSaid line = true :=
    fun _ hother => List.find?_some (p := fun other : Message => other.isSaid line) hother
  refine ⟨hfound message, fun h => ?_⟩
  have hsome : (ofLine? line).isSome = true :=
    List.find?_isSome.mpr ⟨message, mem_all message, h⟩
  obtain ⟨other, hother⟩ := Option.isSome_iff_exists.mp hsome
  rw [hother, eq_of_isSaid h (hfound other hother)]

/-- The lines that say something are counted by what they say. -/
theorem count_filterMap_ofLine? (message : Message) (lines : List Log.Line) :
    (lines.filterMap ofLine?).count message = lines.countP message.isSaid := by
  rw [List.count_filterMap]
  refine List.countP_congr fun line _ => ?_
  rw [beq_iff_eq, ofLine?_eq_some_iff]

/-- Lines that begin differently say nothing of outcomes. -/
theorem filterMap_ofLine?_of_marked (marks : List String) {lines : List Log.Line}
    (h : Marked marks lines)
    (hdiffer : all.all (fun message => marks.all (Log.differ · message.mark)) = true) :
    lines.filterMap ofLine? = [] := by
  rw [List.filterMap_eq_nil_iff]
  intro line hline
  obtain ⟨mark, hmark, hbegins⟩ := h line hline
  by_contra hne
  obtain ⟨message, hmessage⟩ := Option.ne_none_iff_exists'.mp hne
  have hmarks := List.all_eq_true.mp hdiffer message (mem_all message)
  have hother := Log.begins_eq_false hbegins (List.all_eq_true.mp hmarks mark hmark)
  have hsaid := ofLine?_eq_some_iff.mp hmessage
  rw [isSaid, hother, Bool.and_false] at hsaid
  cases hsaid

end Message

/-! ## The log of steps -/

variable {config : Config} {template : Template} {acts : List Act}
  {lines more : List Log.Line} {scene next first : Scene} {act : Act} {tree : Tree}

/-- A session says how its cycle ended. -/
theorem filterMap_ofLine?_endCycle (session : Session) (result : Except Error Client) :
    (session.endCycle result).lines.filterMap Message.ofLine? =
      Message.due session.lastOutcome (.ofResult result) := by
  have hrecovered : Message.ofLine? ⟨.info, "Recovered from previous failure"⟩ =
      some .recovered :=
    Message.ofLine?_eq_some_iff.mpr (by decide)
  have hkept : Message.ofLine? ⟨.warn, "Keeping previous output at " ++ session.config.outputPath⟩ =
      some .kept :=
    Message.ofLine?_eq_some_iff.mpr (begins_append (by decide) _)
  cases result with
  | ok client =>
    have hgenerated : Message.ofLine? ⟨.info, session.generatedMessage client⟩ =
        some .generated :=
      Message.ofLine?_eq_some_iff.mpr
        (begins_append (begins_append (begins_append (by decide) _) _) _)
    by_cases hfailed : session.lastOutcome = some .failed <;>
      simp [Session.endCycle, Outcome.ofResult, Message.due, hfailed, hrecovered, hgenerated]
  | error error =>
    have hfailure : Message.ofLine? ⟨.error, Session.failedMessage error⟩ = some .failed :=
      Message.ofLine?_eq_some_iff.mpr (begins_append (by decide) _)
    by_cases hgood : session.lastOutcome = some .settled <;>
      simp [Session.endCycle, Session.isLastKnownGood, Outcome.ofResult, Message.due, hgood,
        hfailure, hkept]

theorem filterMap_ofLine?_conclude (config : Config) (template : Template)
    (reading : Except Fault String) (tree : Tree) :
    (Generation.conclude config template reading tree).lines.filterMap Message.ofLine? = [] :=
  Message.filterMap_ofLine?_of_marked _ (Generation.marked_conclude config template reading tree)
    (by decide)

/-- Nothing but the end of a cycle says anything of outcomes. -/
theorem Step.filterMap_ofLine? (h : Step scene act more next) (hact : act.isFinish = false) :
    more.filterMap Message.ofLine? = [] := by
  have htaken : ∀ notification : Notification,
      notification.faultLine?.toList.filterMap Message.ofLine? = [] := by
    intro notification
    refine Message.filterMap_ofLine?_of_marked ["Watcher reported a fault: "] ?_
      (by decide)
    cases notification with
    | change what paths => exact marked_nil _
    | fault text => exact marked_singleton List.mem_cons_self (begins_append (by decide) text)
  cases h with
  | take tree hphase hqueue | gather tree hphase hqueue =>
    rw [Session.lines_takeNext]
    exact htaken _
  | @begin session tree changes hphase hqueue =>
    refine Message.filterMap_ofLine?_of_marked ["Coalesced "] ?_ (by decide)
    unfold Session.coalescedLines
    split
    · exact marked_singleton List.mem_cons_self
        (begins_append (begins_append (by decide) _) _)
    · exact marked_nil _
  | finish => cases hact
  | register tree hphase =>
    exact Message.filterMap_ofLine?_of_marked ["Watching "]
      (marked_singleton List.mem_cons_self (begins_append (begins_append (by decide) _) _))
      (by decide)
  | _ => rfl

/-- How the lines begin with which a session ends. -/
def endingMarks : List String :=
  ["Stop requested, ending watch session", "Failed to unwatch ", "Stopped watching "]

theorem marked_release (session : Session) (watcher : Watcher) :
    Marked endingMarks (session.release watcher).lines := by
  have hstopped : Marked endingMarks
      [⟨.info, "Stopped watching " ++ session.config.inputPath⟩] :=
    marked_singleton (show "Stopped watching " ∈ endingMarks by simp [endingMarks])
      (begins_append (by decide) _)
  unfold Session.release
  split
  · cases watcher.unwatch session.root with
    | mk left result =>
      cases result with
      | ok _ => exact hstopped
      | error fault =>
        have hfault : Marked endingMarks
            [⟨.debug, "Failed to unwatch " ++ session.root ++ ": " ++ fault.message⟩] :=
          marked_singleton (show "Failed to unwatch " ∈ endingMarks by simp [endingMarks])
            (begins_append (begins_append (begins_append (by decide) _) _) _)
        exact hfault.append hstopped
  · exact marked_nil _

theorem filterMap_ofLine?_close (session : Session) (watcher : Watcher) :
    (session.close watcher).lines.filterMap Message.ofLine? = [] := by
  have hlines : (session.close watcher).lines = (session.release watcher).lines := by
    simp [Session.close]
  rw [hlines]
  exact Message.filterMap_ofLine?_of_marked _ (marked_release session watcher) (by decide)

theorem filterMap_ofLine?_stop (session : Session) (watcher : Watcher) :
    (session.stop watcher).lines.filterMap Message.ofLine? = [] := by
  have hlines : (session.stop watcher).lines =
      [⟨.info, "Stop requested, ending watch session"⟩] ++ (session.release watcher).lines := by
    simp [Session.stop]
  have hrequest : Marked endingMarks [⟨.info, "Stop requested, ending watch session"⟩] :=
    marked_singleton List.mem_cons_self (by decide)
  rw [hlines]
  exact Message.filterMap_ofLine?_of_marked _ (hrequest.append (marked_release session watcher))
    (by decide)

/-! ## What a session goes through -/

/-- A cycle that has ended: how, and what it logged. -/
structure Report where
  outcome : Outcome
  lines : List Log.Line

/-- Whatever a session goes through from its first cycle on, with all that was logged and with the
reports of the cycles that have ended. It may also end, and be driven on. -/
inductive Passes (first : Scene) : List Report → List Log.Line → Scene → Prop where
  | begun : Passes first [] [] first
  | step {reports : List Report} {lines more : List Log.Line} {scene next : Scene} {act : Act}
      (hpasses : Passes first reports lines scene) (hstep : Step scene act more next)
      (hact : act.isFinish = false) : Passes first reports (lines ++ more) next
  /-- The session records how a cycle ended. -/
  | cycle {reports : List Report} {lines more : List Log.Line} {scene next : Scene}
      {outcome : Outcome} (hpasses : Passes first reports lines scene)
      (hstep : Step scene .finish more next)
      (houtcome : next.session.lastOutcome = some outcome) :
      Passes first (reports ++ [⟨outcome, more⟩]) (lines ++ more) next
  | stop {reports : List Report} {lines : List Log.Line} {session : Session} {tree : Tree}
      (hpasses : Passes first reports lines ⟨session, tree, none⟩) (watcher : Watcher) :
      Passes first reports (lines ++ (session.stop watcher).lines)
        ⟨(session.stop watcher).value.1, tree, none⟩
  | close {reports : List Report} {lines : List Log.Line} {session : Session} {tree : Tree}
      (hpasses : Passes first reports lines ⟨session, tree, none⟩) (watcher : Watcher) :
      Passes first reports (lines ++ (session.close watcher).lines)
        ⟨(session.close watcher).value.1, tree, none⟩

variable {reports others : List Report} {report : Report}

/-- When a cycle ends, the session records how. -/
theorem exists_outcome_of_finish (h : Step scene .finish more next) :
    ∃ outcome, next.session.lastOutcome = some outcome ∧
      next.session.cycles = scene.session.cycles ∧ scene.session.phase.inFlight = 1 ∧
      next.session.phase.inFlight = 0 ∧
      more.filterMap Message.ofLine? = Message.due scene.session.lastOutcome outcome := by
  cases h with
  | finish tree reading hphase =>
    rw [Session.value_endCycle, List.filterMap_append, filterMap_ofLine?_conclude,
      filterMap_ofLine?_endCycle, hphase]
    exact ⟨_, rfl, rfl, rfl, rfl, rfl⟩

/-- Every run has reports of its cycles. -/
theorem Passes.exists_of_runs (hpasses : Passes first reports lines scene)
    (h : Runs scene acts more next) :
    ∃ others, Passes first (reports ++ others) (lines ++ more) next ∧
      others.length = acts.countP Act.isFinish := by
  induction h with
  | refl => exact ⟨[], by rwa [List.append_nil, List.append_nil], rfl⟩
  | @step acts more added scene next act _ hstep ih =>
    obtain ⟨others, hbefore, hlength⟩ := ih
    rw [← List.append_assoc]
    cases hact : act.isFinish with
    | false =>
      refine ⟨others, hbefore.step hstep hact, ?_⟩
      rw [countP_concat, hact, hlength]
      rfl
    | true =>
      obtain rfl : act = .finish := by cases act <;> first | rfl | cases hact
      obtain ⟨outcome, houtcome, -⟩ := exists_outcome_of_finish hstep
      refine ⟨others ++ [⟨outcome, added⟩], ?_, ?_⟩
      · rw [← List.append_assoc]
        exact hbefore.cycle hstep houtcome
      · rw [countP_concat, List.length_append, hlength]
        rfl

/-- A session that is driven goes through something, too. -/
theorem Passes.exists_of_loop {loop last : Loop} {events : List Loop.Event}
    (hpasses : Passes first reports lines loop.scene) (h : Loop.Runs loop events more last) :
    ∃ others, Passes first (reports ++ others) (lines ++ more) last.scene := by
  induction h with
  | refl => exact ⟨[], by rwa [List.append_nil, List.append_nil]⟩
  | @step events more added loop next event _ hstep ih =>
    obtain ⟨others, hbefore⟩ := ih
    rw [← List.append_assoc]
    cases hstep with
    | within _ _ _ hstep | handle _ _ _ hstep =>
      obtain ⟨later, hafter, -⟩ := hbefore.exists_of_runs (.single hstep)
      exact ⟨others ++ later, by rwa [← List.append_assoc]⟩
    | stop _ hselect =>
      obtain ⟨⟨session, tree, reading⟩, watcher, stopRequested, opened, result⟩ := loop
      obtain rfl : reading = none := hselect.2
      exact ⟨others, hbefore.stop watcher⟩
    | close _ hselect =>
      obtain ⟨⟨session, tree, reading⟩, watcher, stopRequested, opened, result⟩ := loop
      obtain rfl : reading = none := hselect.2
      exact ⟨others, hbefore.close watcher⟩
    | request | shut | wait => exact ⟨others, by rwa [List.append_nil]⟩

/-! ## What is told -/

/-- What a report says of outcomes. -/
def Report.messages (report : Report) : List Message :=
  report.lines.filterMap Message.ofLine?

/-- How the cycle ended whose report comes before a position. -/
def outcomeBefore (reports : List Report) : Nat → Option Outcome
  | 0 => none
  | i + 1 => reports[i]?.map Report.outcome

/-- The messages about cycles that ended differently from those before them. -/
def reversals (lines : List Log.Line) : List Message :=
  (lines.filterMap Message.ofLine?).filter Message.isReversal

/-- The invariant of a session, with the reports of its cycles and its log. -/
structure Told (reports : List Report) (lines : List Log.Line) (scene : Scene) : Prop where
  recorded : scene.session.lastOutcome = reports.getLast?.map Report.outcome
  counted : scene.session.cycles = reports.length + scene.session.phase.inFlight
  /-- Every report says what is due. -/
  due : ∀ i report, reports[i]? = some report →
    report.messages = Message.due (outcomeBefore reports i) report.outcome
  /-- Nothing else says anything of outcomes. -/
  complete : lines.filterMap Message.ofLine? = reports.flatMap Report.messages
  alternate : (reversals lines).IsChain (· ≠ ·)
  /-- The last of these messages fits the last outcome. -/
  last : ∀ message, (reversals lines).getLast? = some message →
    scene.session.lastOutcome = some message.outcome

theorem outcomeBefore_length (reports : List Report) :
    outcomeBefore reports reports.length = reports.getLast?.map Report.outcome := by
  cases reports with
  | nil => rfl
  | cons report reports =>
    rw [List.getLast?_eq_getElem?]
    rfl

theorem outcomeBefore_append {i : Nat} (others : List Report) (h : i ≤ reports.length) :
    outcomeBefore (reports ++ others) i = outcomeBefore reports i := by
  cases i with
  | zero => rfl
  | succ i =>
    rw [outcomeBefore, outcomeBefore, List.getElem?_append_left h]

theorem reversals_append (lines more : List Log.Line) :
    reversals (lines ++ more) = reversals lines ++ reversals more := by
  rw [reversals, reversals, reversals, List.filterMap_append, List.filter_append]

/-- Of a cycle one reversal is due if the cycle before ended differently, and none otherwise. -/
theorem reversal_cases (previous : Option Outcome) (outcome : Outcome) :
    ((Message.due previous outcome).filter Message.isReversal = [] ∧
      ∀ before, previous = some before → before = outcome) ∨
    ∃ message, (Message.due previous outcome).filter Message.isReversal = [message] ∧
      message.outcome = outcome ∧ previous ≠ some outcome := by
  rcases previous with - | _ | _ <;> cases outcome
  · exact .inl ⟨rfl, by simp⟩
  · exact .inl ⟨rfl, by simp⟩
  · exact .inl ⟨rfl, by simp⟩
  · exact .inr ⟨.kept, rfl, rfl, by decide⟩
  · exact .inr ⟨.recovered, rfl, rfl, by decide⟩
  · exact .inl ⟨rfl, by simp⟩

/-- Nothing is told before the first cycle has ended. -/
theorem told_first (config : Config) (template : Template) (tree : Tree) :
    Told [] [] (.first config template tree) where
  recorded := rfl
  counted := rfl
  due _ _ hreport := by cases hreport
  complete := rfl
  alternate := .nil
  last _ hlast := by cases hlast

namespace Told

/-- What says nothing of outcomes, and records none, changes nothing. -/
theorem quiet (h : Told reports lines scene) (hquiet : more.filterMap Message.ofLine? = [])
    (houtcome : next.session.lastOutcome = scene.session.lastOutcome)
    (hcycles : next.session.cycles = reports.length + next.session.phase.inFlight) :
    Told reports (lines ++ more) next := by
  have hreversals : reversals (lines ++ more) = reversals lines := by
    have hnone : reversals more = [] := by rw [reversals, hquiet, List.filter_nil]
    rw [reversals_append, hnone, List.append_nil]
  refine ⟨houtcome.trans h.recorded, hcycles, h.due, ?_, ?_, ?_⟩
  · rw [List.filterMap_append, hquiet, List.append_nil, h.complete]
  · rw [hreversals]
    exact h.alternate
  · rw [hreversals, houtcome]
    exact h.last

theorem step (h : Told reports lines scene) (hstep : Step scene act more next)
    (hact : act.isFinish = false) : Told reports (lines ++ more) next := by
  have houtcome : next.session.lastOutcome = scene.session.lastOutcome := by
    cases hstep with
    | take tree hphase hqueue | gather tree hphase hqueue => rw [Session.value_takeNext]
    | wake tree hphase => rw [Session.wake, if_pos hphase]
    | finish => cases hact
    | _ => rfl
  refine h.quiet (hstep.filterMap_ofLine? hact) houtcome ?_
  obtain ⟨hcycles, hinFlight⟩ := hstep.cycles_eq
  have hcounted := h.counted
  rw [hact, Bool.toNat_false] at hinFlight
  omega

/-- The report of a cycle that ends says what is due. -/
theorem cycle {outcome : Outcome} (h : Told reports lines scene)
    (hstep : Step scene .finish more next) (houtcome : next.session.lastOutcome = some outcome) :
    Told (reports ++ [⟨outcome, more⟩]) (lines ++ more) next := by
  obtain ⟨found, hfound, hcycles, hbusy, hidle, hdue⟩ := exists_outcome_of_finish hstep
  obtain rfl : outcome = found := Option.some.inj (houtcome.symm.trans hfound)
  have hcounted := h.counted
  have hlast : outcomeBefore reports reports.length = scene.session.lastOutcome := by
    rw [outcomeBefore_length, h.recorded]
  have hreversals : reversals more = (Message.due scene.session.lastOutcome outcome).filter
      Message.isReversal := by
    rw [reversals, hdue]
  constructor
  case recorded => rw [houtcome, List.getLast?_concat, Option.map_some]
  case counted =>
    rw [List.length_append, List.length_singleton, hcycles, hidle]
    omega
  case due =>
    intro i report hreport
    rcases Nat.lt_or_ge i reports.length with hi | hi
    · rw [List.getElem?_append_left hi] at hreport
      rw [outcomeBefore_append _ (Nat.le_of_lt hi)]
      exact h.due i report hreport
    · obtain rfl : i = reports.length := by
        have hbound := (List.getElem?_eq_some_iff.mp hreport).1
        rw [List.length_append, List.length_singleton] at hbound
        omega
      rw [List.getElem?_concat_length] at hreport
      obtain rfl := Option.some.inj hreport
      rw [outcomeBefore_append _ (Nat.le_refl _), hlast]
      exact hdue
  case complete =>
    rw [List.filterMap_append, List.flatMap_append, List.flatMap_singleton, h.complete]
    rfl
  case alternate =>
    rw [reversals_append, hreversals]
    rcases reversal_cases scene.session.lastOutcome outcome with
      ⟨hnone, -⟩ | ⟨reversal, hreversal, hafter, hother⟩
    · rw [hnone, List.append_nil]
      exact h.alternate
    · rw [hreversal, List.isChain_append]
      refine ⟨h.alternate, .singleton _, fun before hbefore found hfound hsame => ?_⟩
      -- The reversal before would come from the outcome that this cycle has changed.
      obtain rfl : reversal = found := by simpa using hfound
      exact hother (by rw [h.last before hbefore, hsame, hafter])
  case last =>
    intro message hmessage
    rw [reversals_append, hreversals] at hmessage
    rw [houtcome]
    rcases reversal_cases scene.session.lastOutcome outcome with
      ⟨hnone, hsame⟩ | ⟨reversal, hreversal, hafter, -⟩
    · rw [hnone, List.append_nil] at hmessage
      rw [hsame _ (h.last message hmessage)]
    · rw [hreversal, List.getLast?_concat] at hmessage
      rw [← Option.some.inj hmessage, hafter]

theorem of_passes (h : Passes (.first config template tree) reports lines scene) :
    Told reports lines scene := by
  induction h with
  | begun => exact told_first config template tree
  | step _ hstep hact ih => exact ih.step hstep hact
  | cycle _ hstep houtcome ih => exact ih.cycle hstep houtcome
  | stop _ watcher ih =>
    refine ih.quiet (filterMap_ofLine?_stop _ watcher) ?_ ?_
    · rw [Loop.value_stop, Loop.value_release]
    · rw [Loop.value_stop, Loop.value_release]
      exact ih.counted
  | close _ watcher ih =>
    refine ih.quiet (filterMap_ofLine?_close _ watcher) ?_ ?_
    · rw [Loop.value_close, Loop.value_release]
    · rw [Loop.value_close, Loop.value_release]
      exact ih.counted

end Told

/-! ## All sessions -/

/-- How often a message is due of the cycle at a position. -/
theorem countP_isSaid (h : Told reports lines scene) {i : Nat} (hreport : reports[i]? = some report)
    (message : Message) :
    report.lines.countP message.isSaid =
      (Message.due (outcomeBefore reports i) report.outcome).count message := by
  rw [← h.due i report hreport, Report.messages, Message.count_filterMap_ofLine?]

/-- **The log tells recoveries and losses**, whatever a session goes through:

- there is a report of every cycle that has ended, with the outcome that the session recorded;
- a cycle reports a recovery exactly if it has settled and the one before has failed, and that it
  keeps the output exactly if it has failed and the one before has settled; a cycle that has failed
  reports one failure, and one that has settled reports one client;
- nothing else in the log says any of that, and recoveries and losses alternate. -/
theorem reversals_told (h : Passes (.first config template tree) reports lines scene) :
    (scene.session.cycles = reports.length + scene.session.phase.inFlight ∧
      scene.session.lastOutcome = reports.getLast?.map Report.outcome) ∧
    (∀ i report, reports[i]? = some report →
      report.lines.countP Message.recovered.isSaid =
        (if outcomeBefore reports i = some .failed ∧ report.outcome = .settled then 1 else 0) ∧
      report.lines.countP Message.kept.isSaid =
        (if outcomeBefore reports i = some .settled ∧ report.outcome = .failed then 1 else 0) ∧
      report.lines.countP Message.failed.isSaid = (if report.outcome = .failed then 1 else 0) ∧
      report.lines.countP Message.generated.isSaid =
        (if report.outcome = .settled then 1 else 0)) ∧
    lines.filterMap Message.ofLine? = reports.flatMap Report.messages ∧
    ((lines.filterMap Message.ofLine?).filter Message.isReversal).IsChain (· ≠ ·) := by
  have htold := Told.of_passes h
  refine ⟨⟨htold.counted, htold.recorded⟩, fun i report hreport => ?_, htold.complete,
    htold.alternate⟩
  simp only [countP_isSaid htold hreport]
  rcases outcomeBefore reports i with - | _ | _ <;> cases report.outcome <;> decide

/-! ## A session that fails and recovers -/

/-- A session that waits answers a change of the input by one cycle more. -/
theorem exists_passes_of_change {first tree : Tree} {session : Session}
    {notification : Notification} {waiting : List Notification}
    (h : Passes (.first config template first) reports lines ⟨session, tree, none⟩)
    (hphase : session.phase = .idle) (hqueue : session.queue = notification :: waiting)
    (hrelevant : session.isRelevant notification = true) :
    ∃ report more,
      report.outcome =
        .ofResult
          (Generation.cycle session.config session.beginCycle.cycleTemplate tree).value.2 ∧
      Passes (.first config template first) (reports ++ [report]) more
        ⟨({ session with queue := [] } : Session).recorded
            (Generation.cycle session.config session.beginCycle.cycleTemplate tree).value.2,
          (Generation.cycle session.config session.beginCycle.cycleTemplate tree).value.1,
          none⟩ := by
  have hanswer := Session.runs_handleNext tree hphase hqueue
  rw [Session.value_handleNext_of_relevant tree hphase hqueue hrelevant, Session.turn,
    if_pos hrelevant] at hanswer
  obtain ⟨others, hpasses, hlength⟩ := h.exists_of_runs hanswer
  have hone : (Turn.answered notification waiting).acts.countP Act.isFinish = 1 := by
    have hgathered : (waiting.map Act.gather).countP Act.isFinish = 0 := by
      rw [List.countP_map, List.countP_eq_zero]
      exact fun _ _ => Bool.false_ne_true
    rw [Turn.acts, List.countP_append, List.countP_cons_of_neg Bool.false_ne_true,
      List.countP_cons_of_neg Bool.false_ne_true, hgathered]
    rfl
  obtain ⟨report, rfl⟩ := List.length_eq_one_iff.mp (hlength.trans hone)
  have hrecorded := (Told.of_passes hpasses).recorded
  rw [List.getLast?_concat, Option.map_some] at hrecorded
  exact ⟨report, _, (Option.some.inj hrecorded).symm, hpasses⟩

/-- The input becomes unusable, and then usable again. -/
theorem reversals_told_back_and_forth :
    ∃ reports lines scene,
      Passes (.first Session.sampleConfig Session.sampleTemplate (plainTree []))
        reports lines scene ∧
      reports.map Report.outcome = [.settled, .failed, .settled] ∧
      (reports.map fun report =>
        (report.lines.countP Message.kept.isSaid, report.lines.countP Message.recovered.isSaid)) =
          [(0, 0), (1, 0), (0, 1)] := by
  have hrelevant : ∀ session : Session, session.config = Session.sampleConfig →
      session.isRelevant sampleChange = true := by
    intro session hconfig
    rw [Session.isRelevant, hconfig]
    decide
  have hfirst := Session.runs_runCycle
    (Session.ofTemplate Session.sampleConfig Session.sampleTemplate) (plainTree [])
  rw [Session.value_runCycle] at hfirst
  obtain ⟨begun, hbegun, hlength⟩ := Passes.begun.exists_of_runs hfirst
  obtain ⟨one, rfl⟩ := List.length_eq_one_iff.mp hlength
  have hbroken := (hbegun.step (.change _ _ none Session.sampleTreeChanged) rfl).step
    (.arrive _ _ none sampleChange) rfl
  obtain ⟨two, broken, htwo, hfailed⟩ :=
    exists_passes_of_change hbroken rfl rfl (hrelevant _ rfl)
  have hmended := (hfailed.step (.change _ _ none (plainTree [])) rfl).step
    (.arrive _ _ none sampleChange) rfl
  obtain ⟨three, mended, hthree, hsettled⟩ :=
    exists_passes_of_change hmended rfl rfl (hrelevant _ rfl)
  have hone : one.outcome = .settled := by
    have hrecorded := (Told.of_passes hbegun).recorded
    change some (Outcome.ofResult (Generation.cycle Session.sampleConfig
      (Session.sampleTemplate.after 1) (plainTree [])).value.2) =
        some one.outcome at hrecorded
    rw [Session.value_cycle_sample] at hrecorded
    exact (Option.some.inj hrecorded).symm
  change two.outcome = .ofResult (Generation.cycle Session.sampleConfig
    (Session.sampleTemplate.after 2) Session.sampleTreeChanged).value.2 at htwo
  change three.outcome = .ofResult (Generation.cycle Session.sampleConfig
    (Session.sampleTemplate.after 3) (plainTree [])).value.2 at hthree
  rw [Session.value_cycle_sampleChanged] at htwo
  rw [Session.value_cycle_sample] at hthree
  obtain ⟨-, hreports, -, -⟩ := reversals_told hsettled
  obtain ⟨hrecovered₁, hkept₁, -⟩ := hreports 0 one rfl
  obtain ⟨hrecovered₂, hkept₂, -⟩ := hreports 1 two rfl
  obtain ⟨hrecovered₃, hkept₃, -⟩ := hreports 2 three rfl
  refine ⟨_, _, _, hsettled, ?_, ?_⟩
  · simp [hone, htwo, hthree, Outcome.ofResult]
  · simp [hrecovered₁, hkept₁, hrecovered₂, hkept₂, hrecovered₃, hkept₃, outcomeBefore, hone, htwo,
      hthree, Outcome.ofResult]

end FetchClient.Watch
