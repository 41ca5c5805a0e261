import FetchClient.Proofs.Watch.Accounting

/-!
# How sessions end

Between two notifications a session looks whether it was asked to stop, and then at what waits.
That may be asked, and the last sender of notifications may go, at any time, also while a
notification is handled, which goes on until its cycle has ended.

- `Loop`, `Loop.Event`: a session that is driven to its end, and what may happen to it;
- `Loop.Step`, `Loop.Runs`: one event, and any number of them;
- `Loop.Step.result_eq_ok_iff`, `Loop.Step.result_eq_error_iff`: which events end a session;
- `Loop.Runs.stopping`: what a session still does once it was asked to stop;
- `Loop.exists_runs_run`: what `Session.run` does is such a run;
- `Loop.ends_between_notifications`: how the session of any run ends.
-/

namespace FetchClient.Watch

open Files (Tree)
open Generation (plainTree)

/-- A session that is driven to its end. -/
structure Loop where
  scene : Scene
  watcher : Watcher
  stopRequested : Bool
  /-- Whether anyone is left who could send a notification. -/
  opened : Bool
  /-- How the session has ended, if it has. -/
  result : Option (Except Error Unit)

/-- Whether an act is done while a notification is handled, or done by others. -/
def Act.isWithin : Act → Bool
  | .take _ | .register => false
  | _ => true

/-- How many cycles a session still begins for the notification in hand. -/
def Phase.inHand : Phase → Nat
  | .settling | .gathering _ => 1
  | .idle | .generating => 0

theorem inHand_le_one (phase : Phase) : phase.inHand ≤ 1 := by
  cases phase with
  | idle | generating => exact Nat.zero_le 1
  | settling | gathering => exact Nat.le_refl 1

namespace Loop

/-- What may happen to a session that is driven. -/
inductive Event where
  /-- A part of handling a notification, or what others do. -/
  | within (act : Act)
  /-- Somebody asks the session to stop. -/
  | request
  /-- The last sender of notifications goes. -/
  | shut
  /-- The session looks whether it was asked to stop, and then at what waits. -/
  | poll (taken : Option Notification)

namespace Event

/-- The notification that comes. -/
def arrived? : Event → Option Notification
  | .within act => act.arrived?
  | _ => none

/-- The notification that the session takes, between two notifications or behind a delay. -/
def taken? : Event → Option Notification
  | .within act => act.taken?
  | .poll taken => taken
  | .request | .shut => none

/-- How an act of an undisturbed session is seen from outside. -/
def ofAct : Act → Event
  | .take notification => .poll (some notification)
  | act => .within act

end Event

/-- A session that is about to be driven. -/
def ofSession (session : Session) (watcher : Watcher) (tree : Tree) : Loop :=
  ⟨⟨session, tree, none⟩, watcher, false, session.watching, none⟩

/-- Whether the session is between two notifications. -/
def AtSelect (loop : Loop) : Prop :=
  loop.scene.session.phase = .idle ∧ loop.scene.reading = none

/-- What the session does next, between two notifications. Notifications can come as long as a sender
is left, be it the watcher or another one. -/
def choice (loop : Loop) : Session.Choice :=
  ({ loop.scene.session with watching := loop.opened } : Session).choose loop.stopRequested

/-- The session has ended. -/
def ended (loop : Loop) (ending : Session × Watcher × Except Error Unit) : Loop :=
  { loop with
    scene := { loop.scene with session := ending.1 }
    watcher := ending.2.1
    result := some ending.2.2 }

inductive Step : Loop → Event → List Log.Line → Loop → Prop where
  | within {loop : Loop} {act : Act} {lines : List Log.Line} {next : Scene}
      (hrunning : loop.result = none) (hwithin : act.isWithin = true)
      (hopened : act.arrived?.isSome = true → loop.opened = true)
      (hstep : Watch.Step loop.scene act lines next) :
      Step loop (.within act) lines { loop with scene := next }
  | request {loop : Loop} (hrunning : loop.result = none) :
      Step loop .request [] { loop with stopRequested := true }
  | shut {loop : Loop} (hrunning : loop.result = none) :
      Step loop .shut [] { loop with opened := false }
  | stop {loop : Loop} (hrunning : loop.result = none) (hselect : loop.AtSelect)
      (hchoice : loop.choice = .stop) :
      Step loop (.poll none) (loop.scene.session.stop loop.watcher).lines
        (loop.ended (loop.scene.session.stop loop.watcher).value)
  | handle {loop : Loop} {notification : Notification} {lines : List Log.Line} {next : Scene}
      (hrunning : loop.result = none) (hselect : loop.AtSelect) (hchoice : loop.choice = .handle)
      (hstep : Watch.Step loop.scene (.take notification) lines next) :
      Step loop (.poll (some notification)) lines { loop with scene := next }
  | close {loop : Loop} (hrunning : loop.result = none) (hselect : loop.AtSelect)
      (hchoice : loop.choice = .close) :
      Step loop (.poll none) (loop.scene.session.close loop.watcher).lines
        (loop.ended (loop.scene.session.close loop.watcher).value)
  /-- The session goes on waiting, until something happens. -/
  | wait {loop : Loop} (hrunning : loop.result = none) (hselect : loop.AtSelect)
      (hchoice : loop.choice = .wait) :
      Step loop (.poll none) [] loop

/-- Any number of events, with everything that happened and was logged. -/
inductive Runs (first : Loop) : List Event → List Log.Line → Loop → Prop where
  | refl : Runs first [] [] first
  | step {events : List Event} {lines more : List Log.Line} {loop next : Loop} {event : Event}
      (hruns : Runs first events lines loop) (hstep : Step loop event more next) :
      Runs first (events ++ [event]) (lines ++ more) next

theorem Runs.single {loop next : Loop} {event : Event} {lines : List Log.Line}
    (hstep : Step loop event lines next) : Runs loop [event] lines next :=
  .step .refl hstep

theorem Runs.trans {first loop next : Loop} {events others : List Event}
    {lines more : List Log.Line} (h : Runs first events lines loop)
    (h' : Runs loop others more next) : Runs first (events ++ others) (lines ++ more) next := by
  induction h' with
  | refl => rwa [List.append_nil, List.append_nil]
  | step _ hstep ih =>
    rw [← List.append_assoc, ← List.append_assoc]
    exact .step ih hstep

variable {first loop next last : Loop} {event : Event} {events : List Event}
  {lines more : List Log.Line} {session : Session} {watcher : Watcher} {tree : Tree}

/-! ## Choices -/

theorem choice_eq_stop_iff : loop.choice = .stop ↔ loop.stopRequested = true := by
  simp only [choice, Session.choose]
  grind

theorem choice_eq_handle_iff :
    loop.choice = .handle ↔ loop.stopRequested = false ∧ loop.scene.session.queue ≠ [] := by
  simp only [choice, Session.choose, Bool.not_eq_true', List.isEmpty_eq_false_iff]
  grind

theorem choice_eq_close_iff :
    loop.choice = .close ↔
      loop.stopRequested = false ∧ loop.opened = false ∧ loop.scene.session.queue = [] := by
  simp only [choice, Session.choose, Bool.not_eq_true', List.isEmpty_eq_false_iff]
  grind

/-! ## Endings -/

/-- A session that gives the watcher up asks it once to give the registration back, if it has one,
and is no longer registered, whatever the watcher answers. -/
theorem value_release (session : Session) (watcher : Watcher) :
    (session.release watcher).value =
      ({ session with watching := false },
        if session.watching then (watcher.unwatch session.root).1 else watcher) := by
  unfold Session.release
  cases hwatching : session.watching with
  | false =>
    have hsame : ({ session with watching := false } : Session) = session := by rw [← hwatching]
    exact congrArg (·, watcher) hsame.symm
  | true =>
    rw [if_pos rfl, if_pos rfl]
    cases hunwatch : watcher.unwatch session.root with
    | mk left result => cases result <;> rfl

theorem value_stop (session : Session) (watcher : Watcher) :
    (session.stop watcher).value =
      ((session.release watcher).value.1, (session.release watcher).value.2, .ok ()) :=
  rfl

theorem value_close (session : Session) (watcher : Watcher) :
    (session.close watcher).value =
      ((session.release watcher).value.1, (session.release watcher).value.2,
        .error (.watcher .closed)) :=
  rfl

/-! ## Steps -/

/-- What comes is appended to the queue, and what is taken stood where it begins. -/
theorem Step.queue_eq (h : Step loop event more next) :
    event.taken?.toList ++ next.scene.session.queue =
      loop.scene.session.queue ++ event.arrived?.toList := by
  cases h with
  | within _ _ _ hstep => exact hstep.queue_eq
  | handle _ _ _ hstep => exact hstep.queue_eq
  | stop hrunning hselect hchoice =>
    rw [value_stop, value_release]
    exact (List.append_nil _).symm
  | close hrunning hselect hchoice =>
    rw [value_close, value_release]
    exact (List.append_nil _).symm
  | request | shut | wait => exact (List.append_nil _).symm

theorem Step.atSelect {taken : Option Notification} (h : Step loop (.poll taken) more next) :
    loop.AtSelect := by
  cases h <;> assumption

/-- A session returns without an error when it is found that it was asked to stop, and then only. -/
theorem Step.result_eq_ok_iff (h : Step loop event more next) :
    next.result = some (.ok ()) ↔
      (∃ taken, event = .poll taken) ∧ loop.stopRequested = true := by
  rw [← choice_eq_stop_iff]
  cases h with
  | stop hrunning hselect hchoice => exact ⟨fun _ => ⟨⟨_, rfl⟩, hchoice⟩, fun _ => rfl⟩
  | within hrunning hwithin hopened hstep => simp [hrunning]
  | request hrunning | shut hrunning => simp [hrunning]
  | handle hrunning hselect hchoice hstep => simp [hrunning, hchoice]
  | close hrunning hselect hchoice => simp [ended, value_close, hchoice]
  | wait hrunning hselect hchoice => simp [hrunning, hchoice]

/-- A session returns an error when nothing waits and nothing can come any more, unless it was asked
to stop, and then only. -/
theorem Step.result_eq_error_iff (h : Step loop event more next) (error : Error) :
    next.result = some (.error error) ↔
      error = .watcher .closed ∧ (∃ taken, event = .poll taken) ∧ loop.stopRequested = false ∧
        loop.opened = false ∧ loop.scene.session.queue = [] := by
  rw [← choice_eq_close_iff]
  cases h with
  | close hrunning hselect hchoice =>
    simp only [ended, value_close, Option.some.injEq, Except.error.injEq]
    exact ⟨fun heq => ⟨heq.symm, ⟨_, rfl⟩, hchoice⟩, fun heq => heq.1.symm⟩
  | within hrunning hwithin hopened hstep => simp [hrunning]
  | request hrunning | shut hrunning => simp [hrunning]
  | handle hrunning hselect hchoice hstep => simp [hrunning, hchoice]
  | stop hrunning hselect hchoice => simp [ended, value_stop, hchoice]
  | wait hrunning hselect hchoice => simp [hrunning, hchoice]

/-- Nothing ends a session but a look that finds nothing to take. -/
theorem Step.result_eq_none (h : Step loop event more next) (hevent : event ≠ .poll none) :
    next.result = none := by
  cases h with
  | within hrunning _ _ _ | request hrunning | shut hrunning => exact hrunning
  | handle hrunning _ _ _ | wait hrunning _ _ => exact hrunning
  | stop | close => exact absurd rfl hevent

/-- A session that ends has nothing in hand and is no longer registered. -/
theorem Step.released (h : Step loop event more next) (hended : next.result.isSome = true) :
    next.scene.session.phase = .idle ∧ next.scene.session.watching = false ∧
      next.watcher.calls = loop.watcher.calls ++
        if loop.scene.session.watching then [.unwatch loop.scene.session.root] else [] := by
  have hreleased :
      (loop.scene.session.release loop.watcher).value.1.phase = loop.scene.session.phase ∧
      (loop.scene.session.release loop.watcher).value.1.watching = false ∧
      (loop.scene.session.release loop.watcher).value.2.calls = loop.watcher.calls ++
        if loop.scene.session.watching then [.unwatch loop.scene.session.root] else [] := by
    rw [value_release]
    refine ⟨rfl, rfl, ?_⟩
    cases loop.scene.session.watching with
    | false => exact (List.append_nil _).symm
    | true => rfl
  cases h with
  | stop _ hselect | close _ hselect =>
    exact ⟨hreleased.1.trans hselect.1, hreleased.2⟩
  | within hrunning | request hrunning | shut hrunning | handle hrunning | wait hrunning =>
    simp [hrunning] at hended

/-- Between two notifications a session can look what to do. -/
theorem exists_poll (hrunning : loop.result = none) (hselect : loop.AtSelect) :
    ∃ taken more next, Step loop (.poll taken) more next := by
  cases hchoice : loop.choice with
  | stop => exact ⟨none, _, _, .stop hrunning hselect hchoice⟩
  | close => exact ⟨none, _, _, .close hrunning hselect hchoice⟩
  | wait => exact ⟨none, _, _, .wait hrunning hselect hchoice⟩
  | handle =>
    obtain ⟨⟨session, tree, reading⟩, watcher, stopRequested, opened, result⟩ := loop
    obtain ⟨hphase, rfl⟩ := hselect
    obtain ⟨notification, waiting, hqueue⟩ :=
      List.exists_cons_of_ne_nil (choice_eq_handle_iff.mp hchoice).2
    exact ⟨some notification, _, _,
      .handle hrunning ⟨hphase, rfl⟩ hchoice (.take tree hphase hqueue)⟩

/-! ## Requests to stop -/

/-- While a notification is handled, a cycle that has begun is no longer still to begin. -/
theorem inHand_eq_of_within {scene found : Scene} {act : Act}
    (h : Watch.Step scene act more found) (hwithin : act.isWithin = true) :
    found.session.cycles + found.session.phase.inHand =
      scene.session.cycles + scene.session.phase.inHand := by
  cases h with
  | take | register => cases hwithin
  | wake tree hphase =>
    rw [Session.wake, if_pos hphase, hphase]
    rfl
  | gather tree hphase hqueue =>
    rw [Session.value_takeNext, hphase]
    split <;> rfl
  | begin tree hphase hqueue =>
    rw [hphase]
    rfl
  | finish tree reading hphase =>
    rw [Session.value_endCycle, hphase]
    rfl
  | arrive | change | read => rfl

/-- Nothing is taken but for a notification in hand. -/
theorem taken?_eq_none_of_within {scene found : Scene} {act : Act}
    (h : Watch.Step scene act more found) (hwithin : act.isWithin = true)
    (hinHand : scene.session.phase.inHand = 0) : act.taken? = none := by
  cases h with
  | take => cases hwithin
  | gather tree hphase hqueue =>
    rw [hphase] at hinHand
    cases hinHand
  | _ => rfl

/-- What a session still does once it was asked to stop: nothing new is taken up, and a cycle begins
for the notification in hand at most. -/
structure Stopping (loop : Loop) (events : List Event) (last : Loop) : Prop where
  requested : last.stopRequested = true
  untaken : ∀ notification, .poll (some notification) ∉ events
  cycles_eq : last.scene.session.cycles + last.scene.session.phase.inHand =
    loop.scene.session.cycles + loop.scene.session.phase.inHand
  cycles_le : loop.scene.session.cycles ≤ last.scene.session.cycles
  idle : loop.scene.session.phase.inHand = 0 → events.filterMap Event.taken? = []

theorem Stopping.refl (hstop : loop.stopRequested = true) : Stopping loop [] loop :=
  ⟨hstop, fun _ => List.not_mem_nil, rfl, Nat.le_refl _, fun _ => rfl⟩

theorem Stopping.trans {others : List Event} (h : Stopping first events loop)
    (h' : Stopping loop others last) : Stopping first (events ++ others) last where
  requested := h'.requested
  untaken notification hmem := (List.mem_append.mp hmem).elim (h.untaken _) (h'.untaken _)
  cycles_eq := h'.cycles_eq.trans h.cycles_eq
  cycles_le := Nat.le_trans h.cycles_le h'.cycles_le
  idle hinHand := by
    -- The sum stays and cycles only grow, so nothing is in hand later either.
    have hstill : loop.scene.session.phase.inHand = 0 := by
      have heq := h.cycles_eq
      have hle := h.cycles_le
      omega
    rw [List.filterMap_append, h.idle hinHand, h'.idle hstill]
    rfl

theorem Step.stopping (h : Step loop event more next) (hstop : loop.stopRequested = true) :
    Stopping loop [event] next := by
  -- Whenever the session looks, it finds the request first.
  have hstays : loop.choice = .stop := choice_eq_stop_iff.mpr hstop
  cases h with
  | @within act lines found hrunning hwithin hopened hstep =>
    refine ⟨hstop, by simp, inHand_eq_of_within hstep hwithin, ?_, fun hinHand => ?_⟩
    · exact hstep.cycles_eq.1 ▸ Nat.le_add_right _ _
    · exact List.filterMap_cons_none (taken?_eq_none_of_within hstep hwithin hinHand)
  | request => exact ⟨rfl, by simp, rfl, Nat.le_refl _, fun _ => rfl⟩
  | shut => exact ⟨hstop, by simp, rfl, Nat.le_refl _, fun _ => rfl⟩
  | stop =>
    rw [value_stop, value_release]
    exact ⟨hstop, by simp, rfl, Nat.le_refl _, fun _ => rfl⟩
  | handle hrunning hselect hchoice => simp [hstays] at hchoice
  | close hrunning hselect hchoice => simp [hstays] at hchoice
  | wait hrunning hselect hchoice => simp [hstays] at hchoice

theorem Runs.stopping (h : Runs loop events lines last) (hstop : loop.stopRequested = true) :
    Stopping loop events last := by
  induction h with
  | refl => exact .refl hstop
  | step _ hstep ih => exact ih.trans (hstep.stopping ih.requested)

/-! ## Undisturbed runs -/

theorem atSelect_of_take {scene found : Scene} {notification : Notification}
    (h : Watch.Step scene (.take notification) more found) :
    scene.session.phase = .idle ∧ scene.reading = none ∧ scene.session.queue ≠ [] := by
  cases h with
  | take tree hphase hqueue => exact ⟨hphase, rfl, hqueue ▸ List.cons_ne_nil _ _⟩

/-- The session does what it does by itself. -/
theorem Step.ofAct {act : Act} {found : Scene} (hrunning : loop.result = none)
    (hhandles : act.handles = true) (hfree : act.isWithin = true ∨ loop.stopRequested = false)
    (h : Watch.Step loop.scene act more found) :
    Step loop (.ofAct act) more { loop with scene := found } := by
  cases act with
  | take notification =>
    obtain ⟨hphase, hreading, hqueue⟩ := atSelect_of_take h
    have hstop : loop.stopRequested = false := hfree.resolve_left (by simp [Act.isWithin])
    exact .handle hrunning ⟨hphase, hreading⟩ (choice_eq_handle_iff.mpr ⟨hstop, hqueue⟩) h
  | arrive | change | register => cases hhandles
  | wake | gather | begin | read | finish => exact .within hrunning rfl (by simp [Act.arrived?]) h

theorem Runs.ofActs {acts : List Act} {found : Scene} (h : Watch.Runs loop.scene acts lines found)
    (hrunning : loop.result = none) (hhandles : ∀ act ∈ acts, act.handles = true)
    (hfree : (∀ act ∈ acts, act.isWithin = true) ∨ loop.stopRequested = false) :
    Runs loop (acts.map .ofAct) lines { loop with scene := found } := by
  induction h with
  | refl => exact .refl
  | @step acts lines more scene found act _ hstep ih =>
    have hbefore := ih (fun act hact => hhandles act (List.mem_append_left _ hact))
      (hfree.imp_left fun hwithin act hact => hwithin act (List.mem_append_left _ hact))
    have hact : act ∈ acts ++ [act] := List.mem_append_right _ (List.mem_singleton_self act)
    rw [List.map_append]
    exact .step hbefore
      (.ofAct hrunning (hhandles act hact) (hfree.imp_left fun hwithin => hwithin act hact) hstep)

theorem handles_of_mem_acts {turn : Turn} {act : Act} (h : act ∈ turn.acts) :
    act.handles = true := by
  cases turn with
  | passed notification =>
    rw [List.mem_singleton.mp h]
    rfl
  | answered trigger gathered =>
    simp only [Turn.acts, List.cons_append, List.mem_cons, List.mem_append, List.mem_map] at h
    grind [Act.handles]

/-- A session that has handled a notification is between two notifications again, and is registered
as before. -/
theorem idle_handleNext (tree : Tree) (hphase : session.phase = .idle) :
    (session.handleNext tree).value.1.phase = .idle ∧
      (session.handleNext tree).value.1.watching = session.watching := by
  cases hqueue : session.queue with
  | nil =>
    unfold Session.handleNext
    rw [hqueue]
    exact ⟨hphase, rfl⟩
  | cons notification waiting =>
    cases hrelevant : session.isRelevant notification with
    | true =>
      rw [Session.value_handleNext_of_relevant tree hphase hqueue hrelevant]
      exact ⟨rfl, rfl⟩
    | false =>
      rw [Session.value_handleNext_of_irrelevant tree hphase hqueue hrelevant]
      exact ⟨hphase, rfl⟩

theorem exists_runs_handleNext (hscene : loop.scene = ⟨session, tree, none⟩)
    (hphase : session.phase = .idle) (hrunning : loop.result = none)
    (hstop : loop.stopRequested = false) :
    ∃ events, Runs loop events (session.handleNext tree).lines
      { loop with
        scene :=
          ⟨(session.handleNext tree).value.1, (session.handleNext tree).value.2, none⟩ } := by
  cases hqueue : session.queue with
  | nil =>
    have hnothing : session.handleNext tree = pure (session, tree) := by
      unfold Session.handleNext
      rw [hqueue]
    rw [hnothing]
    exact ⟨[], hscene ▸ .refl⟩
  | cons notification waiting =>
    have hruns := Session.runs_handleNext tree hphase hqueue
    rw [← hscene] at hruns
    exact ⟨_, .ofActs hruns hrunning (fun _ => handles_of_mem_acts) (.inr hstop)⟩

theorem exists_runs_handleMany (loop : Loop) (count : Nat)
    (hscene : loop.scene = ⟨session, tree, none⟩) (hphase : session.phase = .idle)
    (hrunning : loop.result = none) (hstop : loop.stopRequested = false) :
    (∃ events, Runs loop events (session.handleMany count tree).lines
      { loop with
        scene := ⟨(session.handleMany count tree).value.1,
          (session.handleMany count tree).value.2, none⟩ }) ∧
      (session.handleMany count tree).value.1.phase = .idle ∧
      (session.handleMany count tree).value.1.watching = session.watching := by
  induction count generalizing loop session tree with
  | zero => exact ⟨⟨[], hscene ▸ .refl⟩, hphase, rfl⟩
  | succ count ih =>
    obtain ⟨events, hfirst⟩ := exists_runs_handleNext hscene hphase hrunning hstop
    obtain ⟨hidle, hwatching⟩ := idle_handleNext tree hphase
    obtain ⟨⟨others, hrest⟩, hlast, hsame⟩ := ih
      { loop with
        scene := ⟨(session.handleNext tree).value.1, (session.handleNext tree).value.2, none⟩ }
      rfl hidle hrunning hstop
    exact ⟨⟨_, hfirst.trans hrest⟩, hlast, hsame.trans hwatching⟩

/-- How a session ends that has handled what waited: if something could still come, it is asked to
stop. -/
def ending (session : Session) (watcher : Watcher) :
    Logged (Session × Watcher × Except Error Unit) :=
  if session.choose false = .close then session.close watcher else session.stop watcher

theorem run_eq (session : Session) (watcher : Watcher) (tree : Tree) :
    (session.run watcher tree).value =
        ((ending (session.work tree).value.1 watcher).value.1, (session.work tree).value.2,
          (ending (session.work tree).value.1 watcher).value.2) ∧
      (session.run watcher tree).lines =
        (session.work tree).lines ++ (ending (session.work tree).value.1 watcher).lines := by
  unfold Session.run ending
  simp only [Logged.value_bind, Logged.lines_bind]
  split <;> exact ⟨rfl, congrArg _ (List.append_nil _)⟩

theorem exists_runs_ending (hselect : loop.AtSelect) (hrunning : loop.result = none)
    (hopened : loop.opened = loop.scene.session.watching) (hstop : loop.stopRequested = false) :
    ∃ events stopRequested, Runs loop events (ending loop.scene.session loop.watcher).lines
      { loop.ended (ending loop.scene.session loop.watcher).value with
        stopRequested := stopRequested } := by
  have hchoice : loop.choice = loop.scene.session.choose false := by
    rw [choice, hopened, hstop]
  unfold ending
  by_cases hclose : loop.scene.session.choose false = .close
  · rw [if_pos hclose]
    exact ⟨_, _, .single (.close hrunning hselect (hchoice.trans hclose))⟩
  · -- Something could still come, so the request to stop is what ends the session.
    rw [if_neg hclose]
    have hrequest : Step loop .request [] { loop with stopRequested := true } := .request hrunning
    exact ⟨_, _, (Runs.single hrequest).trans
      (.single (.stop hrunning hselect (choice_eq_stop_iff.mpr rfl)))⟩

/-- What `Session.run` does is a run, and the end of one. -/
theorem exists_runs_run (session : Session) (watcher : Watcher) (tree : Tree)
    (hphase : session.phase = .idle) :
    ∃ events last, Runs (ofSession session watcher tree) events (session.run watcher tree).lines
        last ∧
      (last.scene.session, last.scene.tree, last.watcher, last.result) =
        ((session.run watcher tree).value.1, (session.run watcher tree).value.2.1,
          (session.run watcher tree).value.2.2.1, some (session.run watcher tree).value.2.2.2) := by
  obtain ⟨⟨events, hwork⟩, hidle, hwatching⟩ := exists_runs_handleMany
    (ofSession session watcher tree) session.queue.length rfl hphase rfl rfl
  obtain ⟨hvalue, hlines⟩ := run_eq session watcher tree
  obtain ⟨others, stopRequested, hend⟩ := exists_runs_ending
    (show AtSelect { ofSession session watcher tree with
      scene := ⟨(session.work tree).value.1, (session.work tree).value.2, none⟩ } from
      ⟨hidle, rfl⟩) rfl hwatching.symm rfl
  rw [hvalue, hlines]
  exact ⟨_, _, hwork.trans hend, rfl⟩

/-! ## The way to the next look -/

/-- Only a cycle in flight has read its input. -/
def Ready (loop : Loop) : Prop :=
  loop.scene.session.phase ≠ .generating → loop.scene.reading = none

theorem AtSelect.ready (h : loop.AtSelect) : loop.Ready :=
  fun _ => h.2

theorem ready_of_step {scene found : Scene} {act : Act} (h : Watch.Step scene act more found)
    (hready : scene.session.phase ≠ .generating → scene.reading = none) :
    found.session.phase ≠ .generating → found.reading = none := by
  cases h with
  | arrive | change => exact hready
  | read tree hphase => exact fun hnot => absurd hphase hnot
  | _ => exact fun _ => rfl

theorem Step.ready (h : Step loop event more next) (hready : loop.Ready) : next.Ready := by
  cases h with
  | within _ _ _ hstep | handle _ _ _ hstep => exact ready_of_step hstep hready
  | stop _ hselect | close _ hselect => exact fun _ => hselect.2
  | request | shut | wait => exact hready

theorem Runs.ready (h : Runs first events lines loop) (hready : first.Ready) : loop.Ready := by
  induction h with
  | refl => exact hready
  | step _ hstep ih => exact hstep.ready ih

/-- Whether a session can come to wait for the next notification without taking one up. -/
def Settles (scene : Scene) : Prop :=
  ∃ acts lines found, Watch.Runs scene acts lines found ∧
    (∀ act ∈ acts, act.handles = true ∧ act.isWithin = true) ∧
    found.session.phase = .idle ∧ found.reading = none

theorem Settles.of_idle {scene : Scene} (hphase : scene.session.phase = .idle)
    (hreading : scene.reading = none) : Settles scene :=
  ⟨[], [], scene, .refl, fun _ hact => absurd hact List.not_mem_nil, hphase, hreading⟩

theorem Settles.of_step {scene found : Scene} {act : Act} (h : Settles found)
    (hstep : Watch.Step scene act more found)
    (hact : act.handles = true ∧ act.isWithin = true) : Settles scene := by
  obtain ⟨acts, lines, last, hruns, hacts, hlast⟩ := h
  refine ⟨_, _, last, (Watch.Runs.single hstep).trans hruns, fun other hother => ?_, hlast⟩
  rcases List.mem_append.mp hother with hother | hother
  · exact List.mem_singleton.mp hother ▸ hact
  · exact hacts other hother

theorem settles_of_generating (tree : Tree) (reading : Option (Except Files.Fault String))
    (hphase : session.phase = .generating) : Settles ⟨session, tree, reading⟩ := by
  have hread : ∀ reading, Settles ⟨session, tree, some reading⟩ := by
    intro reading
    have hfinish := Watch.Step.finish tree reading hphase
    rw [Session.value_endCycle] at hfinish
    exact (Settles.of_idle rfl rfl).of_step hfinish ⟨rfl, rfl⟩
  cases reading with
  | none => exact (hread _).of_step (.read tree hphase) ⟨rfl, rfl⟩
  | some reading => exact hread reading

theorem settles_of_gathering {changes : Nat} {queue : List Notification} (tree : Tree)
    (hphase : session.phase = .gathering changes) (hqueue : session.queue = queue) :
    Settles ⟨session, tree, none⟩ := by
  induction queue generalizing session changes with
  | nil =>
    have hbegun := settles_of_generating tree none (show session.beginCycle.phase = _ from rfl)
    exact hbegun.of_step (.begin tree hphase hqueue) ⟨rfl, rfl⟩
  | cons notification waiting ih =>
    have hgather := Watch.Step.gather tree hphase hqueue
    cases hrelevant : session.isRelevant notification with
    | true =>
      have hrest : Settles
          ⟨{ session with queue := waiting, phase := .gathering (changes + 1) }, tree, none⟩ :=
        ih rfl rfl
      rw [Session.value_takeNext_of_relevant hrelevant, hphase] at hgather
      exact hrest.of_step hgather ⟨rfl, rfl⟩
    | false =>
      have hrest : Settles ⟨{ session with queue := waiting }, tree, none⟩ := ih hphase rfl
      rw [Session.value_takeNext_of_irrelevant hrelevant] at hgather
      exact hrest.of_step hgather ⟨rfl, rfl⟩

theorem settles_of_ready {scene : Scene}
    (hready : scene.session.phase ≠ .generating → scene.reading = none) : Settles scene := by
  obtain ⟨session, tree, reading⟩ := scene
  cases hphase : session.phase with
  | idle => exact .of_idle hphase (hready (by simp [hphase]))
  | settling =>
    obtain rfl : reading = none := hready (by simp [hphase])
    have hwake := Watch.Step.wake tree hphase
    rw [Session.wake, if_pos hphase] at hwake
    exact (settles_of_gathering tree rfl rfl).of_step hwake ⟨rfl, rfl⟩
  | gathering changes =>
    obtain rfl : reading = none := hready (by simp [hphase])
    exact settles_of_gathering tree hphase rfl
  | generating => exact settles_of_generating tree reading hphase

theorem exists_runs_select (hready : loop.Ready) (hrunning : loop.result = none) :
    ∃ events lines last, Runs loop events lines last ∧ last.result = none ∧ last.AtSelect := by
  obtain ⟨acts, lines, found, hruns, hacts, hselect⟩ := settles_of_ready hready
  exact ⟨_, _, _, .ofActs hruns hrunning (fun act hact => (hacts act hact).1)
    (.inl fun act hact => (hacts act hact).2), hrunning, hselect⟩

/-! ## All runs -/

theorem Runs.queue_eq (h : Runs first events lines loop) :
    first.scene.session.queue ++ events.filterMap Event.arrived? =
      events.filterMap Event.taken? ++ loop.scene.session.queue := by
  induction h with
  | refl => exact List.append_nil _
  | step _ hstep ih =>
    rw [filterMap_concat, filterMap_concat, ← List.append_assoc, ih, List.append_assoc,
      List.append_assoc, hstep.queue_eq]

theorem Runs.idle_of_ended (h : Runs loop events lines last) (hrunning : loop.result = none)
    (hended : last.result.isSome = true) : last.scene.session.phase = .idle := by
  cases h with
  | refl => simp [hrunning] at hended
  | step _ hstep => exact (hstep.released hended).1

theorem Runs.stopRequested_iff (h : Runs first events lines loop) :
    loop.stopRequested = true ↔ first.stopRequested = true ∨ .request ∈ events := by
  induction h with
  | refl => simp
  | step _ hstep ih => cases hstep <;> simp [ended, ih]

theorem Runs.opened_iff (h : Runs first events lines loop) :
    loop.opened = true ↔ first.opened = true ∧ .shut ∉ events := by
  induction h with
  | refl => simp
  | step _ hstep ih => cases hstep <;> simp [ended, ih]

/-- **A session ends between two notifications**, whatever happens and whenever:

- notifications are taken in the order in which they came, and a session that handles one comes to
  look again what to do;
- it returns without an error when it finds that it was asked to stop, and with an error when it
  finds that it was not, that nothing waits and that nothing can come any more; nothing else ends
  it, neither a fault nor a cycle that fails;
- when it ends it is no longer registered;
- once it was asked to stop, no notification is taken up any more, and only for one in hand what
  waits is gathered and one more cycle begins, before it returns. -/
theorem ends_between_notifications (hselect : first.AtSelect) (h : Runs first events lines loop) :
    (first.scene.session.queue ++ events.filterMap Event.arrived? =
        events.filterMap Event.taken? ++ loop.scene.session.queue ∧
      (loop.stopRequested = true ↔ first.stopRequested = true ∨ .request ∈ events) ∧
      (loop.opened = true ↔ first.opened = true ∧ .shut ∉ events)) ∧
    (loop.result = none →
      (∃ others more last, Runs loop others more last ∧ last.result = none ∧ last.AtSelect) ∧
      (loop.AtSelect → ∃ taken more next, Step loop (.poll taken) more next)) ∧
    (∀ event more next, Step loop event more next →
      ((∃ taken, event = .poll taken) → loop.AtSelect) ∧
      (next.result = some (.ok ()) ↔
        (∃ taken, event = .poll taken) ∧ loop.stopRequested = true) ∧
      (∀ error, next.result = some (.error error) ↔
        error = .watcher .closed ∧ (∃ taken, event = .poll taken) ∧ loop.stopRequested = false ∧
          loop.opened = false ∧ loop.scene.session.queue = []) ∧
      (event ≠ .poll none → next.result = none) ∧
      (next.result.isSome = true → next.scene.session.phase = .idle ∧
        next.scene.session.watching = false ∧
        next.watcher.calls = loop.watcher.calls ++
          if loop.scene.session.watching then [.unwatch loop.scene.session.root] else [])) ∧
    ∀ others more last, Runs loop others more last → loop.stopRequested = true →
      (∀ notification, .poll (some notification) ∉ others) ∧
      last.scene.session.cycles ≤ loop.scene.session.cycles + 1 ∧
      (loop.scene.session.phase = .idle ∨ loop.scene.session.phase = .generating →
        others.filterMap Event.taken? = [] ∧
          last.scene.session.cycles = loop.scene.session.cycles) ∧
      (loop.result = none → last.result.isSome = true →
        last.scene.session.cycles =
          loop.scene.session.cycles + loop.scene.session.phase.inHand) := by
  refine ⟨⟨h.queue_eq, h.stopRequested_iff, h.opened_iff⟩,
    fun hrunning => ⟨exists_runs_select (h.ready hselect.ready) hrunning, exists_poll hrunning⟩,
    fun event more next hstep => ⟨?_, hstep.result_eq_ok_iff, hstep.result_eq_error_iff,
      hstep.result_eq_none, hstep.released⟩, fun others more last hruns hstop => ?_⟩
  · rintro ⟨taken, rfl⟩
    exact hstep.atSelect
  · obtain ⟨-, huntaken, hcycles, hgrown, hidle⟩ := hruns.stopping hstop
    have hone := inHand_le_one loop.scene.session.phase
    refine ⟨huntaken, by omega, fun hphase => ?_, fun hrunning hended => ?_⟩
    · have hinHand : loop.scene.session.phase.inHand = 0 := by
        rcases hphase with hphase | hphase <;> rw [hphase] <;> rfl
      exact ⟨hidle hinHand, by omega⟩
    · rw [hruns.idle_of_ended hrunning hended] at hcycles
      exact hcycles

/-! ## A request during a delay -/

/-- A registered session with a change and a fault that wait. -/
def sampleSession : Session :=
  { Session.ofTemplate Session.sampleConfig Session.sampleTemplate with
    queue := [sampleChange, .fault "lost"]
    watching := true }

def sampleLoop : Loop :=
  ofSession sampleSession .sound (plainTree [])

/-- The session takes the change, is asked to stop during the delay, and loses its last sender. -/
theorem exists_runs_asked :
    ∃ lines loop, Runs sampleLoop [.poll (some sampleChange), .request, .shut] lines loop ∧
      loop.scene.session.phase = .settling ∧ loop.scene.session.cycles = 0 ∧ loop.result = none ∧
      loop.stopRequested = true := by
  have hrelevant : sampleSession.isRelevant sampleChange = true := by decide
  have htake := Watch.Step.take (plainTree []) (show sampleSession.phase = .idle from rfl)
    (show sampleSession.queue = [sampleChange, .fault "lost"] from rfl)
  rw [Session.value_takeNext_of_relevant hrelevant] at htake
  have hhandle : Step sampleLoop _ _ _ := .handle rfl ⟨rfl, rfl⟩ rfl htake
  exact ⟨_, _, ((Runs.single hhandle).step (.request rfl)).step (.shut rfl), rfl, rfl, rfl, rfl⟩

/-- The session answers the change with a cycle, and then returns without an error. -/
theorem ends_between_notifications_asked :
    ∃ events lines last, Runs sampleLoop events lines last ∧ .request ∈ events ∧ .shut ∈ events ∧
      last.result = some (.ok ()) ∧ last.scene.session.watching = false ∧
      last.scene.session.cycles = 1 := by
  obtain ⟨lines, loop, hasked, hphase, hcycles, hrunning, hstop⟩ := exists_runs_asked
  have hselect : sampleLoop.AtSelect := ⟨rfl, rfl⟩
  obtain ⟨-, hprogress, -, hstopping⟩ := ends_between_notifications hselect hasked
  obtain ⟨others, more, found, hruns, hstill, hfound⟩ := (hprogress hrunning).1
  obtain ⟨-, hpoll, hends, -⟩ := ends_between_notifications hselect (hasked.trans hruns)
  obtain ⟨taken, rest, last, hlast⟩ := (hpoll hstill).2 hfound
  obtain ⟨-, hok, -, -, hreleased⟩ := hends _ _ _ hlast
  have hresult : last.result = some (.ok ()) :=
    hok.mpr ⟨⟨taken, rfl⟩, (hruns.stopping hstop).requested⟩
  have hended : last.result.isSome = true := by rw [hresult]; rfl
  have hcount := (hstopping _ _ _ (hruns.step hlast) hstop).2.2.2 hrunning hended
  rw [hphase, hcycles] at hcount
  exact ⟨_, _, last, (hasked.trans hruns).step hlast, by simp, by simp, hresult,
    (hreleased hended).2.1, hcount⟩

end Loop

end FetchClient.Watch
