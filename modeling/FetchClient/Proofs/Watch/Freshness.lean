import FetchClient.Proofs.Generation.Effects
import FetchClient.Proofs.Watch.Accounting

/-!
# Sessions at rest

A session that waits, with no notification left, has read what is in its input. It relies on a
watcher that notices when the input changes while the session is registered. Until then nobody does.

- `World`: a scene, and what the watcher has still to deliver;
- `World.Next`: what may happen in a world whose watcher misses nothing;
- `World.Fresh`: the invariant, which every step preserves;
- `World.reachable_of_start`: a session that was started is in such a world;
- `World.rest_is_fresh`: at rest the last cycle has read what is in the input, unless the input has
  changed between the first cycle and the registration;
- `World.stale_at_rest`: in that case it may have read something else.
-/

namespace FetchClient.Watch

open Files (Fault Tree)
open Files.Tree (LeadsToName)
open Generation (conclude plainTree)
open Generation.Output (stagingPath)

/-- What is in the input now. -/
def Scene.input (scene : Scene) : Except Fault String :=
  scene.tree.readText scene.session.config.inputPath

/-- The template of a session as it was in the last cycle that has ended. -/
def Session.endedTemplate (session : Session) : Template :=
  session.template.after (session.cycles - session.phase.inFlight)

/-- Whether an act is one of the session that neither ends a cycle nor registers the session. -/
def Act.isQuiet : Act → Bool
  | .take _ | .wake | .gather _ | .begin | .read => true
  | .arrive _ | .change _ | .finish | .register => false

/-- A scene, with what is to be known of its past. -/
structure World where
  scene : Scene
  /-- The notifications that the watcher has still to deliver. -/
  owed : List Notification
  /-- What the last cycle had read, and the files among which it wrote its output. -/
  last : Option (Except Fault String × Tree)
  /-- What was in the input when the session was registered. -/
  registered : Option (Except Fault String)

namespace World

/-- A world whose session is at its first cycle. -/
def first (config : Config) (template : Template) (tree : Tree) : World :=
  ⟨.first config template tree, [], none, none⟩

/-- Whether notifications include what a watcher owes a registered session when its input becomes
another one. -/
def Notices (scene next : Scene) (notifications : List Notification) : Prop :=
  scene.session.watching = true → next.input ≠ scene.input →
    ∃ notification ∈ notifications, notification.concerns scene.session.config.inputPath = true

/-- What may happen next. Nobody but the session writes the output. The watcher misses nothing that
happens to the input while the session is registered, may deliver in any order what it has noticed,
and may deliver other notifications too. -/
inductive Next (world : World) : World → Prop where
  | delivered {notification : Notification} {lines : List Log.Line} {scene : Scene}
      (hwatching : world.scene.session.watching = true)
      (hstep : Step world.scene (.arrive notification) lines scene) :
      Next world { world with scene := scene, owed := world.owed.erase notification }
  | edited {found : Tree} {lines : List Log.Line} {scene : Scene} {noticed : List Notification}
      (houtput : ∀ text,
        world.scene.tree.readText world.scene.session.config.outputPath = .ok text →
        found.readText world.scene.session.config.outputPath = .ok text)
      (hnoticed : Notices world.scene scene noticed)
      (hstep : Step world.scene (.change found) lines scene) :
      Next world { world with scene := scene, owed := world.owed ++ noticed }
  | quiet {act : Act} {lines : List Log.Line} {scene : Scene} (hquiet : act.isQuiet = true)
      (hstep : Step world.scene act lines scene) : Next world { world with scene := scene }
  | finished {reading : Except Fault String} {lines : List Log.Line} {scene : Scene}
      {noticed : List Notification} (hreading : world.scene.reading = some reading)
      (hnoticed : Notices world.scene scene noticed)
      (hstep : Step world.scene .finish lines scene) :
      Next world { world with
        scene := scene
        owed := world.owed ++ noticed
        last := some (reading, world.scene.tree) }
  | registered {lines : List Log.Line} {scene : Scene}
      (hstep : Step world.scene .register lines scene) :
      Next world { world with scene := scene, registered := some world.scene.input }

/-- What a session can come to. -/
inductive Reachable (config : Config) (template : Template) (tree : Tree) : World → Prop where
  | first : Reachable config template tree (first config template tree)
  | next {world next : World} (hreachable : Reachable config template tree world)
      (hnext : Next world next) : Reachable config template tree next

/-- Whether a session that is registered waits, and nothing is left that it could notice. -/
structure AtRest (world : World) : Prop where
  watching : world.scene.session.watching = true
  idle : world.scene.session.phase = .idle
  queue : world.scene.session.queue = []
  owed : world.owed = []

/-- Whether the input was the same when the session was registered and when the first cycle read it,
or another cycle has begun since. -/
def Noticed (world : World) : Prop :=
  1 < world.scene.session.cycles ∨ world.registered = world.last.map Prod.fst

/-- What was read last, by the cycle in flight or else by the last one. -/
def lastReading (world : World) : Option (Except Fault String) :=
  world.scene.reading.or (world.last.map Prod.fst)

/-- Whether the session is still to hear of a change of its input. -/
def WillHear (session : Session) (owed : List Notification) : Prop :=
  ∃ notification ∈ owed ++ session.queue, notification.concerns session.config.inputPath = true

/-- Whether the session reads its input before it waits again. -/
def willRead (scene : Scene) : Bool :=
  match scene.session.phase with
  | .idle => false
  | .settling | .gathering _ => true
  | .generating => scene.reading.isNone

/-- What is known of the last cycle that has ended: its outcome is the one that is recorded, and if
it succeeded its client is the output. -/
structure Ended (config : Config) (template : Template)
    (last : Option (Except Fault String × Tree)) (recorded : Option Outcome) (tree : Tree) :
    Prop where
  outcome : ∀ reading before, last = some (reading, before) →
    recorded = some (.ofResult (conclude config template reading before).value.2)
  output : ∀ reading before client, last = some (reading, before) →
    (conclude config template reading before).value.2 = .ok client →
    before.Unlinked (stagingPath config.outputPath) → before.Direct config.outputPath →
    tree.readText config.outputPath = .ok client.sourceText

/-- The invariant of a world. -/
structure Fresh (config : Config) (template : Template) (world : World) : Prop where
  sameConfig : world.scene.session.config = config
  sameTemplate : world.scene.session.template = template
  counted : 0 < world.scene.session.cycles
  /-- Only a cycle in flight has something read. -/
  inFlight : world.scene.reading ≠ none → world.scene.session.phase = .generating
  /-- Until it is registered, a session hears of nothing and is at its first cycle or behind it. -/
  unwatched : world.scene.session.watching = false →
    world.scene.session.cycles = 1 ∧ world.scene.session.queue = [] ∧
      (world.scene.session.phase = .idle ∨ world.scene.session.phase = .generating)
  /-- The first cycle is over when the session is registered. -/
  further : world.scene.session.watching = true → world.scene.session.phase = .generating →
    1 < world.scene.session.cycles
  /-- What was read last is in the input, or else the session will read it. -/
  current : world.scene.session.watching = true → world.Noticed →
    world.lastReading = some world.scene.input ∨ WillHear world.scene.session world.owed ∨
      willRead world.scene = true
  ended : Ended config world.scene.session.endedTemplate world.last
    world.scene.session.lastOutcome world.scene.tree

variable {config : Config} {template : Template} {tree found : Tree} {session : Session}
  {reading : Option (Except Fault String)} {owed : List Notification}
  {last : Option (Except Fault String × Tree)} {registered : Option (Except Fault String)}
  {notification : Notification} {waiting noticed : List Notification} {scene next : Scene}
  {world : World}

/-! ## Steps -/

theorem fresh_first (config : Config) (template : Template) (tree : Tree) :
    Fresh config template (first config template tree) where
  sameConfig := rfl
  sameTemplate := rfl
  counted := Nat.one_pos
  inFlight hnot := absurd rfl hnot
  unwatched _ := ⟨rfl, rfl, .inr rfl⟩
  further := nofun
  current := nofun
  ended := ⟨nofun, nofun⟩

/-- If the input becomes another one, the session will hear of it. -/
theorem Notices.current {read : Option (Except Fault String)} (h : Notices scene next noticed)
    (hwatching : scene.session.watching = true)
    (hconfig : next.session.config = scene.session.config)
    (hqueue : next.session.queue = scene.session.queue)
    (hcurrent : read = some scene.input ∨ WillHear scene.session owed) :
    read = some next.input ∨ WillHear next.session (owed ++ noticed) := by
  rw [WillHear, hconfig, hqueue]
  by_cases hsame : next.input = scene.input
  · rw [hsame]
    refine hcurrent.imp_right ?_
    rintro ⟨heard, hmem, hrelevant⟩
    refine ⟨heard, ?_, hrelevant⟩
    rw [List.append_assoc]
    rcases List.mem_append.mp hmem with howed | hqueue
    · exact List.mem_append_left _ howed
    · exact List.mem_append_right _ (List.mem_append_right _ hqueue)
  · obtain ⟨heard, hmem, hrelevant⟩ := h hwatching hsame
    exact .inr ⟨heard, List.mem_append_left _ (List.mem_append_right _ hmem), hrelevant⟩

namespace Fresh

/-- What the watcher delivers is waiting now. -/
theorem delivered (h : Fresh config template ⟨⟨session, tree, reading⟩, owed, last, registered⟩)
    (hwatching : session.watching = true) (notification : Notification) :
    Fresh config template
      ⟨⟨{ session with queue := session.queue ++ [notification] }, tree, reading⟩,
        owed.erase notification, last, registered⟩ :=
  { h with
    unwatched := fun hnot => absurd hwatching (Bool.not_eq_true _ ▸ hnot)
    current := fun _ hnoticed => by
      refine (h.current hwatching hnoticed).imp_right (Or.imp_left ?_)
      rintro ⟨heard, hmem, hrelevant⟩
      refine ⟨heard, ?_, hrelevant⟩
      -- What is delivered moves from the first list to the second.
      show heard ∈ owed.erase notification ++ (session.queue ++ [notification])
      by_cases hsame : heard = notification
      · simp [hsame]
      · rcases List.mem_append.mp hmem with howed | hqueue
        · exact List.mem_append_left _ ((List.mem_erase_of_ne hsame).mpr howed)
        · exact List.mem_append_right _ (List.mem_append_left _ hqueue) }

/-- When others change files, the output stays, and the watcher notices what becomes of the input. -/
theorem edited (h : Fresh config template ⟨⟨session, tree, reading⟩, owed, last, registered⟩)
    (houtput : ∀ text, tree.readText session.config.outputPath = .ok text →
      found.readText session.config.outputPath = .ok text)
    (hnotices : Notices ⟨session, tree, reading⟩ ⟨session, found, reading⟩ noticed) :
    Fresh config template ⟨⟨session, found, reading⟩, owed ++ noticed, last, registered⟩ :=
  { h with
    current := fun hwatching hnoticed => by
      rcases or_assoc.mpr (h.current hwatching hnoticed) with hcurrent | hwill
      · exact or_assoc.mp (.inl (hnotices.current hwatching rfl rfl hcurrent))
      · exact .inr (.inr hwill)
    ended := ⟨h.ended.outcome, fun read before client hlast hok hunlinked hdirect => by
      have hread := h.ended.output read before client hlast hok hunlinked hdirect
      obtain rfl : session.config = config := h.sameConfig
      exact houtput _ hread⟩ }

/-- A change that is taken leads to a cycle, and what else is taken makes no difference. -/
theorem takeNext (h : Fresh config template ⟨⟨session, tree, none⟩, owed, last, registered⟩)
    (hready : session.phase = .idle ∨ ∃ changes, session.phase = .gathering changes)
    (hqueue : session.queue = notification :: waiting) :
    Fresh config template ⟨⟨(session.takeNext notification waiting).value, tree, none⟩, owed, last,
      registered⟩ := by
  -- Something waits, and so the session is registered.
  have hwatching : session.watching ≠ false := by
    intro hnot
    have hempty := (h.unwatched hnot).2.1
    simp [hqueue] at hempty
  cases hrelevant : session.isRelevant notification with
  | true =>
    have hwill : willRead
        ⟨{ session with queue := waiting, phase := Session.Phase.noticed session.phase },
          tree, none⟩ = true := by
      rcases hready with hphase | ⟨changes, hphase⟩ <;>
        simp [willRead, Session.Phase.noticed, hphase]
    have hgenerating : Session.Phase.noticed session.phase ≠ .generating := by
      rcases hready with hphase | ⟨changes, hphase⟩ <;> simp [Session.Phase.noticed, hphase]
    -- No cycle begins or ends, and so the one that has ended is still the same.
    have hended : ({ session with
        queue := waiting
        phase := Session.Phase.noticed session.phase } : Session).endedTemplate =
          session.endedTemplate := by
      rcases hready with hphase | ⟨changes, hphase⟩ <;>
        simp [Session.endedTemplate, Session.Phase.noticed, Phase.inFlight, hphase]
    rw [Session.value_takeNext_of_relevant hrelevant]
    exact { h with
      ended := hended ▸ h.ended
      inFlight := fun hnot => absurd rfl hnot
      unwatched := fun hnot => absurd hnot hwatching
      further := fun _ hphase => absurd hphase hgenerating
      current := fun _ _ => .inr (.inr hwill) }
  | false =>
    rw [Session.value_takeNext_of_irrelevant hrelevant]
    exact { h with
      unwatched := fun hnot => absurd hnot hwatching
      current := fun hwatching hnoticed => by
        refine (h.current hwatching hnoticed).imp_right (Or.imp_left ?_)
        rintro ⟨heard, hmem, hconcerns⟩
        have hother : heard ≠ notification := by
          rintro rfl
          rw [Session.isRelevant, hconcerns] at hrelevant
          cases hrelevant
        refine ⟨heard, ?_, hconcerns⟩
        change heard ∈ owed ++ session.queue at hmem
        rw [hqueue, List.mem_append, List.mem_cons] at hmem
        exact List.mem_append.mpr (hmem.imp_right (Or.resolve_left · hother)) }

theorem wake (h : Fresh config template ⟨⟨session, tree, none⟩, owed, last, registered⟩)
    (hphase : session.phase = .settling) :
    Fresh config template ⟨⟨session.wake, tree, none⟩, owed, last, registered⟩ := by
  have hended : ({ session with phase := .gathering 0 } : Session).endedTemplate =
      session.endedTemplate := by
    simp [Session.endedTemplate, Phase.inFlight, hphase]
  rw [Session.wake, if_pos hphase]
  exact { h with
    ended := hended ▸ h.ended
    inFlight := fun hnot => absurd rfl hnot
    unwatched := fun hnot => by
      have hphases := (h.unwatched hnot).2.2
      simp [hphase] at hphases
    further := fun _ hgenerating => by cases hgenerating
    current := fun hwatching hnoticed => .inr (.inr rfl) }

theorem begin (h : Fresh config template ⟨⟨session, tree, none⟩, owed, last, registered⟩)
    {changes : Nat} (hphase : session.phase = .gathering changes) :
    Fresh config template ⟨⟨session.beginCycle, tree, none⟩, owed, last, registered⟩ := by
  have hended : session.beginCycle.endedTemplate = session.endedTemplate := by
    simp [Session.endedTemplate, Session.beginCycle, Phase.inFlight, hphase]
  exact { h with
    ended := hended ▸ h.ended
    counted := Nat.succ_pos _
    inFlight := fun _ => rfl
    unwatched := fun hnot => by
      have hphases := (h.unwatched hnot).2.2
      simp [hphase] at hphases
    further := fun _ _ => Nat.lt_add_of_pos_left h.counted
    current := fun _ _ => .inr (.inr rfl) }

theorem read (h : Fresh config template ⟨⟨session, tree, none⟩, owed, last, registered⟩)
    (hphase : session.phase = .generating) :
    Fresh config template
      ⟨⟨session, tree, some (tree.readText session.config.inputPath)⟩, owed, last, registered⟩ :=
  { h with
    inFlight := fun _ => hphase
    current := fun _ _ => .inl rfl }

/-- What the cycle had read is in the input still, or the watcher notices that it is not. -/
theorem finished {read : Except Fault String} {result : Except Error Client}
    (h : Fresh config template ⟨⟨session, tree, some read⟩, owed, last, registered⟩)
    (hphase : session.phase = .generating)
    (hconclude : (conclude session.config session.cycleTemplate read tree).value = (found, result))
    (hnotices : Notices ⟨session, tree, some read⟩
      ⟨{ session with phase := .idle, lastOutcome := some (.ofResult result) }, found, none⟩
      noticed) :
    Fresh config template
      ⟨⟨{ session with phase := .idle, lastOutcome := some (.ofResult result) }, found, none⟩,
        owed ++ noticed, some (read, tree), registered⟩ := by
  obtain rfl : session.config = config := h.sameConfig
  refine ⟨rfl, h.sameTemplate, h.counted, fun hnot => absurd rfl hnot, fun hnot => ?_, nofun,
    fun hwatching _ => ?_, ?_, ?_⟩
  · obtain ⟨hcycles, hqueue, -⟩ := h.unwatched hnot
    exact ⟨hcycles, hqueue, .inl rfl⟩
  · -- The cycle has read its input and does not read it again.
    have hcurrent := or_assoc.mpr (h.current hwatching (.inl (h.further hwatching hphase)))
    have hnot : ¬ willRead ⟨session, tree, some read⟩ = true := by simp [willRead, hphase]
    exact or_assoc.mp (.inl (hnotices.current hwatching rfl rfl (hcurrent.resolve_right hnot)))
  · rintro _ _ ⟨⟩
    show _ = some (Outcome.ofResult (conclude _ session.cycleTemplate read tree).value.2)
    rw [hconclude]
  · rintro _ _ client ⟨⟩ hok hunlinked hdirect
    change (conclude _ session.cycleTemplate read tree).value.2 = .ok client at hok
    obtain ⟨_, -, -, hreplace⟩ := Generation.exists_of_conclude hok
    rw [hconclude] at hreplace
    exact Generation.Output.readText_of_replace hunlinked hdirect hreplace

/-- The input is what the first cycle had read, or that was missed. -/
theorem register (h : Fresh config template ⟨⟨session, tree, none⟩, owed, last, registered⟩)
    (hphase : session.phase = .idle) :
    Fresh config template ⟨⟨{ session with watching := true }, tree, none⟩, owed, last,
      some (tree.readText session.config.inputPath)⟩ :=
  { h with
    unwatched := nofun
    further := fun _ hgenerating => by
      rw [show session.phase = .generating from hgenerating] at hphase
      cases hphase
    current := fun _ hnoticed => by
      rcases hnoticed with hcycles | hsame
      · -- Only a session that was registered before has begun another cycle.
        have hwatching : session.watching = true := by
          by_contra hnot
          have honce := (h.unwatched (Bool.not_eq_true _ ▸ hnot)).1
          change 1 < session.cycles at hcycles
          change session.cycles = 1 at honce
          omega
        exact h.current hwatching (.inl hcycles)
      · exact .inl hsame.symm }

end Fresh

theorem Next.fresh (h : Fresh config template world) {after : World} (hnext : Next world after) :
    Fresh config template after := by
  obtain ⟨scene, owed, last, registered⟩ := world
  cases hnext with
  | delivered hwatching hstep =>
    cases hstep with
    | arrive => exact h.delivered hwatching _
  | edited houtput hnotices hstep =>
    cases hstep with
    | change => exact h.edited houtput hnotices
  | quiet hquiet hstep =>
    cases hstep with
    | take tree hphase hqueue => exact h.takeNext (.inl hphase) hqueue
    | wake tree hphase => exact h.wake hphase
    | gather tree hphase hqueue => exact h.takeNext (.inr ⟨_, hphase⟩) hqueue
    | begin tree hphase hqueue => exact h.begin hphase
    | read tree hphase => exact h.read hphase
    | _ => cases hquiet
  | finished hreading hnotices hstep =>
    cases hstep with
    | @finish session tree read hphase =>
      cases hreading
      rw [Session.value_endCycle] at hnotices ⊢
      exact h.finished hphase rfl hnotices
  | registered hstep =>
    cases hstep with
    | register tree hphase => exact h.register hphase

theorem Reachable.fresh (h : Reachable config template tree world) :
    Fresh config template world := by
  induction h with
  | first => exact fresh_first config template tree
  | next _ hnext ih => exact hnext.fresh ih

/-! ## Beginnings -/

/-- A cycle reads its input, and ends undisturbed. -/
theorem Reachable.cycle {first : Tree} {result : Except Error Client}
    (h : Reachable config template first ⟨⟨session, tree, none⟩, owed, last, registered⟩)
    (hphase : session.phase = .generating)
    (hcycle : (Generation.cycle session.config session.cycleTemplate tree).value = (found, result))
    (hsame : session.watching = true → found = tree) :
    Reachable config template first
      ⟨⟨{ session with phase := .idle, lastOutcome := some (.ofResult result) }, found, none⟩, owed,
        some (tree.readText session.config.inputPath, tree), registered⟩ := by
  have hfinish := Step.finish tree (tree.readText session.config.inputPath) hphase
  rw [Session.value_endCycle, Generation.conclude_readText, hcycle] at hfinish
  have hnotices : Notices ⟨session, tree, some (tree.readText session.config.inputPath)⟩
      ⟨{ session with phase := .idle, lastOutcome := some (.ofResult result) }, found, none⟩ [] := by
    intro hwatching hinput
    obtain rfl := hsame hwatching
    exact absurd rfl hinput
  have hended := (h.next (.quiet rfl (.read tree hphase))).next (.finished rfl hnotices hfinish)
  rw [List.append_nil] at hended
  exact hended

/-- A session that was started is registered behind its first cycle. -/
theorem reachable_of_start [Engine] {watcher left : Watcher}
    (h : (Session.start config watcher tree).value = (found, left, .ok session)) :
    ∃ template, Generation.setUp config tree = .ok template ∧
      Reachable config template tree
        ⟨⟨session, found, none⟩, [], some (tree.readText config.inputPath, tree),
          some (found.readText config.inputPath)⟩ := by
  obtain ⟨template, hsetUp, rfl, rfl⟩ := Session.exists_of_start h
  have hcycle : (Generation.cycle config (template.after 1) tree).value =
      ((Generation.cycle config (template.after 1) tree).value.1,
        (Generation.cycle config (template.after 1) tree).value.2) := rfl
  have hbegun := Reachable.first.cycle rfl hcycle nofun
  rw [Session.value_runCycle]
  exact ⟨template, hsetUp, hbegun.next (.registered (.register _ rfl))⟩

/-! ## Rest -/

/-- What was read last is in the input, if the session is at rest. -/
theorem Fresh.exists_last (h : Fresh config template world) (hrest : world.AtRest)
    (hnoticed : world.Noticed) : ∃ before, world.last = some (world.scene.input, before) := by
  have hreading : world.scene.reading = none := by
    by_contra hnot
    have hphase := h.inFlight hnot
    rw [hrest.idle] at hphase
    cases hphase
  have hheard : ¬ WillHear world.scene.session world.owed := by
    simp [WillHear, hrest.owed, hrest.queue]
  have hwill : ¬ willRead world.scene = true := by simp [willRead, hrest.idle]
  have hlast := (or_assoc.mpr (h.current hrest.watching hnoticed)).resolve_right hwill
    |>.resolve_right hheard
  rw [lastReading, hreading, Option.none_or] at hlast
  obtain ⟨⟨reading, before⟩, hmem, rfl⟩ := Option.map_eq_some_iff.mp hlast
  exact ⟨before, hmem⟩

/-- **A session at rest is not stale**, unless the input has changed between the first cycle and the
registration and no cycle has begun since: the last cycle has read what is in the input. A session
that is known to be good has a client of the input, with the template of that cycle, and the text of
the client is in the output unless a link at the staging path or at the output was in the way. A
session with an input that gives no client has failed. -/
theorem rest_is_fresh (h : Reachable config template tree world) (hrest : world.AtRest)
    (hnoticed : world.Noticed) :
    ∃ before, world.last = some (world.scene.tree.readText config.inputPath, before) ∧
      (world.scene.session.isLastKnownGood = true → ∃ text client,
        world.scene.tree.readText config.inputPath = .ok text ∧
        (Client.render (template.after world.scene.session.cycles) text config.className).value =
          .ok client ∧
        (before.Unlinked (stagingPath config.outputPath) → before.Direct config.outputPath →
          world.scene.tree.readText config.outputPath = .ok client.sourceText)) ∧
      ((∀ text client, world.scene.tree.readText config.inputPath = .ok text →
          (Client.render (template.after world.scene.session.cycles) text config.className).value ≠
            .ok client) →
        world.scene.session.lastOutcome = some .failed) := by
  have hfresh := h.fresh
  obtain ⟨before, hlast⟩ := hfresh.exists_last hrest hnoticed
  rw [Scene.input, hfresh.sameConfig] at hlast
  have htemplate : world.scene.session.endedTemplate =
      template.after world.scene.session.cycles := by
    rw [Session.endedTemplate, hrest.idle, hfresh.sameTemplate]
    rfl
  have hended := hfresh.ended
  rw [htemplate] at hended
  have houtcome := hended.outcome _ _ hlast
  cases hresult : (conclude config (template.after world.scene.session.cycles)
      (world.scene.tree.readText config.inputPath) before).value.2 with
  | error error =>
    rw [hresult] at houtcome
    refine ⟨before, hlast, fun hgood => ?_, fun _ => houtcome⟩
    rw [Session.isLastKnownGood, houtcome] at hgood
    cases hgood
  | ok client =>
    obtain ⟨text, hread, hrender, -⟩ := Generation.exists_of_conclude hresult
    refine ⟨before, hlast, fun _ => ⟨text, client, hread, hrender, ?_⟩, fun hbad => ?_⟩
    · exact hended.output _ _ _ hlast hresult
    · exact absurd hrender (hbad text client hread)

/-! ## An edit that is noticed, and edits that are missed -/

/-- Others change files before the session is registered. -/
theorem Reachable.edited {first : Tree}
    (h : Reachable config template first ⟨⟨session, tree, reading⟩, owed, last, registered⟩)
    (hwatching : session.watching = false)
    (houtput : ∀ text, tree.readText session.config.outputPath = .ok text →
      found.readText session.config.outputPath = .ok text) :
    Reachable config template first ⟨⟨session, found, reading⟩, owed, last, registered⟩ := by
  have hnotices : Notices ⟨session, tree, reading⟩ ⟨session, found, reading⟩ [] := by
    intro hnot
    rw [show session.watching = true from hnot] at hwatching
    cases hwatching
  have hedited := h.next (.edited houtput hnotices (.change session tree reading found))
  rw [List.append_nil] at hedited
  exact hedited

/-- A change that waits is answered by a cycle that leaves the files as they are. -/
theorem Reachable.answered {first : Tree} {result : Except Error Client}
    (h : Reachable config template first ⟨⟨session, tree, none⟩, owed, last, registered⟩)
    (hphase : session.phase = .idle) (hqueue : session.queue = [notification])
    (hrelevant : session.isRelevant notification = true)
    (hcycle : (Generation.cycle session.config session.beginCycle.cycleTemplate tree).value =
      (tree, result)) :
    Reachable config template first
      ⟨⟨({ session with queue := [] } : Session).recorded result, tree, none⟩, owed,
        some (tree.readText session.config.inputPath, tree), registered⟩ := by
  have htake := Step.take tree hphase hqueue
  rw [Session.value_takeNext_of_relevant hrelevant, hphase] at htake
  have hwake : Step ⟨{ session with queue := [], phase := .settling }, tree, none⟩ .wake [] _ :=
    .wake tree rfl
  have hbegin : Step ⟨{ session with queue := [], phase := .gathering 0 }, tree, none⟩ .begin
      _ _ :=
    .begin tree rfl rfl
  have hbegun := ((h.next (.quiet rfl htake)).next (.quiet rfl hwake)).next (.quiet rfl hbegin)
  exact hbegun.cycle rfl hcycle fun _ => rfl

/-- The description is replaced by one without paths. -/
theorem readText_output_sample (text : String)
    (h : Session.sampleTreeWithOutput.readText Session.sampleConfig.outputPath = .ok text) :
    Session.sampleTreeChanged.readText Session.sampleConfig.outputPath = .ok text :=
  Files.Tree.readText_eq_ok_iff.mpr
    (Session.undisturbed_sample.find _ (Files.Tree.readText_eq_ok_iff.mp h))

theorem readText_input_sample : Session.sampleTreeChanged.readText "api.json" = .ok "{}" :=
  (Generation.leadsToName_input rfl rfl).readText_eq_ok rfl

theorem render_sample (count : Nat) :
    (Client.render (Session.sampleTemplate.after count) "{}" "ApiClient").value =
      .error (.parse none .missingPaths) := by
  rw [Session.after_sampleTemplate]
  decide

/-- A session that hears of the new description rests with a failure. -/
theorem rest_is_fresh_after_edit :
    ∃ world, Reachable Session.sampleConfig Session.sampleTemplate (plainTree []) world ∧
      world.AtRest ∧ world.Noticed ∧ world.scene.session.cycles = 2 ∧
      world.scene.session.lastOutcome = some .failed := by
  have hrelevant : Notification.concerns "api.json" sampleChange = true := by decide
  have hbegun := Reachable.first.cycle rfl (Session.value_cycle_sample 1) nofun
  have hregistered := hbegun.next (.registered (.register _ rfl))
  have hedited := hregistered.next (.edited readText_output_sample
    (fun _ _ => ⟨sampleChange, List.mem_singleton_self _, hrelevant⟩) (.change _ _ _ _))
  have hdelivered := hedited.next (.delivered rfl (.arrive _ _ _ sampleChange))
  have hanswered := hdelivered.answered rfl rfl hrelevant
    (Session.value_cycle_sampleChanged 2)
  have hrest := rest_is_fresh hanswered ⟨rfl, rfl, rfl, rfl⟩ (.inl (Nat.lt_succ_self 1))
  obtain ⟨_, -, -, hfailed⟩ := hrest
  refine ⟨_, hanswered, ⟨rfl, rfl, rfl, rfl⟩, .inl (Nat.lt_succ_self 1), rfl, hfailed ?_⟩
  intro text client hread
  obtain rfl := Except.ok.inj (readText_input_sample.symm.trans hread)
  intro hrender
  cases (render_sample 2).symm.trans hrender

/-- A cycle may write its output over its input. -/
theorem exists_cycle_over_input :
    ∃ found, (Generation.cycle (.ofPaths "api.json" "api.json") Generation.plainTemplate
        (plainTree [])).value = (found, .ok ⟨"ApiClient", "new"⟩) ∧
      found.readText "api.json" = .ok "new" := by
  have hparent : Files.Path.parent? "api.json" = some "" := by decide
  have hprepare : Generation.Output.prepare (plainTree []) "api.json" =
      (plainTree [], .ok ()) := by
    simp [Generation.Output.prepare, hparent]
  have houtput : LeadsToName (plainTree []) "api.json" ["work"] "api.json" false :=
    Generation.leadsToName_input rfl rfl
  have hstaging : LeadsToName (plainTree []) (stagingPath "api.json") ["work"]
      "api.json.fetchgen-tmp" false :=
    Files.Tree.leadsToName_of_route [] (by decide) (by decide) rfl (by decide)
      (.done _ _) rfl
  have hreplace := Generation.Output.replace_eq_ok "new" hprepare houtput (by decide) hstaging
    (by decide)
  have hcycle := Generation.value_cycle_plain "api.json" (Generation.readText_input [])
  rw [hreplace] at hcycle
  exact ⟨_, hcycle, Generation.Output.readText_of_replace (hstaging.vacant rfl).unlinked
    (houtput.unlinked (by rintro _ ⟨⟩)).direct hreplace⟩

/-- If the input changes before the registration, a session may rest that knows nothing of it. So it
does when it has written its output over its input. -/
theorem stale_at_rest :
    (∃ world, Reachable Session.sampleConfig Session.sampleTemplate (plainTree []) world ∧
      world.AtRest ∧ world.scene.session.isLastKnownGood = true ∧
      world.scene.tree.readText "api.json" = .ok "{}" ∧
      (∀ count, (Client.render (Session.sampleTemplate.after count) "{}" "ApiClient").value =
        .error (.parse none .missingPaths))) ∧
    ∃ world, Reachable (.ofPaths "api.json" "api.json") Generation.plainTemplate
        (plainTree []) world ∧
      world.AtRest ∧ world.scene.session.isLastKnownGood = true ∧
      world.scene.tree.readText "api.json" = .ok "new" ∧
      ∀ count, (Client.render (Generation.plainTemplate.after count) "new" "ApiClient").value =
        .error (.parse none .missingPaths) := by
  have hrender (count : Nat) :
      (Client.render (Generation.plainTemplate.after count) "new" "ApiClient").value =
        .error (.parse none .missingPaths) := by
    rw [Generation.after_plainTemplate]
    decide +kernel
  refine ⟨?_, ?_⟩
  · have hbegun := Reachable.first.cycle rfl (Session.value_cycle_sample 1) nofun
    have hedited := hbegun.edited rfl readText_output_sample
    have hregistered := hedited.next (.registered (.register _ rfl))
    exact ⟨_, hregistered, ⟨rfl, rfl, rfl, rfl⟩, rfl, readText_input_sample, render_sample⟩
  · obtain ⟨found, hcycle, hread⟩ := exists_cycle_over_input
    rw [← Generation.after_plainTemplate 1] at hcycle
    have hbegun := Reachable.first.cycle rfl hcycle nofun
    have hregistered := hbegun.next (.registered (.register _ rfl))
    exact ⟨_, hregistered, ⟨rfl, rfl, rfl, rfl⟩, rfl, hread, hrender⟩

end World

end FetchClient.Watch
