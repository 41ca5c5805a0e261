import FetchClient.Generation.Cycle
import FetchClient.Watch.Notification
import FetchClient.Watch.Watcher

/-!
# Watch sessions

A session generates the client once, and then again whenever the watcher reports that the input has
changed. Notifications wait in a queue. One that concerns the input is followed by a delay, after
which everything that waits is taken and answered by a single cycle.

- `Session`: the state of a session;
- `Session.start`: the first cycle, and the registration with the watcher;
- `Session.receive`, `Session.wake`, `Session.gather`, `Session.runCycle`: the steps of a session;
- `Session.choose`, `Session.handleNext`: what a session does next, and how it handles a
  notification;
- `Session.work`: handles all notifications that wait;
- `Session.stop`, `Session.run`: the two ways to an end.
-/

namespace FetchClient.Watch

open Files (Tree)

/-- How a cycle ended. -/
inductive Outcome where
  | settled
  | failed
  deriving DecidableEq, Repr

inductive Phase where
  /-- Waiting for a change. -/
  | idle
  /-- Waiting for more changes after a first one. -/
  | settling
  /-- Taking the notifications that came in the meantime, so many of which were changes. -/
  | gathering (changes : Nat)
  /-- Running a cycle. -/
  | generating
  deriving DecidableEq, Repr

structure Session where
  config : Config
  template : Template
  /-- The notifications that wait, oldest first. -/
  queue : List Notification
  /-- Whether the watcher is held. Without it no more notifications come. -/
  watching : Bool
  phase : Phase
  lastOutcome : Option Outcome
  /-- The number of cycles so far. -/
  cycles : Nat

namespace Session

/-- A session before its first cycle. -/
def ofTemplate (config : Config) (template : Template) : Session :=
  ⟨config, template, [], false, .idle, none, 0⟩

/-- The directory to be watched. It is that of the input, so that a file that replaces the input is
noticed. -/
def root (session : Session) : String :=
  match Files.Path.parent? session.config.inputPath with
  | some parent => if parent.isEmpty then "." else parent
  | none => "."

/-- Whether the output is what the last cycle made of the input. -/
def isLastKnownGood (session : Session) : Bool :=
  session.lastOutcome == some .settled

/-! ## Cycles -/

def beginCycle (session : Session) : Session :=
  { session with phase := .generating, cycles := session.cycles + 1 }

def generatedMessage (session : Session) (client : Client) : String :=
  "Generated " ++ client.className ++ " in " ++ session.config.outputPath

def failedMessage (error : Error) : String :=
  "Generation failed: " ++ error.message

/-- Records and reports how a cycle ended. -/
def endCycle (session : Session) : Except Error Client → Logged Session
  | .ok client => do
    if session.lastOutcome = some .failed then
      Logged.write .info "Recovered from previous failure"
    Logged.write .info (session.generatedMessage client)
    return { session with phase := .idle, lastOutcome := some .settled }
  | .error error => do
    Logged.write .error (failedMessage error)
    if session.isLastKnownGood then
      Logged.write .warn ("Keeping previous output at " ++ session.config.outputPath)
    return { session with phase := .idle, lastOutcome := some .failed }

/-- The template in the cycle that was begun last. -/
def cycleTemplate (session : Session) : Template :=
  session.template.after session.cycles

/-- Runs a cycle. -/
def runCycle (session : Session) (tree : Tree) : Logged (Session × Tree) := do
  let session := session.beginCycle
  let (tree, result) ← Generation.cycle session.config session.cycleTemplate tree
  return (← session.endCycle result, tree)

/-! ## Notifications -/

/-- Whether a notification reports a change of the input. -/
def isRelevant (session : Session) (notification : Notification) : Bool :=
  notification.concerns session.config.inputPath

/-- Puts notifications into the queue, if they can come. -/
def send (session : Session) (notifications : List Notification) : Session :=
  if session.watching then { session with queue := session.queue ++ notifications } else session

/-- The phase after a change of the input was noticed. -/
def Phase.noticed : Phase → Phase
  | .idle => .settling
  | .gathering changes => .gathering (changes + 1)
  | phase => phase

/-- Takes note of a notification. Faults are reported, and what does not concern the input has no
effect. The debug line `Change detected`, with the kind of a change that ends the waiting, is left
out. -/
def receive (session : Session) (notification : Notification) : Logged Session :=
  match notification with
  | .fault text => do
    Logged.write .warn ("Watcher reported a fault: " ++ text)
    return session
  | .change .. =>
    return if session.isRelevant notification then
      { session with phase := Phase.noticed session.phase }
    else session

/-- Ends the delay after a first change. -/
def wake (session : Session) : Session :=
  if session.phase = .settling then { session with phase := .gathering 0 } else session

def coalescedMessage (changes : Nat) : String :=
  "Coalesced " ++ toString changes ++ " further change notification(s)"

/-- Reports how many changes were gathered, and runs a cycle for all of them. -/
def answerGathered (session : Session) (tree : Tree) : Logged (Session × Tree) := do
  if let .gathering changes := session.phase then
    if 0 < changes then Logged.write .debug (coalescedMessage changes)
  session.runCycle tree

/-- Takes everything that waits. -/
def gather (session : Session) : Logged Session :=
  session.queue.foldlM receive { session with queue := [] }

/-- Handles the notification that has waited longest. A change of the input is followed by the
delay, everything that waits then is taken, and a cycle is run. -/
def handleNext (session : Session) (tree : Tree) : Logged (Session × Tree) :=
  match session.queue with
  | [] => pure (session, tree)
  | notification :: waiting => do
    let session ← { session with queue := waiting }.receive notification
    if session.phase = .settling then
      let session ← session.wake.gather
      session.answerGathered tree
    else return (session, tree)

/-- Handles so many notifications, or all that wait if there are fewer. -/
def handleMany : Nat → Session → Tree → Logged (Session × Tree)
  | 0, session, tree => pure (session, tree)
  | count + 1, session, tree => do
    let (session, tree) ← session.handleNext tree
    handleMany count session tree

/-- Handles all notifications that wait. -/
def work (session : Session) (tree : Tree) : Logged (Session × Tree) :=
  handleMany session.queue.length session tree

/-- What a session does next. -/
inductive Choice where
  /-- It ends, as requested. -/
  | stop
  /-- It handles the notification that has waited longest. -/
  | handle
  /-- It ends, because nothing can come any more. -/
  | close
  /-- It waits. -/
  | wait
  deriving DecidableEq, Repr

/-- What a session between two notifications does next. A request to stop comes first, and the end
of the queue comes before that of the watcher. -/
def choose (session : Session) (stopRequested : Bool) : Choice :=
  if stopRequested then .stop
  else if !session.queue.isEmpty then .handle
  else if session.watching then .wait
  else .close

/-! ## Beginning and end -/

/-- Begins a session. A first cycle that fails does not keep it from beginning, but an invalid
configuration, a template that cannot be read, or a watcher that refuses to watch does. -/
def start [Engine] (config : Config) (watcher : Watcher) (tree : Tree) :
    Logged (Tree × Watcher × Except Error Session) :=
  match Generation.setUp config tree with
  | .error error => pure (tree, watcher, .error error)
  | .ok template => do
    let (session, tree) ← (ofTemplate config template).runCycle tree
    match watcher.create with
    | .error fault => return (tree, watcher, .error (.watcher fault))
    | .ok () =>
      match watcher.watch tree session.root with
      | (watcher, .error fault) => return (tree, watcher, .error (.watcher fault))
      | (watcher, .ok ()) =>
        Logged.write .info ("Watching " ++ config.inputPath ++ " for changes")
        return (tree, watcher, .ok { session with watching := true })

/-- Gives the watcher up, if it is held. -/
def release (session : Session) (watcher : Watcher) : Logged (Session × Watcher) :=
  if session.watching then do
    let (watcher, result) := watcher.unwatch session.root
    if let .error fault := result then
      Logged.write .debug ("Failed to unwatch " ++ session.root ++ ": " ++ fault.message)
    Logged.write .info ("Stopped watching " ++ session.config.inputPath)
    return ({ session with watching := false }, watcher)
  else return (session, watcher)

/-- Ends a session on request. What waits is not handled. -/
def stop (session : Session) (watcher : Watcher) :
    Logged (Session × Watcher × Except Error Unit) := do
  Logged.write .info "Stop requested, ending watch session"
  let (session, watcher) ← session.release watcher
  return (session, watcher, .ok ())

/-- Ends a session because nothing can come any more. -/
def close (session : Session) (watcher : Watcher) :
    Logged (Session × Watcher × Except Error Unit) := do
  let (session, watcher) ← session.release watcher
  return (session, watcher, .error (.watcher .closed))

/-- Handles all notifications that wait, and then ends the session: with an error if nothing can
come any more, and otherwise on a request that comes when nothing is left to do. -/
def run (session : Session) (watcher : Watcher) (tree : Tree) :
    Logged (Session × Tree × Watcher × Except Error Unit) := do
  let (session, tree) ← session.work tree
  let (session, watcher, result) ←
    if session.choose false = .close then session.close watcher else session.stop watcher
  return (session, tree, watcher, result)

end Session

end FetchClient.Watch
