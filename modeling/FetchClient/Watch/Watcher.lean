import FetchClient.Error
import FetchClient.Files.Requests

/-!
# File watchers

A watcher is known by what it was asked to do and by the faults that it answers with.

- `Watcher.create`, `Watcher.watch`, `Watcher.unwatch`: the requests to a watcher.
-/

namespace FetchClient.Watch

open Files (Tree)

inductive Call where
  | watch (path : String)
  | unwatch (path : String)
  deriving DecidableEq, Repr

/-- A watcher: its faults, if it has any, and the calls so far, oldest first. -/
structure Watcher where
  createFault : Option String
  watchFault : Option String
  unwatchFault : Option String
  calls : List Call
  deriving DecidableEq, Repr

namespace Watcher

/-- A watcher without faults. -/
def sound : Watcher := ⟨none, none, none, []⟩

def create (watcher : Watcher) : Except WatcherFault Unit :=
  match watcher.createFault with
  | some text => .error (.reported text)
  | none => .ok ()

/-- Registers a directory, which has to be there. -/
def watch (watcher : Watcher) (tree : Tree) (path : String) : Watcher × Except WatcherFault Unit :=
  ({ watcher with calls := watcher.calls ++ [.watch path] },
    match watcher.watchFault with
    | some text => .error (.reported text)
    | none => if (tree.findEntry path).toOption.isSome then .ok () else .error .noPath)

/-- Gives a registration back. -/
def unwatch (watcher : Watcher) (path : String) : Watcher × Except WatcherFault Unit :=
  ({ watcher with calls := watcher.calls ++ [.unwatch path] },
    match watcher.unwatchFault with
    | some text => .error (.reported text)
    | none => .ok ())

end Watcher

end FetchClient.Watch
