import FetchClient.Files.Path

/-!
# Notifications of a file watcher

- `Change`: what may have happened to a file;
- `Notification`: a change of some paths, or a fault of the watcher;
- `Notification.concerns`: whether a notification asks for a new cycle.
-/

namespace FetchClient.Watch

/-- The part of a file that was modified. -/
inductive Part where
  | unspecified
  | data
  | metadata
  | name
  | other
  deriving DecidableEq, Repr

/-- How a file was opened or closed. -/
inductive Mode where
  | unspecified
  | executing
  | reading
  | writing
  | other
  deriving DecidableEq, Repr

/-- How a file was accessed. -/
inductive Access where
  | unspecified
  | read
  | opened (mode : Mode)
  | closed (mode : Mode)
  | other
  deriving DecidableEq, Repr

inductive Change where
  | unspecified
  | created
  | removed
  | modified (part : Part)
  | accessed (access : Access)
  | other
  deriving DecidableEq, Repr

inductive Notification where
  | change (change : Change) (paths : List String)
  | fault (text : String)
  deriving DecidableEq, Repr

/-- Whether the contents may be others after a change: it created or removed a file, or modified
more than its metadata, or closed it after writing. -/
def Change.affectsContents : Change → Bool
  | created | removed => true
  | modified part => part != .metadata
  | accessed access => access = .closed .writing
  | unspecified | other => false

/-- Whether a notification reports a change of the file at a path. Files are told apart by the last
component of their paths alone. -/
def Notification.concerns (path : String) : Notification → Bool
  | .change what paths =>
    what.affectsContents &&
      paths.any fun changed => Files.Path.fileName? changed == Files.Path.fileName? path
  | .fault _ => false

end FetchClient.Watch
