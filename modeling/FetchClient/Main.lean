import FetchClient.Command.Run

/-!
# The command

Everything is decided on a tree of files. So the files that a command reads are brought into a tree
first, and what the command wrote there is brought out afterwards. Templates are loaded by the part
of an engine that is spelled out here.
-/

namespace FetchClient.Main

open Command Files Watch

/-- The contents of a file, if it can be read. -/
def readIfThere (path : String) : IO (Option String) := do
  try
    return some (← IO.FS.readFile path)
  catch _ => return none

/-- The tree with a file and the directories around it. -/
def withFile (tree : Tree) (path content : String) : Tree :=
  let (tree, _) := tree.makeDirectories ((Path.parent? path).getD "")
  (tree.write path (.text content)).toOption.getD tree

/-- Whether something is at a path. -/
def isThere (path : String) : IO Bool := do
  try
    discard (IO.FS.realPath path)
    return true
  catch _ => return false

/-- A tree with the files at some paths, and with the directories where they could be. -/
def bringIn (paths : List String) : IO Tree := do
  let mut tree := Tree.ofDirectory "work"
  for path in paths do
    let parent := (Path.parent? path).getD ""
    if let some content ← readIfThere path then
      tree := withFile tree path content
    else if ← isThere parent then
      tree := (tree.makeDirectories parent).1
  return tree

/-- Writes the output of a configuration to where it belongs, and says whether that worked. -/
def bringOut (config : Config) (tree : Tree) : IO Bool := do
  let path := config.outputPath
  match tree.readText path with
  | .error _ => return false
  | .ok content =>
    let staging := Generation.Output.stagingPath path
    try
      if let some parent := Path.parent? path then
        unless parent.isEmpty do IO.FS.createDirAll parent
      IO.FS.writeFile staging content
      IO.FS.rename staging path
      return true
    catch _ =>
      try IO.FS.removeFile staging catch _ => pure ()
      return false

def levelName : Log.Level → String
  | .error => "ERROR"
  | .warn => "WARN"
  | .info => "INFO"
  | .debug => "DEBUG"

/-- Shows the lines of a log, but no details. -/
def showLog (lines : List Log.Line) : IO Unit := do
  for line in lines do
    unless line.level = .debug do
      IO.eprintln (levelName line.level ++ " " ++ line.text)

/-- Prints what comes of a command, and gives the exit code. -/
def finish : Except Failure Success → IO UInt32
  | .ok success => do
    IO.print success.output
    return 0
  | .error failure => do
    IO.eprintln failure.message
    return failure.exitCode.toUInt32

/-- Looks at the input again and again, and tells the session when it has changed. -/
partial def follow (session : Session) (tree : Tree) (seen : Option String) : IO UInt32 := do
  IO.sleep 200
  let path := session.config.inputPath
  let content ← readIfThere path
  if content = seen then follow session tree seen
  else
    let tree :=
      match content with
      | some content => withFile tree path content
      | none => (tree.remove path).toOption.getD tree
    let worked := (session.send [.change (.modified .data) [path]]).work tree
    let (session, tree) := worked.value
    showLog worked.lines
    if session.isLastKnownGood then
      discard (bringOut session.config tree)
    follow session tree content

/-- Begins a session for a configuration and follows its input. -/
def watch (config : Config) (tree : Tree) : IO UInt32 := do
  let started := Session.start config .sound tree
  showLog started.lines
  match started.value with
  | (_, _, .error error) => finish (.error (.start error))
  | (tree, _, .ok session) =>
    if session.isLastKnownGood then
      discard (bringOut config tree)
    follow session tree (tree.readText config.inputPath).toOption

/-- Generates the client of a configuration once. -/
def generate (config : Config) (tree : Tree) : IO UInt32 := do
  let result := Command.generate config tree
  showLog result.lines
  match result.value with
  | (tree, .ok success) =>
    if ← bringOut config tree then finish (.ok success)
    else finish (.error (.generation (.outputWrite config.outputPath .notFound)))
  | (_, .error failure) => finish (.error failure)

/-- Carries out a request. -/
def run : Request → IO UInt32
  | .version => finish (.ok .version)
  | .help => finish (.ok .help)
  | .generate flags => do
    match resolve flags (← bringIn flags.config.toList) with
    | .error failure => finish (.error failure)
    | .ok config =>
      let tree ← bringIn (config.inputPath :: config.templatePath.toList)
      if config.watch then watch config tree else generate config tree

end FetchClient.Main

def main (arguments : List String) : IO UInt32 :=
  match FetchClient.Command.Request.ofArguments? arguments with
  | some request => FetchClient.Main.run request
  | none => FetchClient.Main.finish (.error .usage)
