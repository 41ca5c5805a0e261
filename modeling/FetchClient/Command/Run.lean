import FetchClient.Command.Request
import FetchClient.Config.File
import FetchClient.Watch.Session

/-!
# Running a command

- `Command.resolve`: the configuration of a `generate` command, from its flags and a file;
- `Command.Success`, `Command.Failure`: what comes of a command, and what is said of that;
- `Command.run`: carries out a request.
-/

namespace FetchClient.Command

open Files (Tree)
open Watch (Session Watcher)

inductive Failure where
  /-- The arguments cannot be understood. -/
  | usage
  /-- No input is known. -/
  | noInput
  /-- No output is known. -/
  | noOutput
  /-- The configuration file cannot be loaded. -/
  | configFile (path : String) (error : Error)
  /-- The configuration is not valid. -/
  | invalid (error : Error)
  /-- The session cannot begin. -/
  | start (error : Error)
  /-- The session ended with an error. -/
  | session (error : Error)
  /-- No client was generated. -/
  | generation (error : Error)
  deriving DecidableEq, Repr

namespace Failure

/-- Two for what is wrong with the arguments, and one for the rest. -/
def exitCode : Failure → Nat
  | usage | noInput | noOutput => 2
  | configFile .. | invalid _ | start _ | session _ | generation _ => 1

/-- What is said of a failure. -/
def message : Failure → String
  | usage => "error: invalid arguments"
  | noInput => "error: the following required arguments were not provided: --input <INPUT>"
  | noOutput => "error: the following required arguments were not provided: --output <OUTPUT>"
  | configFile path _ => "Error: Failed to load config " ++ path
  | invalid error | session error => "Error: " ++ error.message
  | start _ => "Error: Failed to start watch session"
  | generation _ => "Error: Generation failed"

end Failure

inductive Success where
  | version
  | help
  | generated (client : Client) (path : String)
  /-- A session began, and ended on request. -/
  | watched
  deriving DecidableEq, Repr

/-- What is printed after a success. -/
def Success.output : Success → String
  | version => "fetchgen 0.1.0\n"
  | help => "Usage: fetchgen generate --input <INPUT> --output <OUTPUT>\n"
  | generated client path => "Generated " ++ client.className ++ " in " ++ path ++ "\n"
  | watched => ""

/-! ## Configuration -/

/-- The configuration in the file that the flags name, if they name one. -/
def base (flags : Flags) (tree : Tree) : Except Failure (Option Config) :=
  match flags.config with
  | none => .ok none
  | some path => ((Config.load tree path).mapError (.configFile path)).map some

/-- The configuration that flags and a file make together. Flags come first, and either can ask to
watch. -/
def merge (flags : Flags) (file : Option Config) : Except Failure Config := do
  let some input := flags.input <|> file.map Config.inputPath | throw .noInput
  let some output := flags.output <|> file.map Config.outputPath | throw .noOutput
  return {
    inputPath := input
    outputPath := output
    chosenName := flags.className <|> file.bind Config.chosenName
    templatePath := flags.template <|> file.bind Config.templatePath
    watch := flags.watch || file.any Config.watch }

/-- The valid configuration of a `generate` command. -/
def resolve (flags : Flags) (tree : Tree) : Except Failure Config := do
  let config ← merge flags (← base flags tree)
  config.validate.mapError .invalid
  return config

/-! ## Running -/

/-- Generates once. -/
def generate [Engine] (config : Config) (tree : Tree) : Logged (Tree × Except Failure Success) := do
  let (tree, result) ← Generation.once config tree
  return (tree,
    match result with
    | .ok client => .ok (.generated client config.outputPath)
    | .error error => .error (.generation error))

/-- Begins a session, which is stopped before a notification comes. -/
def watch [Engine] (config : Config) (watcher : Watcher) (tree : Tree) :
    Logged (Tree × Except Failure Success) := do
  match ← Session.start config watcher tree with
  | (tree, _, .error error) => return (tree, .error (.start error))
  | (tree, watcher, .ok session) =>
    let (_, _, result) ← session.stop watcher
    return (tree,
      match result with
      | .ok () => .ok .watched
      | .error error => .error (.session error))

/-- Carries out a request. -/
def run [Engine] (watcher : Watcher) (tree : Tree) :
    Request → Logged (Tree × Except Failure Success)
  | .version => pure (tree, .ok .version)
  | .help => pure (tree, .ok .help)
  | .generate flags =>
    match resolve flags tree with
    | .error failure => pure (tree, .error failure)
    | .ok config => if config.watch then watch config watcher tree else generate config tree

/-- Carries out the request in a list of arguments. -/
def runArguments [Engine] (watcher : Watcher) (tree : Tree) (arguments : List String) :
    Logged (Tree × Except Failure Success) :=
  match Request.ofArguments? arguments with
  | some request => run watcher tree request
  | none => pure (tree, .error .usage)

end FetchClient.Command
