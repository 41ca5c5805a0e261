import FetchClient.Config.Basic
import FetchClient.Generation.Input
import FetchClient.Generation.Output

/-!
# Generating a client

- `Generation.cycle`: reads the description, renders the client and replaces the output;
- `Generation.once`: one cycle for a configuration, with its template.
-/

namespace FetchClient.Generation

open Files (Tree)

/-- Runs one cycle. It succeeds only when the output has been replaced. -/
def cycle (config : Config) (template : Template) (tree : Tree) :
    Logged (Tree × Except Error Client) :=
  match readDescription tree config.inputPath with
  | .error error => pure (tree, .error error)
  | .ok description => do
    match ← Client.emit template (← description) config.className with
    | .error error => return (tree, .error error)
    | .ok client =>
      match Output.replace tree config.outputPath client.sourceText with
      | (tree, .ok ()) => return (tree, .ok client)
      | (tree, .error fault) => return (tree, .error (.outputWrite config.outputPath fault))

/-- The template of a configuration that is valid. -/
def setUp [Engine] (config : Config) (tree : Tree) : Except Error Template := do
  config.validate
  readTemplate tree config.templatePath

def startMessage (config : Config) : String :=
  "Generating " ++ config.outputPath ++ " from " ++ config.inputPath

def endMessage (config : Config) (client : Client) : String :=
  "Wrote " ++ client.className ++ " to " ++ config.outputPath

/-- Generates the client of a configuration once, in the first cycle for its template. -/
def once [Engine] (config : Config) (tree : Tree) : Logged (Tree × Except Error Client) :=
  match setUp config tree with
  | .error error => pure (tree, .error error)
  | .ok template => do
    Logged.write .info (startMessage config)
    match ← cycle config (template.after 1) tree with
    | (tree, .ok client) => do
      Logged.write .info (endMessage config client)
      return (tree, .ok client)
    | (tree, .error error) => return (tree, .error error)

end FetchClient.Generation
