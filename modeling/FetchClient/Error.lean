import FetchClient.Files.Fault

/-!
# Errors

- `Error`: the causes for which a request fails;
- `Error.isGenerationFailure`: whether the cause lies in one generation cycle;
- `Error.message`: what is said of it.
-/

namespace FetchClient

/-- What is wrong with the text of a description. -/
inductive ParseFault where
  /-- Neither JSON nor YAML. -/
  | malformed
  /-- No object of paths. -/
  | missingPaths
  deriving DecidableEq, Repr

/-- What is wrong with a file watcher. -/
inductive WatcherFault where
  /-- The watcher itself says so. -/
  | reported (text : String)
  /-- The directory to be watched is not there. -/
  | noPath
  /-- No watcher is left that could send a notification. -/
  | closed
  deriving DecidableEq, Repr

/-- What is wrong with a configuration. -/
inductive ConfigFault where
  /-- The name of the class is no identifier. -/
  | className (name : String)
  /-- The template file cannot be read. -/
  | template (path : String) (fault : Files.Fault)
  deriving DecidableEq, Repr

inductive Error where
  /-- The description cannot be read. -/
  | inputRead (path : String) (fault : Files.Fault)
  /-- The description is no description; what names its file stands in front when it came from
  one. -/
  | parse (file : Option String) (fault : ParseFault)
  /-- The name of the class is no identifier. -/
  | emit (className : String)
  /-- A template is malformed or cannot be rendered. -/
  | template
  /-- The client cannot be written. -/
  | outputWrite (path : String) (fault : Files.Fault)
  | watcher (fault : WatcherFault)
  | config (fault : ConfigFault)
  /-- A configuration file cannot be read or written. -/
  | io (fault : Files.Fault)
  /-- A JSON text does not hold what it should. -/
  | json
  /-- A configuration in YAML does not hold what it should. -/
  | yaml
  /-- A configuration in TOML does not hold what it should. -/
  | toml
  deriving DecidableEq, Repr

def ParseFault.message : ParseFault → String
  | malformed => "content is neither valid JSON (malformed) nor YAML (malformed)"
  | missingPaths => "Missing 'paths' object"

def WatcherFault.message : WatcherFault → String
  | reported text => text
  | noPath => "No path was found."
  | closed => "watcher event channel closed"

/-- What is said of a class name that is no identifier. -/
def classNameMessage (name : String) : String :=
  "class name '" ++ name ++ "' is not a valid identifier"

def ConfigFault.message : ConfigFault → String
  | className name => classNameMessage name
  | template path fault => "Failed to read client template " ++ path ++ ": " ++ fault.message

namespace Error

/-- Whether the error belongs to a single generation cycle. Such errors are reported and do not
end a watch session. -/
def isGenerationFailure : Error → Bool
  | inputRead .. | parse .. | emit _ | template | outputWrite .. => true
  | watcher _ | config _ | io _ | json | yaml | toml => false

/-- The error with the file that the description came from, in front of whatever is named there
already. -/
def inFile (path : String) : Error → Error
  | parse none fault => parse (some path) fault
  | parse (some file) fault => parse (some (path ++ ": " ++ file)) fault
  | other => other

def message : Error → String
  | inputRead path fault => "failed to read " ++ path ++ ": " ++ fault.message
  | parse none fault => "parse error: " ++ fault.message
  | parse (some file) fault => "parse error: " ++ file ++ ": " ++ fault.message
  | emit name => "emit error: " ++ classNameMessage name
  | template => "template engine error: the template cannot be rendered"
  | outputWrite path fault => "failed to write " ++ path ++ ": " ++ fault.message
  | watcher fault => "watcher error: " ++ fault.message
  | config fault => "configuration error: " ++ fault.message
  | io fault => "I/O error: " ++ fault.message
  | json => "JSON error: malformed text"
  | yaml => "YAML error: malformed configuration"
  | toml => "TOML error: malformed configuration"

end Error

end FetchClient
