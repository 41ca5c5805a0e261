import FetchClient.Config.Toml
import FetchClient.Config.Yaml
import FetchClient.Files.Path
import FetchClient.Files.Requests

/-!
# Configuration files

- `Config.Format`: YAML or TOML, as the path of the file says;
- `Config.load`, `Config.save`: reading a file and writing one.
-/

namespace FetchClient.Config

open Files (Tree)

inductive Format where
  | yaml
  | toml
  deriving DecidableEq, Repr

/-- The format of a file, which is YAML unless the extension says otherwise. -/
def Format.ofPath (path : String) : Format :=
  if Files.Path.extension? path = some "toml" then .toml else .yaml

/-- The configuration in a text. -/
def read (format : Format) (text : String) : Except Error Config :=
  match format with
  | .yaml => (ofYaml? text).elim (.error .yaml) .ok
  | .toml => (ofToml? text).elim (.error .toml) .ok

/-- The configuration as a text. -/
def write (format : Format) (config : Config) : String :=
  match format with
  | .yaml => config.toYaml
  | .toml => config.toToml

/-- The configuration in a file. -/
def load (tree : Tree) (path : String) : Except Error Config := do
  let text ← (tree.readText path).mapError .io
  read (.ofPath path) text

/-- Writes a configuration into a file. -/
def save (config : Config) (tree : Tree) (path : String) : Except Error Tree :=
  (tree.write path (.text (config.write (.ofPath path)))).mapError .io

end FetchClient.Config
