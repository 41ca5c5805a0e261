import FetchClient.Error
import FetchClient.Text.Identifier

/-!
# Configurations

- `Config`: what is generated from what;
- `Config.className`: the name of the class, also when none was chosen;
- `Config.validate`: refuses names of classes that are no identifiers.
-/

namespace FetchClient

structure Config where
  inputPath : String
  outputPath : String
  /-- The name of the class, if one was chosen. -/
  chosenName : Option String
  /-- The template file, if it is not the built-in template that is rendered. -/
  templatePath : Option String
  /-- Whether to generate again whenever the input changes. -/
  watch : Bool
  deriving DecidableEq, Repr

namespace Config

def defaultName : String := "ApiClient"

/-- A configuration without any choice. -/
def ofPaths (inputPath outputPath : String) : Config :=
  ⟨inputPath, outputPath, none, none, false⟩

/-- The name of the class. -/
def className (config : Config) : String :=
  config.chosenName.getD defaultName

/-- A chosen name has to be an identifier. -/
def validate (config : Config) : Except Error Unit :=
  match config.chosenName with
  | some name =>
    if Text.isIdentifier name.toList then .ok () else .error (.config (.className name))
  | none => .ok ()

end Config

end FetchClient
