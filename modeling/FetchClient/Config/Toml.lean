import FetchClient.Config.Setting
import FetchClient.Toml.Reader
import FetchClient.Toml.Writer

/-!
# Configurations in TOML

- `Setting.ofItem`: the settings in a document;
- `Config.ofToml?`, `Config.toToml`: reading and writing.
-/

namespace FetchClient

/-- The value of an item. -/
def Setting.ofItem : Toml.Item → Setting
  | .text text => ofText text
  | .flag flag => ofFlag flag
  | .closed | .table .. | .elements _ => other

namespace Config

/-- The configuration in a TOML text. -/
def ofToml? (text : String) : Option Config := do
  let entries ← Toml.read? text
  ofSettings? (entries.map fun (key, item) => (key, Setting.ofItem item))

/-- A line with a text, and no line when there is none. -/
def tomlChoice (key : String) (choice : Option String) : List Char :=
  match choice with
  | some text => key.toList ++ [' ', '=', ' '] ++ Toml.writeText text.toList ++ ['\n']
  | none => []

/-- The configuration as a TOML text. Choices that were not made are left out. -/
def toToml (config : Config) : String :=
  String.ofList <|
    tomlChoice "input_path" (some config.inputPath) ++
    tomlChoice "output_path" (some config.outputPath) ++
    tomlChoice "class_name" config.chosenName ++
    tomlChoice "template_path" config.templatePath ++
    (if config.watch then "watch = true\n" else "watch = false\n").toList

end Config

end FetchClient
