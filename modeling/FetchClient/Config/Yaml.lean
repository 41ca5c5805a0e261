import FetchClient.Config.Setting
import FetchClient.Yaml.Writer

/-!
# Configurations in YAML

- `Setting.ofScalar`, `Settings.ofNode?`: the settings in a document;
- `Config.ofYaml?`, `Config.toYaml`: reading and writing.
-/

namespace FetchClient

open Yaml (Node Style Reader.Anchors)

namespace Setting

/-- A scalar where a text may stand. Only a plain scalar can be null. -/
def choiceOfScalar? (tag : Option String) (style : Style) (text : String) :
    Option (Option String) :=
  let isNull := Yaml.Plain.isNull text.toList
  if style ≠ .plain then some (some text)
  else
    match tag with
    | none => some (if text.isEmpty || isNull then none else some text)
    | some tag =>
      if tag = Yaml.Scalar.coreTag "null" then (if isNull then some none else none)
      else some (some text)

/-- A scalar where a truth value has to stand. It is plain, or tagged and literal. -/
def flagOfScalar? (tag : Option String) (style : Style) (text : String) : Option Bool :=
  if style = .plain || (style = .literal && tag = some (Yaml.Scalar.coreTag "bool")) then
    Yaml.Plain.bool? text.toList
  else none

/-- The value of a scalar. Where a text has to stand, every scalar is one. -/
def ofScalar (tag : Option String) (style : Style) (text : String) : Setting :=
  ⟨some text, choiceOfScalar? tag style text, flagOfScalar? tag style text⟩

/-- The value of a node. -/
def ofNode (anchors : Reader.Anchors) (node : Node Nat) : Setting :=
  match anchors.follow? 0 node with
  | some (.scalar p style text, _) => ofScalar p.tag style text
  | _ => other

end Setting

/-- The settings in a document, which has to be a mapping with scalars for keys. -/
def Settings.ofNode? (root : Node String) : Option Settings := do
  let (root, _) ← root.numbered? []
  let anchors := Reader.Anchors.ofRoot root
  match root with
  | .mapping _ entries =>
    entries.mapM fun (key, node) => do
      let (key, _) ← Yaml.Reader.key? anchors 0 key
      return (key, Setting.ofNode anchors node)
  | _ => none

namespace Config

/-- The configuration in a YAML text. -/
def ofYaml? (text : String) : Option Config := do
  let root ← Node.ofTokens? (← Yaml.tokens? text.toList)
  ofSettings? (← Settings.ofNode? (← root))

/-- A text that may be missing, as the value of an entry. -/
def yamlChoice (choice : Option String) : List Char :=
  match choice with
  | some text => Yaml.writeText text.toList
  | none => "null\n".toList

def flagWord (flag : Bool) : String :=
  if flag then "true" else "false"

/-- The configuration as a YAML text. All keys are written. -/
def toYaml (config : Config) : String :=
  String.ofList <|
    "input_path: ".toList ++ Yaml.writeText config.inputPath.toList ++
    "output_path: ".toList ++ Yaml.writeText config.outputPath.toList ++
    "class_name: ".toList ++ yamlChoice config.chosenName ++
    "template_path: ".toList ++ yamlChoice config.templatePath ++
    "watch: ".toList ++ (flagWord config.watch).toList ++ ['\n']

end Config

end FetchClient
