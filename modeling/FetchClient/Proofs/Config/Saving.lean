import FetchClient.Config.File
import FetchClient.Proofs.Files.Requests
import FetchClient.Proofs.Toml.Lines
import FetchClient.Proofs.Yaml.Entries
import Mathlib.Data.List.Nodup

/-!
# Configurations are saved and loaded

- `ofSettings?_eq_some`: what settings have to say for a configuration;
- `ofToml?_toToml`, `ofYaml?_toYaml`: every configuration is read back from its text;
- `load_save`: what was saved is loaded.
-/

namespace FetchClient.Config

/-! ## Settings -/

theorem repeats_eq_false {settings : Settings} (h : (settings.map Prod.fst).Nodup) (key : String) :
    settings.repeats key = false := by
  have hcount : (settings.map Prod.fst).count key ≤ 1 := List.nodup_iff_count_le_one.mp h key
  rw [List.count_eq_length_filter, List.filter_map, List.length_map] at hcount
  exact decide_eq_false (Nat.not_lt.mpr hcount)

/-- Settings stand for a configuration if they say of each key what it says. -/
theorem ofSettings?_eq_some {settings : Settings} {config : Config}
    (hkeys : (settings.map Prod.fst).Nodup)
    (hinput : settings.text? "input_path" = some config.inputPath)
    (houtput : settings.text? "output_path" = some config.outputPath)
    (hname : settings.choice? "class_name" = some config.chosenName)
    (htemplate : settings.choice? "template_path" = some config.templatePath)
    (hwatch : settings.flag? "watch" = some config.watch) :
    ofSettings? settings = some config := by
  have hrepeats : keys.any settings.repeats = false := by
    simp [repeats_eq_false hkeys]
  simp [ofSettings?, hrepeats, hinput, houtput, hname, htemplate, hwatch]

/-! ## TOML -/

/-- The line with a text, if there is one. -/
def tomlLines (key : String) (choice : Option String) : List Toml.Line :=
  choice.toList.map fun text => ⟨key, Toml.writeText text.toList, .text text⟩

theorem tomlChoice_eq (key : String) (choice : Option String) :
    tomlChoice key choice = (tomlLines key choice).flatMap Toml.Line.text := by
  cases choice <;> simp [tomlChoice, tomlLines, Toml.Line.text]

def toTomlLines (config : Config) : List Toml.Line :=
  tomlLines "input_path" config.inputPath ++ tomlLines "output_path" config.outputPath ++
    tomlLines "class_name" config.chosenName ++ tomlLines "template_path" config.templatePath ++
    [⟨"watch", (if config.watch then "true" else "false").toList, .flag config.watch⟩]

theorem toToml_eq (config : Config) :
    config.toToml = String.ofList (config.toTomlLines.flatMap Toml.Line.text) := by
  have hwatch : (if config.watch then "watch = true\n" else "watch = false\n").toList =
      Toml.Line.text ⟨"watch", (if config.watch then "true" else "false").toList, .flag config.watch⟩ := by
    cases config.watch <;> rfl
  simp only [toToml, toTomlLines, tomlChoice_eq, hwatch, List.flatMap_append, List.flatMap_singleton]

theorem isSound_of_mem_tomlLines {key : String} (hkey : Toml.IsBareKey key.toList)
    {choice : Option String} {line : Toml.Line} (h : line ∈ tomlLines key choice) : line.IsSound := by
  obtain ⟨text, -, rfl⟩ := List.mem_map.mp h
  have hitem := Toml.writes_text text.toList
  rw [String.ofList_toList] at hitem
  exact ⟨hkey, hitem⟩

theorem isBareKey {key : String} (h : key ∈ keys) : Toml.IsBareKey key.toList := by
  have hall : ∀ key ∈ keys, (!key.toList.isEmpty && key.toList.all Toml.isBare) = true :=
    List.all_eq_true.mp (by decide)
  obtain ⟨hne, hbare⟩ := Bool.and_eq_true_iff.mp (hall key h)
  exact ⟨by simpa using hne, List.all_eq_true.mp hbare⟩

theorem isSound_of_mem_toTomlLines {config : Config} {line : Toml.Line} (h : line ∈ config.toTomlLines) :
    line.IsSound := by
  simp only [toTomlLines, List.mem_append, List.mem_singleton] at h
  obtain (((h | h) | h) | h) | rfl := h
  iterate 4 exact isSound_of_mem_tomlLines (isBareKey (by decide)) h
  exact ⟨isBareKey (show "watch" ∈ keys by decide), Toml.writes_flag config.watch⟩

theorem ofToml?_toToml (config : Config) : ofToml? config.toToml = some config := by
  have hkeys : (config.toTomlLines.map Toml.Line.key).Nodup := by
    rcases config with ⟨input, output, _ | name, _ | template, watch⟩ <;>
      simp [toTomlLines, tomlLines]
  rw [ofToml?, toToml_eq, Toml.read?_lines (fun _ => isSound_of_mem_toTomlLines) hkeys]
  refine ofSettings?_eq_some ?_ ?_ ?_ ?_ ?_ ?_
  · rw [List.map_map, List.map_map]
    exact hkeys
  all_goals rcases config with ⟨input, output, _ | name, _ | template, watch⟩ <;> rfl

/-! ## YAML -/

/-- The line with a text, or with null where there is none. -/
def yamlLine (key : String) (choice : Option String) : Yaml.Line where
  key := key
  written := yamlChoice choice
  style := choice.elim .plain fun text => Yaml.Style.choose text.toList
  value := choice.getD "null"

def toYamlLines (config : Config) : List Yaml.Line :=
  [yamlLine "input_path" config.inputPath, yamlLine "output_path" config.outputPath,
    yamlLine "class_name" config.chosenName, yamlLine "template_path" config.templatePath,
    ⟨"watch", (flagWord config.watch).toList ++ ['\n'], .plain, flagWord config.watch⟩]

theorem text_yamlLine {key label : String} (hlabel : label.toList = key.toList ++ [':', ' '])
    (choice : Option String) : (yamlLine key choice).text = label.toList ++ yamlChoice choice := by
  rw [hlabel]
  rfl

theorem toYaml_eq (config : Config) :
    config.toYaml = String.ofList (config.toYamlLines.flatMap Yaml.Line.text) := by
  have hinput := text_yamlLine (show "input_path: ".toList = "input_path".toList ++ _ from rfl)
    config.inputPath
  have houtput := text_yamlLine (show "output_path: ".toList = "output_path".toList ++ _ from rfl)
    config.outputPath
  have hname := text_yamlLine (show "class_name: ".toList = "class_name".toList ++ _ from rfl)
    config.chosenName
  have htemplate := text_yamlLine
    (show "template_path: ".toList = "template_path".toList ++ _ from rfl) config.templatePath
  have hwatch : Yaml.Line.text ⟨"watch", (flagWord config.watch).toList ++ ['\n'], .plain,
      flagWord config.watch⟩ = "watch: ".toList ++ (flagWord config.watch).toList ++ ['\n'] := by
    simp only [Yaml.Line.text, ← List.append_assoc]
    rfl
  unfold toYaml
  simp only [toYamlLines, List.flatMap_cons, List.flatMap_nil, hinput, houtput, hname, htemplate,
    hwatch, yamlChoice, List.append_assoc, List.append_nil]

theorem isKey {key : String} (h : key ∈ keys) : Yaml.Scanner.IsKey key.toList := by
  have hall : ∀ key ∈ keys, (!key.toList.isEmpty && key.toList.all Yaml.Scanner.isKeyChar &&
      decide (key.toList.length ≤ 1024)) = true :=
    List.all_eq_true.mp (by decide)
  obtain ⟨hchars, hshort⟩ := Bool.and_eq_true_iff.mp (hall key h)
  obtain ⟨hne, hchars⟩ := Bool.and_eq_true_iff.mp hchars
  exact ⟨by simpa using hne, List.all_eq_true.mp hchars, of_decide_eq_true hshort⟩

theorem isSound_yamlLine {key : String} (hkey : key ∈ keys) (choice : Option String) :
    (yamlLine key choice).IsSound := by
  cases choice with
  | none =>
    have hnull : Yaml.Style.plain.admits "null".toList = true := by decide
    exact ⟨isKey hkey, Yaml.Scanner.writes_plain hnull⟩
  | some text =>
    have hvalue := Yaml.Scanner.writes_writeText text.toList
    rw [String.ofList_toList] at hvalue
    exact ⟨isKey hkey, hvalue⟩

theorem isSound_of_mem_toYamlLines {config : Config} {line : Yaml.Line}
    (h : line ∈ config.toYamlLines) : line.IsSound := by
  simp only [toYamlLines, List.mem_cons, List.not_mem_nil, or_false] at h
  obtain rfl | rfl | rfl | rfl | rfl := h
  iterate 4 exact isSound_yamlLine (by decide) _
  have hword : Yaml.Style.plain.admits (flagWord config.watch).toList = true := by
    cases config.watch <;> decide
  have hvalue := Yaml.Scanner.writes_plain hword
  rw [String.ofList_toList] at hvalue
  exact ⟨isKey (show "watch" ∈ keys by decide), hvalue⟩

/-- A text that is written plain is not taken for null. -/
theorem choiceOfScalar?_choose (text : String) :
    Setting.choiceOfScalar? none (Yaml.Style.choose text.toList) text = some (some text) := by
  by_cases hstyle : Yaml.Style.choose text.toList = .plain
  · obtain ⟨hempty, hnull⟩ := Yaml.isNull_of_choose hstyle
    have hempty' : text.isEmpty = false := by simpa using hempty
    simp [Setting.choiceOfScalar?, hstyle, hempty', hnull]
  · simp [Setting.choiceOfScalar?, hstyle]

/-- The settings of a document are those of its lines. -/
theorem ofNode?_lines (lines : List Yaml.Line) :
    Settings.ofNode? (.mapping Yaml.Node.noProperties (lines.map Yaml.Line.entry)) =
      some (lines.map fun line => (line.key, Setting.ofScalar none line.style line.value)) := by
  rw [Settings.ofNode?, Yaml.Node.numbered?_lines]
  simp only [Option.bind_eq_bind, Option.bind_some, List.mapM_map]
  exact List.mapM_pure

/-- What a line says of a text that may be missing. -/
theorem choice?_yamlLine (key : String) (choice : Option String) :
    (Setting.ofScalar none (yamlLine key choice).style (yamlLine key choice).value).choice? =
      some choice := by
  cases choice with
  | none =>
    show Setting.choiceOfScalar? none .plain "null" = some none
    decide
  | some text => exact choiceOfScalar?_choose text

theorem ofYaml?_toYaml (config : Config) : ofYaml? config.toYaml = some config := by
  have hne : config.toYamlLines ≠ [] := List.cons_ne_nil _ _
  have hkeys : (config.toYamlLines.map Yaml.Line.key).Nodup :=
    show keys.Nodup by decide
  rw [ofYaml?, toYaml_eq, String.toList_ofList,
    Yaml.tokens?_lines (fun _ => isSound_of_mem_toYamlLines) hne]
  simp only [Option.bind_eq_bind, Option.bind_some, Yaml.Node.ofTokens?_lines, ofNode?_lines]
  refine ofSettings?_eq_some ?_ rfl rfl (choice?_yamlLine "class_name" config.chosenName)
    (choice?_yamlLine "template_path" config.templatePath) ?_
  · rw [List.map_map]
    exact hkeys
  · show Setting.flagOfScalar? none .plain (flagWord config.watch) = some config.watch
    cases config.watch <;> decide

/-! ## Files -/

open Files (Tree)
open Files.Tree (LeadsToName leadsToName_of_route)

theorem read_write (format : Format) (config : Config) :
    read format (config.write format) = .ok config := by
  cases format with
  | yaml => rw [read, write, ofYaml?_toYaml, Option.elim_some]
  | toml => rw [read, write, ofToml?_toToml, Option.elim_some]

/-- A configuration that was saved is the one that is loaded from its file, whatever its texts are
and whichever format the path asks for. -/
theorem load_save {config : Config} {tree saved : Tree} {path : String}
    (h : config.save tree path = .ok saved) : load saved path = .ok config := by
  have hwritten : tree.write path (.text (config.write (.ofPath path))) = .ok saved := by
    cases hwrite : tree.write path (.text (config.write (.ofPath path))) with
    | error fault => simp [save, hwrite, Except.mapError] at h
    | ok other => simpa [save, hwrite, Except.mapError] using h
  rw [load, Tree.readText_of_write hwritten]
  exact read_write (.ofPath path) config

/-- Words that mean something else without quotes, quotes and line breaks. -/
def awkward : Config :=
  ⟨"", "true", some "null", some "\n it's \"1\"\t\\ \n\n", true⟩

theorem load_save_awkward :
    ∃ yaml toml, awkward.save (.ofDirectory "home") "fetchgen.yaml" = .ok yaml ∧
      load yaml "fetchgen.yaml" = .ok awkward ∧
      awkward.save (.ofDirectory "home") "fetchgen.toml" = .ok toml ∧
      load toml "fetchgen.toml" = .ok awkward := by
  have hsave (path : String)
      (hleads : LeadsToName (.ofDirectory "home") path ["home"] path false)
      (hfree : (Tree.ofDirectory "home").entryAt? ["home", path] = none) :
      ∃ saved, awkward.save (.ofDirectory "home") path = .ok saved := by
    refine ⟨_, congrArg (Except.mapError Error.io) (hleads.write ?_ fun target => ?_)⟩
    all_goals
      rw [List.singleton_append, hfree]
      exact nofun
  obtain ⟨yaml, hyaml⟩ := hsave "fetchgen.yaml"
    (leadsToName_of_route [] (by decide) (by decide) rfl (by decide) (.done _ _) rfl)
    (by decide)
  obtain ⟨toml, htoml⟩ := hsave "fetchgen.toml"
    (leadsToName_of_route [] (by decide) (by decide) rfl (by decide) (.done _ _) rfl)
    (by decide)
  exact ⟨yaml, toml, hyaml, load_save hyaml, htoml, load_save htoml⟩

end FetchClient.Config
