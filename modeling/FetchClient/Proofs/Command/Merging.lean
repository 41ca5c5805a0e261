import FetchClient.Command.Run
import FetchClient.Proofs.Generation.Failure

/-!
# Flags and configuration files

A setting is taken from the flags, or else from the file that they name, or else is not made. But a
file is read as a whole configuration, and so has to give both paths, even where the flags give them.

- `Command.Given`: what a source gives of each setting;
- `Command.Given.orElse`: what two sources give together;
- `Command.Given.ofSettings?`, `Command.Given.read?`: what a file gives, which may be any of the
  settings;
- `Config.read_eq`: a file is a configuration when it gives both paths;
- `Command.flags_before_file`: what a command does with flags and a file, if that is one;
- `Command.partial_file_refused`: it does nothing with a file that gives less.
-/

namespace FetchClient

open Config (Format)

namespace Command

/-- What a source gives of each setting. -/
structure Given where
  input : Option String
  output : Option String
  className : Option String
  template : Option String
  watch : Bool
  deriving DecidableEq, Repr

namespace Given

def nothing : Given := ⟨none, none, none, none, false⟩

def ofFlags (flags : Flags) : Given :=
  ⟨flags.input, flags.output, flags.className, flags.template, flags.watch⟩

def ofConfig (config : Config) : Given :=
  ⟨some config.inputPath, some config.outputPath, config.chosenName, config.templatePath,
    config.watch⟩

/-- What two sources give together. The first one goes before the second, and either can ask to
watch. -/
def orElse (first second : Given) : Given :=
  ⟨first.input <|> second.input, first.output <|> second.output,
    first.className <|> second.className, first.template <|> second.template,
    first.watch || second.watch⟩

/-- The configuration that is given, if both paths are. -/
def config? (given : Given) : Option Config :=
  match given.input, given.output with
  | some input, some output =>
    some ⟨input, output, given.className, given.template, given.watch⟩
  | _, _ => none

/-- What is wrong when a path is not given. The input is asked for first. -/
def missing (given : Given) : Failure :=
  if given.input.isSome then .noOutput else .noInput

/-- The text under a key that may be missing. Nothing when something else stands there. -/
def path? (settings : Settings) (key : String) : Option (Option String) :=
  match settings.lookup key with
  | some setting => setting.text?.map some
  | none => some none

/-- What settings give, any of which may be missing. Nothing when one is of the wrong kind, or is
made more than once. -/
def ofSettings? (settings : Settings) : Option Given := do
  guard (!Config.keys.any settings.repeats)
  return {
    input := ← path? settings "input_path"
    output := ← path? settings "output_path"
    className := ← settings.choice? "class_name"
    template := ← settings.choice? "template_path"
    watch := ← settings.flag? "watch" }

/-- The settings in a text, whichever these are. A text with nothing in it makes none. -/
def settings? (format : Format) (text : String) : Option Settings :=
  match format with
  | .yaml => do
    match ← Yaml.Node.ofTokens? (← Yaml.tokens? text.toList) with
    | none => return []
    | some root => Settings.ofNode? root
  | .toml => (Toml.read? text).map (·.map fun (key, item) => (key, Setting.ofItem item))

/-- What the text of a file gives. -/
def read? (format : Format) (text : String) : Option Given :=
  (settings? format text).bind ofSettings?

/-! ## Files -/

theorem text?_eq_bind (settings : Settings) (key : String) :
    settings.text? key = (path? settings key).bind id := by
  unfold Settings.text? path?
  cases settings.lookup key with
  | none => rfl
  | some setting => cases hsetting : setting.text? <;> simp [hsetting]

/-- Settings are a configuration when they give both paths. -/
theorem config_ofSettings? (settings : Settings) :
    Config.ofSettings? settings = (ofSettings? settings).bind config? := by
  unfold Config.ofSettings? ofSettings?
  rw [text?_eq_bind, text?_eq_bind]
  -- Whatever is of the wrong kind is refused on both sides, which leaves the two paths.
  cases Config.keys.any settings.repeats with
  | true => rfl
  | false =>
    generalize path? settings "input_path" = input
    generalize path? settings "output_path" = output
    cases settings.choice? "class_name" <;> cases settings.choice? "template_path" <;>
      cases settings.flag? "watch" <;> rcases input with _ | _ | input <;>
      rcases output with _ | _ | output <;> rfl

/-- What is wrong with a file that is no configuration. -/
def fileError (format : Format) : Error :=
  match format with
  | .yaml => .yaml
  | .toml => .toml

/-- A text is a configuration when it gives both paths. -/
theorem config_read (format : Format) (text : String) :
    Config.read format text =
      (((read? format text).bind config?).elim (.error (fileError format)) .ok) := by
  unfold read?
  cases format with
  | yaml =>
    have hyaml : Config.ofYaml? text =
        ((settings? .yaml text).bind ofSettings?).bind config? := by
      unfold Config.ofYaml? settings?
      cases Yaml.tokens? text.toList with
      | none => rfl
      | some tokens =>
        simp only [Option.bind_eq_bind, Option.bind_some]
        rcases Yaml.Node.ofTokens? tokens with _ | _ | root
        · rfl
        · rfl
        · simp only [Option.bind_some, Option.bind_assoc, config_ofSettings?]
    rw [Config.read, hyaml, fileError]
  | toml =>
    have htoml : Config.ofToml? text =
        ((settings? .toml text).bind ofSettings?).bind config? := by
      unfold Config.ofToml? settings?
      cases Toml.read? text with
      | none => rfl
      | some entries => exact config_ofSettings? _
    rw [Config.read, htoml, fileError]

end Given

variable {watcher : Watch.Watcher} {tree : Files.Tree} {flags : Flags} {given : Given}

/-- Whether a file gives certain settings: the one that the flags name, which can be read and is
well-formed, or no file. -/
def FileGives (tree : Files.Tree) (flags : Flags) (given : Given) : Prop :=
  match flags.config with
  | none => given = .nothing
  | some path => ∃ text, tree.readText path = .ok text ∧ Given.read? (.ofPath path) text = some given

/-- What flags and a file give together. -/
def merged (flags : Flags) (given : Given) : Given :=
  (Given.ofFlags flags).orElse given

theorem load_of_fileGives {path : String} (hpath : flags.config = some path)
    (h : FileGives tree flags given) :
    Config.load tree path =
      given.config?.elim (.error (Given.fileError (.ofPath path))) .ok := by
  unfold FileGives at h
  rw [hpath] at h
  obtain ⟨text, htext, hgiven⟩ := h
  rw [Config.load, htext]
  show Config.read (.ofPath path) text = _
  rw [Given.config_read, hgiven]
  rfl

/-- A file that lacks a path is refused. -/
theorem base_of_partial {path : String} (hpath : flags.config = some path)
    (h : FileGives tree flags given) (hpartial : given.config? = none) :
    base flags tree = .error (.configFile path (Given.fileError (.ofPath path))) := by
  rw [base, hpath]
  simp only
  rw [load_of_fileGives hpath h, hpartial]
  rfl

/-! ## Merging -/

/-- Merging takes what flags and a file give together. -/
theorem merge_eq (flags : Flags) (file : Option Config) :
    merge flags file =
      let together := merged flags ((file.map Given.ofConfig).getD .nothing)
      together.config?.elim (.error together.missing) .ok := by
  obtain ⟨input, output, watch, className, template, path⟩ := flags
  cases file with
  | none => cases input <;> cases output <;> rfl
  | some config => cases input <;> cases output <;> rfl

theorem Given.config?_eq_some_iff {config : Config} :
    given.config? = some config ↔ given = .ofConfig config := by
  obtain ⟨input, output, className, template, watch⟩ := given
  constructor
  · intro h
    cases input <;> cases output <;> cases h
    rfl
  · rintro h
    cases h
    rfl

/-- The file is a configuration, or there is none. -/
theorem base_of_whole (h : FileGives tree flags given)
    (hwhole : flags.config = none ∨ given.config?.isSome) :
    ∃ file : Option Config, base flags tree = .ok file ∧
      (file.map Given.ofConfig).getD .nothing = given := by
  cases hpath : flags.config with
  | none =>
    unfold FileGives at h
    rw [hpath] at h
    refine ⟨none, ?_, h.symm⟩
    rw [base, hpath]
  | some path =>
    obtain ⟨config, hconfig⟩ := Option.isSome_iff_exists.mp
      (hwhole.resolve_left (by rw [hpath]; exact Option.some_ne_none path))
    refine ⟨some config, ?_, (Given.config?_eq_some_iff.mp hconfig).symm⟩
    rw [base, hpath]
    simp only
    rw [load_of_fileGives hpath h, hconfig]
    rfl

/-! ## Running -/

/-- Goes on with a configuration, if that is valid. -/
def proceed [Engine] (watcher : Watch.Watcher) (tree : Files.Tree) (config : Config) :
    Logged (Files.Tree × Except Failure Success) :=
  match config.validate with
  | .error error => pure (tree, .error (.invalid error))
  | .ok () => if config.watch then watch config watcher tree else generate config tree

theorem run_eq_proceed [Engine] (flags : Flags) (file : Option Config)
    (hbase : base flags tree = .ok file) :
    run watcher tree (.generate flags) =
      match (merged flags ((file.map Given.ofConfig).getD .nothing)).config? with
      | some config => proceed watcher tree config
      | none =>
        pure (tree, .error (merged flags ((file.map Given.ofConfig).getD .nothing)).missing) := by
  have hmerge := merge_eq flags file
  unfold run resolve
  simp only [hbase]
  cases hconfig : (merged flags ((file.map Given.ofConfig).getD .nothing)).config? with
  | none =>
    simp only [hconfig, Option.elim_none] at hmerge
    simp only [bind, Except.bind, hmerge]
  | some config =>
    simp only [hconfig, Option.elim_some] at hmerge
    simp only [bind, Except.bind, hmerge, proceed]
    cases config.validate <;> rfl

theorem exitCode_missing (given : Given) : given.missing.exitCode = 2 := by
  unfold Given.missing
  split <;> rfl

theorem exitCode_of_generate [Engine] {config : Config} {failure : Failure}
    (h : (generate config tree).value.2 = .error failure) : failure.exitCode = 1 := by
  unfold generate at h
  simp only [Logged.value_bind, Logged.value_pure] at h
  split at h <;> cases h
  rfl

theorem exitCode_of_watch [Engine] {config : Config} {failure : Failure}
    (h : (watch config watcher tree).value.2 = .error failure) : failure.exitCode = 1 := by
  unfold watch at h
  simp only [Logged.value_bind] at h
  split at h
  · cases h
    rfl
  · simp only [Logged.value_bind, Logged.value_pure] at h
    split at h <;> cases h
    rfl

/-- Whatever goes wrong with a configuration, it is no fault of the arguments. -/
theorem exitCode_of_proceed [Engine] {config : Config} {failure : Failure}
    (h : (proceed watcher tree config).value.2 = .error failure) : failure.exitCode = 1 := by
  unfold proceed at h
  cases hvalid : config.validate with
  | error error =>
    rw [hvalid] at h
    cases h
    rfl
  | ok _ =>
    rw [hvalid] at h
    simp only at h
    split at h
    · exact exitCode_of_watch h
    · exact exitCode_of_generate h

theorem Given.config?_eq_none_iff :
    given.config? = none ↔ given.input = none ∨ given.output = none := by
  obtain ⟨input, output, className, template, watch⟩ := given
  cases input <;> cases output <;> simp [Given.config?]

/-- What a command does with flags and a whole file, or none. -/
theorem run_of_whole [Engine] (watcher : Watch.Watcher) (h : FileGives tree flags given)
    (hwhole : flags.config = none ∨ given.config?.isSome) :
    run watcher tree (.generate flags) =
      match (merged flags given).config? with
      | some config => proceed watcher tree config
      | none => pure (tree, .error (merged flags given).missing) := by
  obtain ⟨file, hbase, hgiven⟩ := base_of_whole h hwhole
  rw [run_eq_proceed flags file hbase, hgiven]

/-- The arguments are at fault exactly if a path is given by neither. -/
theorem exitCode_eq_two_iff [Engine] (watcher : Watch.Watcher) (h : FileGives tree flags given)
    (hwhole : flags.config = none ∨ given.config?.isSome) :
    (∃ failure, (run watcher tree (.generate flags)).value.2 = .error failure ∧
        failure.exitCode = 2) ↔
      (merged flags given).input = none ∨ (merged flags given).output = none := by
  rw [← Given.config?_eq_none_iff, run_of_whole watcher h hwhole]
  constructor
  · rintro ⟨failure, hfails, hcode⟩
    cases hconfig : (merged flags given).config? with
    | none => rfl
    | some config =>
      rw [hconfig] at hfails
      have hone := exitCode_of_proceed hfails
      omega
  · intro hnone
    rw [hnone]
    exact ⟨_, rfl, exitCode_missing _⟩

/-- A file that lacks a path ends the command. -/
theorem run_of_partial [Engine] (watcher : Watch.Watcher) {path : String}
    (hpath : flags.config = some path) (h : FileGives tree flags given)
    (hpartial : given.config? = none) :
    run watcher tree (.generate flags) =
      pure (tree, .error (.configFile path (Given.fileError (.ofPath path)))) := by
  unfold run resolve
  simp only [base_of_partial hpath h hpartial, bind, Except.bind]

/-- **Flags before the file**: where no file is named, or one that gives both paths, every setting is
that of the flags, else that of the file, else none, and either can ask to watch. If a path is given
by neither, the arguments are at fault, and nothing is written; otherwise the command goes on with
these settings. A file that does not give both paths is refused, whatever the flags give. -/
theorem flags_before_file [Engine] (watcher : Watch.Watcher) (h : FileGives tree flags given) :
    ((flags.config = none ∨ given.config?.isSome) →
      run watcher tree (.generate flags) =
        (match (merged flags given).config? with
        | some config => proceed watcher tree config
        | none => pure (tree, .error (merged flags given).missing)) ∧
      ((∃ failure, (run watcher tree (.generate flags)).value.2 = .error failure ∧
          failure.exitCode = 2) ↔
        (merged flags given).input = none ∨ (merged flags given).output = none)) ∧
    ∀ path, flags.config = some path → given.config? = none →
      run watcher tree (.generate flags) =
        pure (tree, .error (.configFile path (Given.fileError (.ofPath path)))) := by
  refine ⟨fun hwhole => ⟨run_of_whole watcher h hwhole, exitCode_eq_two_iff watcher h hwhole⟩, ?_⟩
  exact fun path hpath hpartial => run_of_partial watcher hpath h hpartial

/-! ## Files -/

open Files (Tree)
open Files.Tree (LeadsToName leadsToName_of_route)

/-- A directory with a configuration file. -/
def configTree (text : String) : Tree :=
  ⟨[(["work"], .directory), (["work", "fetchgen.yaml"], .file (.text text))], ["work"]⟩

theorem readText_config (text : String) :
    (configTree text).readText "fetchgen.yaml" = .ok text := by
  have hleads : LeadsToName (configTree text) "fetchgen.yaml" ["work"] "fetchgen.yaml" false :=
    leadsToName_of_route [] (by decide) (by decide) rfl (by decide) (.done _ _) rfl
  exact hleads.readText_eq_ok rfl

theorem format_config : Format.ofPath "fetchgen.yaml" = .yaml := by
  decide

theorem fileGives_config {text : String} (hpath : flags.config = some "fetchgen.yaml")
    (hread : Given.read? .yaml text = some given) : FileGives (configTree text) flags given := by
  unfold FileGives
  rw [hpath]
  refine ⟨text, readText_config text, ?_⟩
  rw [format_config]
  exact hread

def wholeText : String := "input_path: api.json\noutput_path: api.js\nclass_name: Pets\n"

/-- Flags with another output and a wish to watch go before a file with both paths and a class. -/
theorem flags_before_file_whole :
    FileGives (configTree wholeText) ⟨none, some "pets.js", true, none, none, some "fetchgen.yaml"⟩
      ⟨some "api.json", some "api.js", some "Pets", none, false⟩ ∧
    run .sound (configTree wholeText)
        (.generate ⟨none, some "pets.js", true, none, none, some "fetchgen.yaml"⟩) =
      proceed .sound (configTree wholeText) ⟨"api.json", "pets.js", some "Pets", none, true⟩ := by
  have hread : Given.read? .yaml wholeText =
      some ⟨some "api.json", some "api.js", some "Pets", none, false⟩ := by
    decide +kernel
  have hgives := @fileGives_config ⟨none, some "pets.js", true, none, none, some "fetchgen.yaml"⟩
    _ wholeText rfl hread
  exact ⟨hgives, ((flags_before_file .sound hgives).1 (.inr rfl)).1⟩

def partialText : String := "class_name: Pets\n"

/-- A file with nothing but the name of a class ends the command although the flags give both paths;
and where they give none, it is not the arguments that are said to be at fault. -/
theorem partial_file_refused :
    Given.read? .yaml partialText = some ⟨none, none, some "Pets", none, false⟩ ∧
    (merged ⟨some "api.json", some "pets.js", false, none, none, some "fetchgen.yaml"⟩
        ⟨none, none, some "Pets", none, false⟩).config? =
      some ⟨"api.json", "pets.js", some "Pets", none, false⟩ ∧
    run .sound (configTree partialText)
        (.generate ⟨some "api.json", some "pets.js", false, none, none, some "fetchgen.yaml"⟩) =
      pure (configTree partialText, .error (.configFile "fetchgen.yaml" .yaml)) ∧
    run .sound (configTree partialText)
        (.generate ⟨none, none, false, none, none, some "fetchgen.yaml"⟩) =
      pure (configTree partialText, .error (.configFile "fetchgen.yaml" .yaml)) ∧
    (Failure.configFile "fetchgen.yaml" .yaml).exitCode = 1 := by
  have hread : Given.read? .yaml partialText = some ⟨none, none, some "Pets", none, false⟩ := by
    decide +kernel
  have hrun : ∀ flags : Flags, flags.config = some "fetchgen.yaml" →
      run .sound (configTree partialText) (.generate flags) =
        pure (configTree partialText, .error (.configFile "fetchgen.yaml" .yaml)) := by
    intro flags hpath
    have hrefused := run_of_partial .sound hpath (fileGives_config hpath hread) rfl
    rwa [format_config] at hrefused
  exact ⟨hread, rfl, hrun _ rfl, hrun _ rfl, rfl⟩

end Command
end FetchClient
