import FetchClient.Proofs.Client.Emission
import FetchClient.Proofs.Generation.Agreement

/-!
# Why a generation fails

Every stage of a generation works on what the stages before it hand on, and has its own reasons to
fail.

- `Generation.Stage`: the stages, in their order;
- `Generation.Stage.failure?`: what a stage fails with, if what it works on is there;
- `Generation.FailsAs.bind`: a run of stages that goes on with another run fails as both do;
- `Generation.failsAs_once`: a generation fails with what its first failing stage fails with;
- `Generation.Stage.Fails`, `Generation.Stage.failure?_eq_some_iff`: the ways in which stages fail;
- `Generation.Raised`: the errors of a generation, by kind;
- `Generation.errors_of_generation`: which of them there are when.
-/

namespace FetchClient.Generation

open Files (Fault Tree)

/-! ## Stages -/

/-- The stages of a generation. -/
inductive Stage where
  | className
  | template
  | read
  | parse
  | paths
  | render
  | write
  deriving DecidableEq, Repr

/-- The stages before a cycle, in their order. -/
def Stage.before : List Stage :=
  [className, template]

/-- The stages of a cycle, in their order. -/
def Stage.ofCycle : List Stage :=
  [read, parse, paths, render, write]

/-- All stages, in their order. -/
def Stage.all : List Stage :=
  before ++ ofCycle

/-- The error, where nothing is given. -/
def missing {α : Type} (error : Error) : Option α → Option Error
  | none => some error
  | some _ => none

/-- What is given, or else the error. -/
def given {α : Type} (error : Error) : Option α → Except Error α
  | none => .error error
  | some a => .ok a

/-- The error for a fault, where there is one. -/
def faulty {α : Type} (toError : Fault → Error) : Except Fault α → Option Error
  | .error fault => some (toError fault)
  | .ok _ => none

section

variable (config : Config) (tree : Tree)

/-- The template that is loaded: the built-in one, or the one in the template file. -/
def loaded? [Engine] : Option Template :=
  match config.templatePath with
  | none => some BuiltIn.template
  | some path => (tree.readText path).toOption.bind Template.read?

/-- The template, as it is in the first cycle. -/
def template? [Engine] : Option Template :=
  (loaded? config tree).map (·.after 1)

/-- The document tree of a text, in either language. -/
def document? (text : String) : Option Value :=
  (Json.read? text).or (Yaml.read? text)

/-- The document tree in the input file. -/
def root? : Option Value :=
  (tree.readText config.inputPath).toOption.bind document?

/-- The object of paths in a document tree. -/
def paths? (root : Value) : Option (List (String × Value)) :=
  (root.member? "paths").bind Value.members?

/-- The description in the input file. -/
def description? : Option Description :=
  (root? config tree).bind fun root => (Description.ofValue? root).map (·.value)

/-- The text that a template gives for a description. -/
def rendered? (template : Template) (description : Description) : Option String :=
  template.render? (Client.globals description config.className
    (Endpoint.ofOperations description.operations).value)

/-- The text of the client. -/
def source? [Engine] : Option String :=
  (template? config tree).bind fun template =>
    (description? config tree).bind (rendered? config template)

/-- What a stage fails with, if what it works on is there. -/
def Stage.failure? [Engine] : Stage → Option Error
  | className =>
    if Text.isIdentifier config.className.toList then none
    else some (.config (.className config.className))
  | template =>
    config.templatePath.bind fun path =>
      match tree.readText path with
      | .error fault => some (.config (.template path fault))
      | .ok text => missing .template (Template.read? text)
  | read => faulty (.inputRead config.inputPath) (tree.readText config.inputPath)
  | parse =>
    (tree.readText config.inputPath).toOption.bind fun text =>
      missing (.parse (some config.inputPath) .malformed) (document? text)
  | paths =>
    (root? config tree).bind fun root =>
      missing (.parse (some config.inputPath) .missingPaths) (paths? root)
  | render =>
    (template? config tree).bind fun template =>
      (description? config tree).bind fun description =>
        missing .template (rendered? config template description)
  | write =>
    (source? config tree).bind fun text =>
      faulty (.outputWrite config.outputPath) (Output.replace tree config.outputPath text).2

end

variable {config : Config} {template : Template} {tree : Tree} {error : Error} {α β : Type}

/-! ## From stage to stage -/

/-- Whether a result is an error exactly if one of the stages fails, and is the error of the first one
that does. -/
def FailsAs [Engine] (config : Config) (tree : Tree) (x : Except Error α) (stages : List Stage) :
    Prop :=
  ∀ error, x = .error error ↔ stages.findSome? (Stage.failure? config tree) = some error

theorem failsAs_ok [Engine] (a : α) : FailsAs config tree (.ok a) [] := by
  intro error
  simp

/-- Stages that go on with what the first ones hand on do not matter where the first ones fail. -/
theorem FailsAs.bind [Engine] {x : Except Error α} {f : α → Except Error β}
    {first others : List Stage} (hx : FailsAs config tree x first)
    (hothers : ∀ a, x = .ok a → FailsAs config tree (f a) others) :
    FailsAs config tree (x >>= f) (first ++ others) := by
  intro error
  rw [List.findSome?_append]
  cases x with
  | error reason =>
    rw [(hx reason).mp rfl, Option.some_or]
    show Except.error reason = Except.error error ↔ _
    rw [Except.error.injEq, Option.some.injEq]
  | ok a =>
    -- Where the first stages hand something on, none of them fails, and the others decide.
    have hnone : first.findSome? (Stage.failure? config tree) = none := by
      rw [Option.eq_none_iff_forall_ne_some]
      intro reason hreason
      cases (hx reason).mpr hreason
    rw [hnone]
    exact hothers a rfl error

theorem missing_map (reason : Error) (f : α → β) (x : Option α) :
    missing reason (x.map f) = missing reason x := by
  cases x <;> rfl

/-- A stage that is given nothing to hand on fails. -/
theorem failsAs_given [Engine] {stage : Stage} {reason : Error} {x : Option α}
    (h : stage.failure? config tree = missing reason x) :
    FailsAs config tree (given reason x) [stage] := by
  intro error
  rw [List.findSome?_singleton, h]
  cases x <;> simp [given, missing]

theorem given_eq_ok_iff {reason : Error} {x : Option α} {a : α} :
    given reason x = .ok a ↔ x = some a := by
  cases x <;> simp [given]

theorem mapError_eq_ok_iff {toError : Fault → Error} {x : Except Fault α} {a : α} :
    x.mapError toError = .ok a ↔ x = .ok a := by
  cases x <;> simp [Except.mapError]

/-- A stage that meets a fault fails. -/
theorem failsAs_mapError [Engine] {stage : Stage} {toError : Fault → Error} {x : Except Fault α}
    (h : stage.failure? config tree = faulty toError x) :
    FailsAs config tree (x.mapError toError) [stage] := by
  intro error
  rw [List.findSome?_singleton, h]
  cases x <;> simp [Except.mapError, faulty]

/-! ## Before a cycle -/

/-- The name that is used when none was chosen is an identifier, so it is no exception. -/
theorem validate_eq (config : Config) :
    config.validate =
      if Text.isIdentifier config.className.toList then .ok ()
      else .error (.config (.className config.className)) := by
  unfold Config.validate Config.className
  cases config.chosenName with
  | none =>
    have hdefault : Text.isIdentifier Config.defaultName.toList = true := by decide
    exact (if_pos hdefault).symm
  | some name => rfl

theorem validate_eq_ok_iff :
    config.validate = .ok () ↔ Text.isIdentifier config.className.toList = true := by
  rw [validate_eq]
  split <;> simp_all

theorem failsAs_validate [Engine] : FailsAs config tree config.validate [.className] := by
  intro error
  rw [List.findSome?_singleton, Stage.failure?, validate_eq]
  split <;> simp

theorem failsAs_readTemplate [Engine] :
    FailsAs config tree (readTemplate tree config.templatePath) [.template] := by
  intro error
  rw [List.findSome?_singleton, Stage.failure?]
  unfold readTemplate
  cases config.templatePath with
  | none => simp
  | some path =>
    simp only [Option.bind_some]
    cases tree.readText path with
    | error fault => simp
    | ok text =>
      simp only
      cases Template.read? text <;> simp [missing]

/-- The template that is there is the one that is read. -/
theorem loaded?_eq [Engine] (config : Config) (tree : Tree) :
    loaded? config tree = (readTemplate tree config.templatePath).toOption := by
  unfold loaded? readTemplate
  cases config.templatePath with
  | none => rfl
  | some path =>
    simp only
    cases tree.readText path with
    | error fault => rfl
    | ok text =>
      show Template.read? text =
        ((Template.read? text).elim (Except.error Error.template) Except.ok).toOption
      cases Template.read? text <;> rfl

/-! ## Cycles -/

theorem readContent_eq (tree : Tree) (path : String) :
    readContent tree path = (do
      let text ← (tree.readText path).mapError (.inputRead path)
      given (.parse (some path) .malformed) (document? text)) := by
  unfold readContent
  cases tree.readText path with
  | error fault => rfl
  | ok text =>
    show (Content.value text).mapError _ = given _ (document? text)
    unfold Content.value document?
    cases Json.read? text with
    | some root => rfl
    | none => cases Yaml.read? text <;> rfl

theorem mapError_describe (path : String) (root : Value) :
    (Content.describe root).mapError (Error.inFile path) =
      given (.parse (some path) .missingPaths) (Description.ofValue? root) := by
  unfold Content.describe
  cases Description.ofValue? root <;> rfl

theorem value_emit (template : Template) (description : Description)
    (hname : Text.isIdentifier config.className.toList = true) :
    (Client.emit template description config.className).value =
      (given .template (rendered? config template description)).map (⟨config.className, ·⟩) := by
  unfold Client.emit rendered?
  simp only [hname, if_true, Logged.value_bind]
  split <;> simp_all [given, Except.map]

/-- A cycle with a description goes on from stage to stage. -/
theorem result_cycle (hname : Text.isIdentifier config.className.toList = true) :
    (cycle config template tree).value.2 = (do
      let description ← readDescription tree config.inputPath
      let text ← given .template (rendered? config template description.value)
      (Output.replace tree config.outputPath text).2.mapError (.outputWrite config.outputPath)
      return ⟨config.className, text⟩) := by
  unfold cycle
  cases readDescription tree config.inputPath with
  | error error => rfl
  | ok description =>
    simp only [value_emit template description.value hname, bind, Except.bind]
    cases rendered? config template description.value with
    | none => rfl
    | some text =>
      simp only [given, Except.map]
      cases Output.replace tree config.outputPath text with
      | mk after result => cases result <;> rfl

theorem root?_of_readContent {root : Value}
    (h : readContent tree config.inputPath = .ok root) : root? config tree = some root := by
  rw [readContent_eq] at h
  obtain ⟨text, htext, hroot⟩ := bind_eq_ok_iff.mp h
  rw [root?, mapError_eq_ok_iff.mp htext]
  exact given_eq_ok_iff.mp hroot

theorem failsAs_readContent [Engine] :
    FailsAs config tree (readContent tree config.inputPath) [.read, .parse] := by
  rw [readContent_eq]
  show FailsAs _ _ _ ([Stage.read] ++ [Stage.parse])
  refine FailsAs.bind (failsAs_mapError rfl) fun text htext => failsAs_given ?_
  rw [Stage.failure?, mapError_eq_ok_iff.mp htext]
  rfl

theorem description?_of_readDescription {description : Logged Description}
    (h : readDescription tree config.inputPath = .ok description) :
    description? config tree = some description.value := by
  obtain ⟨root, hroot, hdescription⟩ := bind_eq_ok_iff.mp h
  rw [mapError_describe, given_eq_ok_iff] at hdescription
  rw [description?, root?_of_readContent hroot, Option.bind_some, hdescription, Option.map_some]

theorem failsAs_readDescription [Engine] :
    FailsAs config tree (readDescription tree config.inputPath) [.read, .parse, .paths] := by
  show FailsAs _ _ _ ([Stage.read, Stage.parse] ++ [Stage.paths])
  refine FailsAs.bind failsAs_readContent fun root hroot => ?_
  rw [mapError_describe]
  refine failsAs_given ?_
  -- A description is there exactly if the object of paths is: it is gathered from that.
  rw [Stage.failure?, root?_of_readContent hroot, Description.ofValue?, missing_map,
    Description.operations?, missing_map]
  rfl

theorem failsAs_cycle [Engine] (hname : Text.isIdentifier config.className.toList = true)
    (htemplate : template? config tree = some template) :
    FailsAs config tree (cycle config template tree).value.2 Stage.ofCycle := by
  rw [result_cycle hname]
  -- The stages of reading, rendering and writing, and then nothing that could fail.
  show FailsAs _ _ _ ([.read, .parse, .paths] ++ ([.render] ++ ([.write] ++ [])))
  refine FailsAs.bind failsAs_readDescription fun description hread => ?_
  have hdescription := description?_of_readDescription hread
  refine FailsAs.bind (failsAs_given ?_) fun text htext => ?_
  · rw [Stage.failure?, htemplate, hdescription]
    rfl
  · have hsource : source? config tree = some text := by
      rw [source?, htemplate, hdescription]
      exact given_eq_ok_iff.mp htext
    refine FailsAs.bind (failsAs_mapError ?_) fun _ _ => failsAs_ok _
    rw [Stage.failure?, hsource]
    rfl

/-! ## Generating once -/

theorem failsAs_setUp [Engine] : FailsAs config tree (setUp config tree) Stage.before :=
  failsAs_validate.bind fun _ _ => failsAs_readTemplate

theorem result_once [Engine] (config : Config) (tree : Tree) : (once config tree).value.2 = (do
    let template ← setUp config tree
    (cycle config (template.after 1) tree).value.2) := by
  cases hsetUp : setUp config tree with
  | error error =>
    unfold once
    rw [hsetUp]
    rfl
  | ok template =>
    rw [value_once hsetUp]
    rfl

/-- A generation fails exactly if one of its stages fails, and with the error of the first one that
does. -/
theorem failsAs_once [Engine] (config : Config) (tree : Tree) :
    FailsAs config tree (once config tree).value.2 Stage.all := by
  rw [result_once]
  refine failsAs_setUp.bind fun template hsetUp => ?_
  obtain ⟨_, hvalid, hread⟩ := bind_eq_ok_iff.mp hsetUp
  have htemplate : template? config tree = some (template.after 1) := by
    rw [template?, loaded?_eq, hread]
    rfl
  exact failsAs_cycle (validate_eq_ok_iff.mp hvalid) htemplate

/-! ## Kinds of errors -/

/-- The ways in which stages fail. -/
inductive Stage.Fails [Engine] (config : Config) (tree : Tree) : Stage → Error → Prop where
  | className (hname : Text.isIdentifier config.className.toList = false) :
      Fails config tree .className (.config (.className config.className))
  | unreadable {path : String} {fault : Fault} (hpath : config.templatePath = some path)
      (hread : tree.readText path = .error fault) :
      Fails config tree .template (.config (.template path fault))
  | malformed {path text : String} (hpath : config.templatePath = some path)
      (hread : tree.readText path = .ok text) (hnone : Template.read? text = none) :
      Fails config tree .template .template
  | read {fault : Fault} (hread : tree.readText config.inputPath = .error fault) :
      Fails config tree .read (.inputRead config.inputPath fault)
  | parse {text : String} (hread : tree.readText config.inputPath = .ok text)
      (hnone : document? text = none) :
      Fails config tree .parse (.parse (some config.inputPath) .malformed)
  | paths {root : Value} (hroot : root? config tree = some root) (hnone : paths? root = none) :
      Fails config tree .paths (.parse (some config.inputPath) .missingPaths)
  | render {template : Template} {description : Description}
      (htemplate : template? config tree = some template)
      (hdescription : description? config tree = some description)
      (hnone : rendered? config template description = none) :
      Fails config tree .render .template
  | write {text : String} {fault : Fault} (hsource : source? config tree = some text)
      (hreplace : (Output.replace tree config.outputPath text).2 = .error fault) :
      Fails config tree .write (.outputWrite config.outputPath fault)

theorem missing_eq_some_iff {reason : Error} {x : Option α} :
    missing reason x = some error ↔ x = none ∧ reason = error := by
  cases x <;> simp [missing]

theorem faulty_eq_some_iff {toError : Fault → Error} {x : Except Fault α} :
    faulty toError x = some error ↔ ∃ fault, x = .error fault ∧ toError fault = error := by
  cases x <;> simp [faulty]

theorem toOption_eq_some_iff {ε : Type} {x : Except ε α} {a : α} :
    x.toOption = some a ↔ x = .ok a := by
  cases x <;> simp [Except.toOption]

theorem Stage.failure?_eq_some_iff [Engine] {stage : Stage} :
    stage.failure? config tree = some error ↔ stage.Fails config tree error := by
  constructor
  · intro h
    cases stage with
    | className =>
      rw [failure?] at h
      split at h
      · cases h
      · next hname =>
        cases h
        exact .className (by simpa using hname)
    | template =>
      obtain ⟨path, hpath, h⟩ := Option.bind_eq_some_iff.mp h
      split at h
      · next fault hread =>
        cases h
        exact .unreadable hpath hread
      · next text hread =>
        obtain ⟨hnone, rfl⟩ := missing_eq_some_iff.mp h
        exact .malformed hpath hread hnone
    | read =>
      obtain ⟨fault, hread, rfl⟩ := faulty_eq_some_iff.mp h
      exact .read hread
    | parse =>
      obtain ⟨text, hread, h⟩ := Option.bind_eq_some_iff.mp h
      obtain ⟨hnone, rfl⟩ := missing_eq_some_iff.mp h
      exact .parse (toOption_eq_some_iff.mp hread) hnone
    | paths =>
      obtain ⟨root, hroot, h⟩ := Option.bind_eq_some_iff.mp h
      obtain ⟨hnone, rfl⟩ := missing_eq_some_iff.mp h
      exact .paths hroot hnone
    | render =>
      obtain ⟨template, htemplate, h⟩ := Option.bind_eq_some_iff.mp h
      obtain ⟨description, hdescription, h⟩ := Option.bind_eq_some_iff.mp h
      obtain ⟨hnone, rfl⟩ := missing_eq_some_iff.mp h
      exact .render htemplate hdescription hnone
    | write =>
      obtain ⟨text, hsource, h⟩ := Option.bind_eq_some_iff.mp h
      obtain ⟨fault, hreplace, rfl⟩ := faulty_eq_some_iff.mp h
      exact .write hsource hreplace
  · intro h
    cases h with
    | className hname => simp [failure?, hname]
    | unreadable hpath hread => simp [failure?, hpath, hread]
    | malformed hpath hread hnone => simp [failure?, hpath, hread, hnone, missing]
    | read hread => simp [failure?, hread, faulty]
    | parse hread hnone => simp [failure?, hread, hnone, missing, Except.toOption]
    | paths hroot hnone => simp [failure?, hroot, hnone, missing]
    | render htemplate hdescription hnone =>
      simp [failure?, htemplate, hdescription, hnone, missing]
    | write hsource hreplace => simp [failure?, hsource, hreplace, faulty]

theorem exists_failing [Engine] {x : Except Error α} {stages : List Stage}
    (hx : FailsAs config tree x stages) (h : x = .error error) :
    ∃ stage : Stage, stage.Fails config tree error := by
  obtain ⟨stage, -, hstage⟩ := List.exists_of_findSome?_eq_some ((hx error).mp h)
  exact ⟨stage, Stage.failure?_eq_some_iff.mp hstage⟩

/-- The errors of a generation, by kind. Those about a file name the one of the configuration. -/
inductive Raised (config : Config) : Error → Prop where
  | config (fault : ConfigFault) : Raised config (.config fault)
  | template : Raised config .template
  | inputRead (fault : Fault) : Raised config (.inputRead config.inputPath fault)
  | parse (fault : ParseFault) : Raised config (.parse (some config.inputPath) fault)
  | outputWrite (fault : Fault) : Raised config (.outputWrite config.outputPath fault)

theorem Stage.Fails.raised [Engine] {stage : Stage} (h : stage.Fails config tree error) :
    Raised config error := by
  cases h <;> constructor

/-- What is wrong with a configuration is the name of the class or the template file. -/
theorem config_error_iff [Engine] :
    (∃ fault, (once config tree).value.2 = .error (.config fault)) ↔
      config.validate ≠ .ok () ∨
        ∃ path fault, config.templatePath = some path ∧ tree.readText path = .error fault := by
  rw [Ne, validate_eq_ok_iff, Bool.not_eq_true]
  constructor
  · rintro ⟨fault, honce⟩
    obtain ⟨stage, hfails⟩ := exists_failing (failsAs_once config tree) honce
    cases hfails with
    | className hname => exact .inl hname
    | unreadable hpath hread => exact .inr ⟨_, _, hpath, hread⟩
  · intro h
    cases hname : Text.isIdentifier config.className.toList with
    | false =>
      have hfails : Stage.className.Fails config tree (.config (.className config.className)) :=
        .className hname
      have hfirst := Stage.failure?_eq_some_iff.mpr hfails
      refine ⟨.className config.className, (failsAs_once config tree _).mpr ?_⟩
      rw [Stage.all, Stage.before, List.cons_append, List.findSome?_cons, hfirst]
    | true =>
      obtain ⟨path, fault, hpath, hread⟩ := h.resolve_left (by simp [hname])
      have hfirst : Stage.className.failure? config tree = none := if_pos hname
      have hsecond := Stage.failure?_eq_some_iff.mpr (Stage.Fails.unreadable hpath hread)
      refine ⟨.template path fault, (failsAs_once config tree _).mpr ?_⟩
      rw [Stage.all, Stage.before, List.cons_append, List.findSome?_cons, hfirst]
      simp only [List.cons_append, List.findSome?_cons, hsecond]

/-- The built-in template is well-formed, and gives a text for every description. -/
theorem Stage.not_fails_template [Engine] {stage : Stage} (hpath : config.templatePath = none) :
    ¬ stage.Fails config tree .template := by
  intro h
  cases h with
  | malformed hother =>
    rw [hpath] at hother
    cases hother
  | render htemplate _ hnone =>
    rw [template?, loaded?, hpath, Option.map_some, BuiltIn.after_template] at htemplate
    cases htemplate
    rw [rendered?, Client.render?_builtIn] at hnone
    cases hnone

/-- With the built-in template, a description that has been read is written or not, and nothing else
can happen. -/
theorem outputWrite_of_paths [Engine] {root : Value} {paths : List (String × Value)}
    (hname : Text.isIdentifier config.className.toList = true)
    (hpath : config.templatePath = none) (hroot : root? config tree = some root)
    (hpaths : paths? root = some paths) (honce : (once config tree).value.2 = .error error) :
    ∃ fault, error = .outputWrite config.outputPath fault := by
  obtain ⟨stage, hfails⟩ := exists_failing (failsAs_once config tree) honce
  obtain ⟨text, hread, hdocument⟩ := Option.bind_eq_some_iff.mp hroot
  rw [toOption_eq_some_iff] at hread
  cases hfails with
  | className hrefused =>
    rw [hname] at hrefused
    cases hrefused
  | unreadable hother =>
    rw [hpath] at hother
    cases hother
  | malformed hother hread hnone =>
    exact absurd (Stage.Fails.malformed hother hread hnone) (Stage.not_fails_template hpath)
  | read hfault =>
    rw [hread] at hfault
    cases hfault
  | parse hother hnone =>
    cases hread.symm.trans hother
    rw [hdocument] at hnone
    cases hnone
  | paths hother hnone =>
    cases hroot.symm.trans hother
    rw [hpaths] at hnone
    cases hnone
  | render htemplate hdescription hnone =>
    exact absurd (Stage.Fails.render htemplate hdescription hnone) (Stage.not_fails_template hpath)
  | write => exact ⟨_, rfl⟩

/-- What a valid configuration names is refused by no template. -/
theorem ne_emit_of_valid {description : Description} (hvalid : config.validate = .ok ())
    (name : String) :
    (Client.emit template description config.className).value ≠ .error (.emit name) := by
  rw [value_emit template description (validate_eq_ok_iff.mp hvalid)]
  cases rendered? config template description <;> simp [given, Except.map]

/-- **Errors of a generation**, for every engine, configuration and tree:

- those of a cycle are generation failures, whatever the template;
- generating once fails exactly if a stage fails, and with the error of the first one that does;
- the error is of one of five kinds, and never about a class name that rendering refuses;
- it is about the configuration exactly if the name of the class is refused or the template file
  cannot be read;
- a name that was not chosen is not refused, and one that is not refused is not refused in rendering
  either;
- with the built-in template it is not about the template, and with a description that has an object
  of paths it is that the output cannot be written. -/
theorem errors_of_generation [Engine] :
    (∀ config template tree error, (cycle config template tree).value.2 = .error error →
      error.isGenerationFailure = true) ∧
    (∀ config tree error, (once config tree).value.2 = .error error ↔
      Stage.all.findSome? (Stage.failure? config tree) = some error) ∧
    (∀ config tree error, (once config tree).value.2 = .error error → Raised config error) ∧
    (∀ config tree, (∃ fault, (once config tree).value.2 = .error (.config fault)) ↔
      config.validate ≠ .ok () ∨
        ∃ path fault, config.templatePath = some path ∧ tree.readText path = .error fault) ∧
    (∀ config : Config, (config.chosenName = none → config.validate = .ok ()) ∧
      (config.validate = .ok () → ∀ template description name,
        (Client.emit template description config.className).value ≠ .error (.emit name))) ∧
    ∀ config tree, config.templatePath = none →
      (once config tree).value.2 ≠ .error .template ∧
      (config.validate = .ok () → ∀ root paths, root? config tree = some root →
        paths? root = some paths → ∀ error, (once config tree).value.2 = .error error →
        ∃ fault, error = .outputWrite config.outputPath fault) := by
  refine ⟨fun config template tree error => isGenerationFailure_of_cycle, failsAs_once,
    fun config tree error honce => ?_, fun config tree => config_error_iff, fun config => ⟨?_, ?_⟩,
    fun config tree hpath => ⟨?_, ?_⟩⟩
  · obtain ⟨stage, hfails⟩ := exists_failing (failsAs_once config tree) honce
    exact hfails.raised
  · intro hnone
    rw [Config.validate, hnone]
  · exact fun hvalid template description => ne_emit_of_valid hvalid
  · intro honce
    obtain ⟨stage, hfails⟩ := exists_failing (failsAs_once config tree) honce
    exact Stage.not_fails_template hpath hfails
  · intro hvalid root paths hroot hpaths error
    exact outputWrite_of_paths (validate_eq_ok_iff.mp hvalid) hpath hroot hpaths

/-- A configuration whose output cannot be written. -/
def unwritableConfig : Config :=
  .ofPaths "api.json" "new/../client.js"

/-- What is told of that. -/
def unwritable : Error :=
  .outputWrite "new/../client.js" .isDirectory

theorem readText_unwritable :
    blockedTree.readText unwritableConfig.inputPath = .ok plainText :=
  readText_input _

theorem exists_paths_unwritable :
    ∃ root paths, root? unwritableConfig blockedTree = some root ∧ paths? root = some paths := by
  have hpaths : ((document? plainText).bind paths?).isSome = true := by decide +kernel
  obtain ⟨paths, hpaths⟩ := Option.isSome_iff_exists.mp hpaths
  obtain ⟨root, hroot, hpaths⟩ := Option.bind_eq_some_iff.mp hpaths
  have htext := toOption_eq_some_iff.mpr readText_unwritable
  exact ⟨root, paths, Option.bind_eq_some_iff.mpr ⟨plainText, htext, hroot⟩, hpaths⟩

theorem result_cycle_unwritable :
    (cycle unwritableConfig BuiltIn.template blockedTree).value.2 = .error unwritable := by
  have hrender : (Client.render BuiltIn.template plainText
      unwritableConfig.className).value.toOption.isSome = true := by
    decide +kernel
  obtain ⟨client, hclient⟩ := Option.isSome_iff_exists.mp hrender
  rw [toOption_eq_some_iff] at hclient
  have hreplace : Output.replace blockedTree unwritableConfig.outputPath client.sourceText =
      (blockedTreeWithNew, .error .isDirectory) := replace_blocked _
  rw [value_cycle readText_unwritable, hclient]
  simp only [hreplace]
  rfl

/-- With everything else as it should be, it is the output that is told of. -/
theorem errors_of_generation_unwritable :
    (once unwritableConfig blockedTree).value.2 = .error unwritable ∧
    unwritable.isGenerationFailure = true ∧
    Stage.all.findSome? (Stage.failure? unwritableConfig blockedTree) = some unwritable ∧
    Raised unwritableConfig unwritable ∧
    ∃ fault, unwritable = .outputWrite unwritableConfig.outputPath fault := by
  obtain ⟨hcycles, hstages, hraised, -, hnames, hbuiltIn⟩ := errors_of_generation
  have hvalid : unwritableConfig.validate = .ok () := (hnames unwritableConfig).1 rfl
  have honce : (once unwritableConfig blockedTree).value.2 = .error unwritable := by
    rw [value_once (setUp_eq_ok hvalid rfl), BuiltIn.after_template, result_cycle_unwritable]
  obtain ⟨root, paths, hroot, hpaths⟩ := exists_paths_unwritable
  exact ⟨honce, hcycles _ _ _ _ result_cycle_unwritable, (hstages _ _ _).mp honce,
    hraised _ _ _ honce, (hbuiltIn _ _ rfl).2 hvalid root paths hroot hpaths _ honce⟩

end FetchClient.Generation
