import FetchClient.Generation.Cycle
import FetchClient.Proofs.Generation.Replace

/-!
# What a cycle does

A cycle reads its input first, and looks at it no more. Files may change in between.

- `Generation.conclude`: what a cycle does when it has read its input;
- `Generation.conclude_readText`: with what is read at once, that is the whole cycle;
- `Generation.value_conclude`, `Generation.value_cycle`: rendering is between reading and writing;
- `Generation.conclude_cases`, `Generation.cycle_cases`: a cycle fails before anything is written, or
  when the output is replaced, or not at all;
- `Generation.exists_of_conclude`: a cycle that succeeds gives the client of what it had read;
- `Generation.conclude_spec`, `Generation.cycle_spec`: it replaces the output as a whole, or leaves
  it alone;
- `Generation.isGenerationFailure_of_cycle`: its errors are those that should end no session.
-/

namespace FetchClient.Generation

open Files (Fault Tree)
open Output (stagingPath)

variable {config : Config} {template : Template} {tree : Tree} {text : String}

/-! ## Reading and the rest -/

/-- The description in what was read. -/
def described (config : Config) : Except Fault String → Except Error (Logged Description)
  | .error fault => .error (.inputRead config.inputPath fault)
  | .ok text => (Content.description text).mapError (Error.inFile config.inputPath)

/-- What a cycle does when it has read its input. -/
def conclude (config : Config) (template : Template) (reading : Except Fault String) (tree : Tree) :
    Logged (Tree × Except Error Client) :=
  match described config reading with
  | .error error => pure (tree, .error error)
  | .ok description => do
    match ← Client.emit template (← description) config.className with
    | .error error => return (tree, .error error)
    | .ok client =>
      match Output.replace tree config.outputPath client.sourceText with
      | (tree, .ok ()) => return (tree, .ok client)
      | (tree, .error fault) => return (tree, .error (.outputWrite config.outputPath fault))

theorem described_readText (config : Config) (tree : Tree) :
    described config (tree.readText config.inputPath) =
      readDescription tree config.inputPath := by
  unfold described readDescription readContent Content.description
  cases tree.readText config.inputPath with
  | error fault => rfl
  | ok text =>
    cases hvalue : Content.value text <;> simp [hvalue, Except.mapError, bind, Except.bind]

/-- A cycle that is not disturbed does what it does with what it reads. -/
theorem conclude_readText (config : Config) (template : Template) (tree : Tree) :
    conclude config template (tree.readText config.inputPath) tree = cycle config template tree := by
  unfold conclude cycle
  exact described_readText config tree ▸ rfl

theorem cases_of_emit_error {description : Description} {className : String} {error : Error}
    (h : (Client.emit template description className).value = .error error) :
    error = .emit className ∨ error = .template := by
  unfold Client.emit at h
  by_cases hname : Text.isIdentifier className.toList = true
  · simp only [hname, if_true, Logged.value_bind] at h
    split at h <;> cases h
    exact .inr rfl
  · simp only [hname, Logged.value_bind] at h
    cases h
    exact .inl rfl

/-- Errors of the client itself name no file. -/
theorem inFile_of_emit {description : Description} {className path : String}
    {error : Error} (h : (Client.emit template description className).value = .error error) :
    error.inFile path = error := by
  rcases cases_of_emit_error h with rfl | rfl <;> rfl

/-- A cycle renders the text that it has read, and replaces the output if that gives a client. -/
theorem value_conclude (config : Config) (template : Template) (text : String) (tree : Tree) :
    (conclude config template (.ok text) tree).value =
      match (Client.render template text config.className).value with
      | .error error => (tree, .error (error.inFile config.inputPath))
      | .ok client =>
        match Output.replace tree config.outputPath client.sourceText with
        | (replaced, .ok ()) => (replaced, .ok client)
        | (left, .error fault) => (left, .error (.outputWrite config.outputPath fault)) := by
  -- Both sides fail in the same stages, and the cycle names the file where the text is at fault.
  unfold conclude described Client.render
  cases hdescription : Content.description text with
  | error error => simp only [hdescription, Except.mapError, Logged.value_pure]
  | ok description =>
    cases hemit : (Client.emit template description.value config.className).value with
    | error error =>
      simp only [hdescription, Except.mapError, Logged.value_bind, hemit, Logged.value_pure,
        inFile_of_emit hemit]
    | ok client =>
      simp only [hdescription, Except.mapError, Logged.value_bind, hemit]
      cases Output.replace tree config.outputPath client.sourceText with
      | mk after result => cases result <;> rfl

/-- A cycle renders the text of its input, and replaces the output if that gives a client. -/
theorem value_cycle (hread : tree.readText config.inputPath = .ok text) :
    (cycle config template tree).value =
      match (Client.render template text config.className).value with
      | .error error => (tree, .error (error.inFile config.inputPath))
      | .ok client =>
        match Output.replace tree config.outputPath client.sourceText with
        | (replaced, .ok ()) => (replaced, .ok client)
        | (left, .error fault) => (left, .error (.outputWrite config.outputPath fault)) := by
  rw [← conclude_readText, hread, value_conclude]

/-! ## What a cycle leaves -/

theorem exists_of_description {error : Error} (h : Content.description text = .error error) :
    ∃ fault, error = .parse none fault := by
  unfold Content.description at h
  cases hvalue : Content.value text with
  | error reason =>
    rw [hvalue] at h
    cases h
    unfold Content.value at hvalue
    repeat' split at hvalue
    all_goals cases hvalue
    exact ⟨_, rfl⟩
  | ok value =>
    rw [hvalue] at h
    change Content.describe value = _ at h
    unfold Content.describe at h
    split at h <;> cases h
    exact ⟨_, rfl⟩

/-- Rendering fails for the text, for the name of the class, or for the template. -/
theorem cases_of_render_error {className : String} {error : Error}
    (h : (Client.render template text className).value = .error error) :
    (∃ fault, error = .parse none fault) ∨ error = .emit className ∨ error = .template := by
  unfold Client.render at h
  cases hdescription : Content.description text with
  | error reason =>
    rw [hdescription] at h
    cases h
    exact .inl (exists_of_description hdescription)
  | ok description =>
    rw [hdescription] at h
    simp only [Logged.value_bind] at h
    exact .inr (cases_of_emit_error h)

/-- Rendering writes no output, and so does not fail as that does. -/
theorem ne_outputWrite_of_render {className path inputPath : String} {error : Error} {fault : Fault}
    (h : (Client.render template text className).value = .error error) :
    error.inFile inputPath ≠ .outputWrite path fault := by
  obtain ⟨_, rfl⟩ | rfl | rfl := cases_of_render_error h <;> simp [Error.inFile]

/-- A cycle fails and leaves everything as it was, or replaces the output by the text of a client. -/
theorem conclude_cases (config : Config) (template : Template) (reading : Except Fault String)
    (tree : Tree) :
    (∃ error, (∀ path fault, error ≠ .outputWrite path fault) ∧
      (conclude config template reading tree).value = (tree, .error error)) ∨
    ∃ text client, reading = .ok text ∧
      (Client.render template text config.className).value = .ok client ∧
      (conclude config template reading tree).value =
        match Output.replace tree config.outputPath client.sourceText with
        | (replaced, .ok ()) => (replaced, .ok client)
        | (left, .error fault) => (left, .error (.outputWrite config.outputPath fault)) := by
  cases reading with
  | error fault => exact .inl ⟨.inputRead config.inputPath fault, by simp, rfl⟩
  | ok text =>
    rw [value_conclude]
    cases hrender : (Client.render template text config.className).value with
    | error error => exact .inl ⟨_, fun _ _ => ne_outputWrite_of_render hrender, rfl⟩
    | ok client => exact .inr ⟨text, client, rfl, hrender, rfl⟩

/-- A cycle that succeeds gives the client of what it had read, and has replaced the output. -/
theorem exists_of_conclude {reading : Except Fault String} {client : Client}
    (h : (conclude config template reading tree).value.2 = .ok client) :
    ∃ text, reading = .ok text ∧
      (Client.render template text config.className).value = .ok client ∧
      Output.replace tree config.outputPath client.sourceText =
        ((conclude config template reading tree).value.1, .ok ()) := by
  rcases conclude_cases config template reading tree with
    ⟨error, -, hconclude⟩ | ⟨text, other, hread, hrender, hconclude⟩
  · rw [hconclude] at h
    cases h
  · rw [hconclude] at h ⊢
    cases hreplace : Output.replace tree config.outputPath other.sourceText with
    | mk replaced result =>
      rw [hreplace] at h
      cases result with
      | error fault => cases h
      | ok _ =>
        obtain rfl : other = client := Except.ok.inj h
        exact ⟨text, hread, hrender, by rw [hreplace]⟩

theorem cycle_cases (config : Config) (template : Template) (tree : Tree) :
    (∃ error, (∀ path fault, error ≠ .outputWrite path fault) ∧
      (cycle config template tree).value = (tree, .error error)) ∨
    ∃ client : Client, (cycle config template tree).value =
      match Output.replace tree config.outputPath client.sourceText with
      | (replaced, .ok ()) => (replaced, .ok client)
      | (left, .error fault) => (left, .error (.outputWrite config.outputPath fault)) := by
  rw [← conclude_readText]
  rcases conclude_cases config template (tree.readText config.inputPath) tree with
    hfails | ⟨_, client, -, -, hreplace⟩
  · exact .inl hfails
  · exact .inr ⟨client, hreplace⟩

/-- A cycle that succeeds replaces the output by the text of its client, and one that fails, at
whatever stage, adds nothing but directories. -/
theorem conclude_spec (config : Config) (template : Template) (reading : Except Fault String)
    (hvacant : tree.Vacant (stagingPath config.outputPath))
    (hunlinked : tree.Unlinked config.outputPath) :
    match (conclude config template reading tree).value with
    | (replaced, .ok client) => Output.Installed replaced config.outputPath client.sourceText
    | (left, .error _) => Tree.Extends tree left := by
  rcases conclude_cases config template reading tree with
    ⟨error, -, hcycle⟩ | ⟨_, client, -, -, hcycle⟩
  · rw [hcycle]
    exact Tree.Extends.refl tree
  · have hspec := Output.replace_spec client.sourceText hvacant hunlinked
    rw [hcycle]
    cases hreplace : Output.replace tree config.outputPath client.sourceText with
    | mk after result =>
      rw [hreplace] at hspec
      cases result <;> exact hspec

theorem cycle_spec (config : Config) (template : Template)
    (hvacant : tree.Vacant (stagingPath config.outputPath))
    (hunlinked : tree.Unlinked config.outputPath) :
    match (cycle config template tree).value with
    | (replaced, .ok client) => Output.Installed replaced config.outputPath client.sourceText
    | (left, .error _) => Tree.Extends tree left := by
  rw [← conclude_readText]
  exact conclude_spec config template _ hvacant hunlinked

/-! ## Errors of a cycle -/

theorem isGenerationFailure_inFile (path : String) (error : Error) :
    (error.inFile path).isGenerationFailure = error.isGenerationFailure := by
  cases error with
  | parse file fault => cases file <;> rfl
  | _ => rfl

theorem isGenerationFailure_of_conclude {reading : Except Fault String} {error : Error}
    (h : (conclude config template reading tree).value.2 = .error error) :
    error.isGenerationFailure = true := by
  cases reading with
  | error fault =>
    cases h
    rfl
  | ok text =>
    rw [value_conclude] at h
    cases hrender : (Client.render template text config.className).value with
    | error reason =>
      rw [hrender] at h
      cases h
      rw [isGenerationFailure_inFile]
      obtain ⟨_, rfl⟩ | rfl | rfl := cases_of_render_error hrender <;> rfl
    | ok client =>
      rw [hrender] at h
      cases hreplace : Output.replace tree config.outputPath client.sourceText with
      | mk after result =>
        simp only [hreplace] at h
        cases result <;> cases h
        rfl

theorem isGenerationFailure_of_cycle {error : Error}
    (h : (cycle config template tree).value.2 = .error error) :
    error.isGenerationFailure = true := by
  rw [← conclude_readText] at h
  exact isGenerationFailure_of_conclude h

/-! ## Before a cycle -/

/-- Whether the template file of a configuration can be read, but holds no template. -/
def HasMalformedTemplate [Engine] (config : Config) (tree : Tree) : Prop :=
  ∃ path text, config.templatePath = some path ∧ tree.readText path = .ok text ∧
    Template.read? text = none

theorem cases_of_setUp_error [Engine] {error : Error} (h : setUp config tree = .error error) :
    (∃ fault, error = .config fault) ∨
      error = .template ∧ config.validate = .ok () ∧ HasMalformedTemplate config tree := by
  unfold setUp at h
  cases hvalidate : config.validate with
  | error reason =>
    rw [hvalidate] at h
    cases h
    unfold Config.validate at hvalidate
    repeat' split at hvalidate
    all_goals cases hvalidate
    exact .inl ⟨_, rfl⟩
  | ok _ =>
    rw [hvalidate] at h
    change readTemplate tree config.templatePath = _ at h
    unfold readTemplate at h
    split at h
    · cases h
    · next path hpath =>
      split at h
      · next text hread =>
        cases htemplate : Template.read? text <;> rw [htemplate] at h <;> cases h
        exact .inr ⟨rfl, rfl, path, text, hpath, hread, htemplate⟩
      · cases h
        exact .inl ⟨_, rfl⟩

theorem setUp_of_malformed [Engine] (hvalid : config.validate = .ok ())
    (hmalformed : HasMalformedTemplate config tree) : setUp config tree = .error .template := by
  obtain ⟨path, text, hpath, hread, htemplate⟩ := hmalformed
  unfold setUp readTemplate
  rw [hvalid, hpath]
  simp only [hread, htemplate]
  rfl

end FetchClient.Generation
