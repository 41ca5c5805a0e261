import FetchClient.Proofs.Generation.Cycle
import FetchClient.Proofs.Log.Beginning

/-!
# How log lines begin

A line shows by its beginning what it reports, since no beginning is the beginning of another one.

- `Log.Marked`: whether all lines begin with one of some texts;
- `Generation.marked_conclude`: how the lines of a cycle begin.
-/

namespace FetchClient

namespace Log

variable {mark text : String} {marks more : List String} {lines others : List Line} {line : Line}

/-! ## Lines -/

/-- Whether every line begins with one of some texts. -/
def Marked (marks : List String) (lines : List Line) : Prop :=
  ∀ line ∈ lines, ∃ mark ∈ marks, begins mark line.text = true

theorem marked_nil (marks : List String) : Marked marks [] :=
  fun _ hline => absurd hline List.not_mem_nil

theorem marked_singleton (hmark : mark ∈ marks) (h : begins mark line.text = true) :
    Marked marks [line] := by
  intro other hother
  obtain rfl := List.mem_singleton.mp hother
  exact ⟨mark, hmark, h⟩

theorem Marked.append (h : Marked marks lines) (h' : Marked marks others) :
    Marked marks (lines ++ others) := by
  intro line hline
  rcases List.mem_append.mp hline with hline | hline
  · exact h line hline
  · exact h' line hline

theorem Marked.mono (h : Marked marks lines) (hsub : marks ⊆ more) : Marked more lines := by
  intro line hline
  obtain ⟨mark, hmark, hbegins⟩ := h line hline
  exact ⟨mark, hsub hmark, hbegins⟩

/-- Where all texts differ from another one, no line begins with that. -/
theorem Marked.filter_eq_nil (h : Marked marks lines)
    (hdiffer : marks.all (differ · mark) = true) :
    lines.filter (fun line => begins mark line.text) = [] := by
  rw [List.filter_eq_nil_iff]
  intro line hline
  obtain ⟨other, hother, hbegins⟩ := h line hline
  rw [begins_eq_false hbegins (List.all_eq_true.mp hdiffer other hother)]
  decide

end Log

open Log (Marked marked_nil marked_singleton begins begins_append)

/-! ## Lines of a cycle -/

namespace Description

theorem begins_skippedPathMessage (path : String) :
    begins "Skipping " (skippedPathMessage path) = true :=
  begins_append (begins_append (by decide) path) _

theorem begins_skippedKeyMessage (path key : String) :
    begins "Skipping " (skippedKeyMessage path key) = true :=
  begins_append (begins_append (begins_append (begins_append (by decide) key) _) path) _

theorem begins_skippedOperationMessage (verb : Verb) (path : String) :
    begins "Skipping " (skippedOperationMessage verb path) = true :=
  begins_append (begins_append (begins_append (begins_append (by decide) _) _) path) _

theorem marked_gather {α β : Type} {marks : List String} {f : α → Logged (List β)}
    (h : ∀ item, Marked marks (f item).lines) (items : List α) :
    Marked marks (gather f items).lines := by
  intro line hline
  obtain ⟨item, -, hline⟩ := List.mem_flatMap.mp hline
  exact h item line hline

theorem marked_operationsAt (path : String) (entry : String × Value) :
    Marked ["Skipping "] (operationsAt path entry).lines := by
  unfold operationsAt
  cases Verb.ofText? entry.1 with
  | none => exact marked_singleton List.mem_cons_self (begins_skippedKeyMessage path entry.1)
  | some verb =>
    cases entry.2.members? with
    | none =>
      exact marked_singleton List.mem_cons_self (begins_skippedOperationMessage verb path)
    | some members => exact marked_nil _

theorem marked_operationsUnder (entry : String × Value) :
    Marked ["Skipping "] (operationsUnder entry).lines := by
  unfold operationsUnder
  cases entry.2.members? with
  | none => exact marked_singleton List.mem_cons_self (begins_skippedPathMessage entry.1)
  | some entries => exact marked_gather (marked_operationsAt entry.1) entries

theorem marked_ofValue? {root : Value} {description : Logged Description}
    (h : ofValue? root = some description) : Marked ["Skipping "] description.lines := by
  unfold ofValue? operations? at h
  obtain ⟨operations, hoperations, rfl⟩ := Option.map_eq_some_iff.mp h
  obtain ⟨entries, -, rfl⟩ := Option.map_eq_some_iff.mp hoperations
  rw [Logged.lines_bind, Logged.lines_pure, List.append_nil]
  exact marked_gather marked_operationsUnder entries

end Description

namespace Endpoint

theorem marked_named (registry : MethodName.Registry) (ops : List Operation) :
    Marked ["Method name '"] (named registry ops).lines := by
  induction ops generalizing registry with
  | nil => exact marked_nil _
  | cons op ops ih =>
    have hclaim : Marked ["Method name '"]
        (registry.claim (MethodName.ofOperation op)).lines := by
      unfold MethodName.Registry.claim
      split
      · exact marked_singleton List.mem_cons_self
          (begins_append (begins_append (begins_append (begins_append (by decide) _) _) _) _)
      · exact marked_nil _
    rw [named, Logged.lines_bind, Logged.lines_bind, Logged.lines_pure, List.append_nil]
    exact hclaim.append (ih _)

end Endpoint

namespace Client

theorem marked_emit (template : Template) (description : Description) (className : String) :
    Marked ["Resolved ", "Method name '"] (emit template description className).lines := by
  have hresolved : Marked ["Resolved ", "Method name '"]
      [⟨.debug, resolvedMessage description⟩] :=
    marked_singleton List.mem_cons_self
      (begins_append (begins_append (begins_append (begins_append (by decide) _) _) _) _)
  unfold emit
  by_cases hname : Text.isIdentifier className.toList = true
  · have hnames := (Endpoint.marked_named (.ofList MethodName.reserved) description.operations).mono
      (List.subset_cons_self "Resolved " ["Method name '"])
    simp only [hname, if_true, Logged.lines_bind, Logged.lines_write]
    refine hresolved.append ?_
    split <;> exact hnames.append (marked_nil _)
  · simp only [hname, Logged.lines_bind, Logged.lines_write]
    exact hresolved.append (marked_nil _)

end Client

namespace Generation

/-- How the lines begin that a cycle writes. -/
def cycleMarks : List String :=
  ["Skipping ", "Resolved ", "Method name '"]

theorem marked_described {config : Config} {reading : Except Files.Fault String}
    {description : Logged Description} (h : described config reading = .ok description) :
    Marked ["Skipping "] description.lines := by
  cases reading with
  | error fault => cases h
  | ok text =>
    change (Content.description text).mapError _ = _ at h
    unfold Content.description at h
    cases hvalue : Content.value text with
    | error error =>
      rw [hvalue] at h
      cases h
    | ok root =>
      rw [hvalue] at h
      change (Content.describe root).mapError _ = _ at h
      unfold Content.describe at h
      cases hdescription : Description.ofValue? root with
      | none =>
        rw [hdescription] at h
        cases h
      | some found =>
        rw [hdescription] at h
        cases h
        exact Description.marked_ofValue? hdescription

theorem marked_conclude (config : Config) (template : Template)
    (reading : Except Files.Fault String) (tree : Files.Tree) :
    Marked cycleMarks (conclude config template reading tree).lines := by
  unfold conclude
  cases hdescribed : described config reading with
  | error error => exact marked_nil _
  | ok description =>
    have hdescription := (marked_described hdescribed).mono
      (show ["Skipping "] ⊆ cycleMarks by simp [cycleMarks])
    have hemit := (Client.marked_emit template description.value config.className).mono
      (List.subset_cons_self "Skipping " ["Resolved ", "Method name '"])
    simp only [Logged.lines_bind]
    refine hdescription.append (Marked.append hemit ?_)
    repeat' split
    all_goals exact marked_nil _

end Generation

end FetchClient
