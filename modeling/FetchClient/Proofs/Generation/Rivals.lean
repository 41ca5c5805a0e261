import Mathlib.Logic.Function.Basic
import FetchClient.Proofs.Generation.Interim
import FetchClient.Proofs.Generation.Crash

/-!
# Cycles that share an output

Nothing keeps two cycles from running at the same time, and all cycles of an output share one
staging file. They take turns in any order here, but each of them writes the staging file with
nothing in between.

- `Rivals`, `Rivals.Step`, `Rivals.Runs`: cycles at the same time, and what they do;
- `Rivals.Runs.tracks`: what each of them does by itself;
- `Rivals.staged?`: whose text is in the staging file, by what was done;
- `Rivals.Runs.exists_base`: what the tree is in every run;
- `Rivals.output_whole_among_rivals`: the output is whole, and is that of the cycle that wrote the
  staging file last.
-/

namespace FetchClient.Generation

open Files Files.Tree
open Output (stagingPath Interim Installed Intact)

/-- Whether a staging file is written and not complete. -/
def Progress.isWriting : Progress → Bool
  | .writing .. => true
  | _ => false

/-- What is in the staging file after a deed that does not move it, if there was `staged` before. -/
def Deed.staged (staged : Option Contents) : Deed → Option Contents
  | .stage client => some (.text client.sourceText)
  | .remove => none
  | _ => staged

/-- What a cycle does to a tree from before its output is replaced, whoever wrote the staging file,
unless it moves that. -/
theorem Step.interim {config : Config} {template : Template} {base now next : Tree}
    {progress after : Progress} {deed : Deed} {staged : Option Contents}
    (hstep : Step config template ⟨now, progress⟩ deed ⟨next, after⟩)
    (hvacant : base.Vacant (stagingPath config.outputPath))
    (hwithin : progress.Within config.outputPath) (hbefore : progress.isWriting = false)
    (hafter : after.isWriting = false) (hmove : deed.moved? = none)
    (hinterim : Interim base now config.outputPath staged) :
    Interim base next config.outputPath (deed.staged staged) := by
  cases hstep with
  | make hpending hmade =>
    exact hinterim.make (hwithin _ (mem_of_pending hpending List.mem_cons_self)) hmade
  | «open» hfault hlocation => cases hafter
  | write hmore hall => cases hafter
  | close hall => cases hbefore
  | stage hstaged => exact hinterim.stage hvacant hstaged
  | move hinstalled => cases hmove
  | remove hremoved => exact hinterim.remove hvacant hremoved
  | _ => exact hinterim

theorem Step.installed {config : Config} {template : Template} {now next : Tree}
    {progress after : Progress} {client : Client}
    (hstep : Step config template ⟨now, progress⟩ (.move client) ⟨next, after⟩) :
    Output.install now config.outputPath = .ok next := by
  cases hstep with
  | move hinstalled => exact hinstalled

/-- Cycles at the same time, and the tree that they share. -/
structure Rivals (ι : Type) where
  tree : Tree
  progress : ι → Progress

namespace Rivals

variable {ι : Type} {config : ι → Config} {template : ι → Template}
  {tree base now next : Tree} {path : String} {rivals : Rivals ι} {acts more : List (ι × Deed)}
  {i j : ι} {deed : Deed} {client other : Client} {progress after : Progress}

/-! ## Histories -/

/-- Whose text is in the staging file after an act. -/
def nextStaged (before : Option (ι × Client)) : ι × Deed → Option (ι × Client)
  | (i, .stage client) => some (i, client)
  | (_, .move _) | (_, .remove) => none
  | _ => before

/-- Whose text is in the staging file, by what was done. -/
def staged? (acts : List (ι × Deed)) : Option (ι × Client) :=
  acts.foldl nextStaged none

/-- What is in the staging file, by what was done. -/
def stagedText? (acts : List (ι × Deed)) : Option Contents :=
  (staged? acts).map fun staged => .text staged.2.sourceText

theorem staged?_concat (act : ι × Deed) :
    staged? (acts ++ [act]) = nextStaged (staged? acts) act := by
  rw [staged?, List.foldl_append]
  rfl

theorem stagedText?_concat (hmove : deed.moved? = none) :
    stagedText? (acts ++ [(i, deed)]) = deed.staged (stagedText? acts) := by
  rw [stagedText?, staged?_concat]
  cases deed with
  | move client => cases hmove
  | _ => rfl

/-- What is in the staging file was written to it. -/
theorem mem_of_staged? (h : staged? acts = some (j, other)) : (j, .stage other) ∈ acts := by
  induction acts using List.reverseRecOn with
  | nil => cases h
  | append_singleton acts act ih =>
    rw [staged?_concat] at h
    rw [List.mem_append, List.mem_singleton]
    obtain ⟨i, deed⟩ := act
    cases deed with
    | stage client =>
      obtain ⟨rfl, rfl⟩ := Prod.mk.inj (Option.some.inj h)
      exact .inr rfl
    | move client => cases h
    | remove => cases h
    | _ => exact .inl (ih h)

/-- Whether a tree is the first one, or the output in it is what the last cycle that moved the
staging file has found there. -/
def IsBase (tree base : Tree) (path : String) (acts : List (ι × Deed)) : Prop :=
  (base = tree ∧ ∀ act ∈ acts, act.2.moved? = none) ∨
  ∃ before i client after j other, acts = before ++ (i, .move client) :: after ∧
    (∀ act ∈ after, act.2.moved? = none) ∧ staged? before = some (j, other) ∧
    base.readText path = .ok other.sourceText

theorem IsBase.concat (h : IsBase tree base path acts) (hmove : deed.moved? = none) :
    IsBase tree base path (acts ++ [(i, deed)]) := by
  have hnone : ∀ {acts : List (ι × Deed)}, (∀ act ∈ acts, act.2.moved? = none) →
      ∀ act ∈ acts ++ [(i, deed)], act.2.moved? = none := by
    intro acts hacts act hact
    rcases List.mem_append.mp hact with hbefore | hlast
    · exact hacts act hbefore
    · rw [List.mem_singleton.mp hlast]
      exact hmove
  rcases h with ⟨rfl, hacts⟩ | ⟨before, j, client, after, k, other, rfl, hafter, hstaged, hread⟩
  · exact .inl ⟨rfl, hnone hacts⟩
  · exact .inr ⟨before, j, client, after ++ [(i, deed)], k, other, by simp, hnone hafter, hstaged,
      hread⟩

/-! ## Runs -/

variable [DecidableEq ι]

/-- Cycles of which none has read anything yet. -/
def begun (tree : Tree) : Rivals ι := ⟨tree, fun _ => .begun⟩

/-- A step of one of the cycles. -/
inductive Step (config : ι → Config) (template : ι → Template) :
    Rivals ι → ι × Deed → Rivals ι → Prop where
  | act {rivals : Rivals ι} {i : ι} {deed : Deed} {next : Tree} {after : Progress}
      (hstep : Generation.Step (config i) (template i) ⟨rivals.tree, rivals.progress i⟩ deed
        ⟨next, after⟩)
      (hwhole : after.isWriting = false) :
      Step config template rivals (i, deed) ⟨next, Function.update rivals.progress i after⟩

/-- Any number of steps, with everything that was done on the way. -/
inductive Runs (config : ι → Config) (template : ι → Template) (first : Rivals ι) :
    List (ι × Deed) → Rivals ι → Prop where
  | refl : Runs config template first [] first
  | step {acts : List (ι × Deed)} {rivals next : Rivals ι} {act : ι × Deed}
      (hruns : Runs config template first acts rivals)
      (hstep : Step config template rivals act next) :
      Runs config template first (acts ++ [act]) next

/-- What one of the cycles has done. -/
def deedsOf (i : ι) (acts : List (ι × Deed)) : List Deed :=
  acts.filterMap fun act => if act.1 = i then some act.2 else none

theorem mem_deedsOf : deed ∈ deedsOf i acts ↔ (i, deed) ∈ acts := by
  simp [deedsOf]

theorem deedsOf_concat_self : deedsOf i (acts ++ [(i, deed)]) = deedsOf i acts ++ [deed] := by
  simp [deedsOf]

theorem deedsOf_concat_of_ne (h : i ≠ j) : deedsOf j (acts ++ [(i, deed)]) = deedsOf j acts := by
  simp [deedsOf, h]

/-- Each cycle does what it does by itself, and the others are what may change files in between. -/
theorem Runs.tracks (hruns : Runs config template (begun tree) acts rivals) (i : ι) :
    Tracks (config i) (template i) (deedsOf i acts) (rivals.progress i) := by
  induction hruns with
  | refl => exact .begun
  | step hruns hstep ih =>
    obtain ⟨hstep, hwhole⟩ := hstep
    next acts rivals j deed next after =>
      by_cases hsame : j = i
      · subst hsame
        show Tracks _ _ _ (Function.update rivals.progress j after j)
        rw [deedsOf_concat_self, Function.update_self]
        exact .step ih hstep
      · show Tracks _ _ _ (Function.update rivals.progress j after i)
        rw [deedsOf_concat_of_ne hsame, Function.update_of_ne (Ne.symm hsame)]
        exact ih

/-- No staging file is left incomplete. -/
theorem Runs.isWriting_eq_false (hruns : Runs config template (begun tree) acts rivals) (i : ι) :
    (rivals.progress i).isWriting = false := by
  induction hruns with
  | refl => rfl
  | step hruns hstep ih =>
    obtain ⟨hstep, hwhole⟩ := hstep
    next acts rivals j deed next after =>
      by_cases hsame : i = j
      · subst hsame
        show (Function.update rivals.progress i after i).isWriting = false
        rw [Function.update_self]
        exact hwhole
      · show (Function.update rivals.progress j after i).isWriting = false
        rw [Function.update_of_ne hsame]
        exact ih

/-! ## The tree -/

/-- In every run the tree is one from before the staging file is moved, beginning from the first one
or from where the staging file was moved last. -/
theorem Runs.exists_base (hpath : ∀ i, (config i).outputPath = path)
    (hvacant : tree.Vacant (stagingPath path)) (hdirect : tree.Direct path)
    (hruns : Runs config template (begun tree) acts rivals) :
    ∃ base, base.Vacant (stagingPath path) ∧ base.Direct path ∧
      Interim base rivals.tree path (stagedText? acts) ∧ IsBase tree base path acts := by
  induction hruns with
  | refl =>
    exact ⟨tree, hvacant, hdirect, Output.grown_refl tree path, .inl ⟨rfl, by simp⟩⟩
  | step hruns hstep ih =>
    obtain ⟨base, hbaseVacant, hbaseDirect, hinterim, hbase⟩ := ih
    obtain ⟨hstep, hwhole⟩ := hstep
    next acts rivals i deed next after =>
      obtain rfl := hpath i
      cases hmove : deed.moved? with
      | none =>
        refine ⟨base, hbaseVacant, hbaseDirect, ?_, hbase.concat hmove⟩
        rw [stagedText?_concat hmove]
        exact hstep.interim hbaseVacant (hruns.tracks i).within (hruns.isWriting_eq_false i) hwhole
          hmove hinterim
      | some client =>
        obtain rfl := Deed.moved?_eq_some_iff.mp hmove
        -- The tree behind the move is what the following steps begin from.
        cases hstaged : staged? acts with
        | none =>
          have hnone : stagedText? acts = none := by rw [stagedText?, hstaged, Option.map_none]
          rw [hnone] at hinterim
          exact absurd hstep.installed (Output.Grown.install_ne_ok hinterim hbaseVacant)
        | some staged =>
          obtain ⟨j, other⟩ := staged
          have htext : stagedText? acts = some (.text other.sourceText) := by
            rw [stagedText?, hstaged, Option.map_some]
          rw [htext] at hinterim
          have hinstalled := hinterim.install hbaseVacant hbaseDirect hstep.installed
          refine ⟨next, hinstalled.vacant, hinstalled.unlinked.direct, ?_,
            .inr ⟨acts, i, client, [], j, other, rfl, by simp, hstaged, hinstalled.read⟩⟩
          rw [stagedText?, staged?_concat]
          exact Output.grown_refl next _

/-! ## The output -/

/-- **The output is whole among rivals**: whatever cycles with the same output do at the same time,
the output is what it was until one of them moves the staging file, or, if it is a link to the
staging file, what is in that. From then on it is the whole text of a client, and whose it is
depends on who wrote the staging file last: the cycle that moved it succeeds, even if the text is
that of another one. A cycle that fails has moved nothing. -/
theorem output_whole_among_rivals (config : ι → Config) (template : ι → Template) (path : String)
    (hpath : ∀ i, (config i).outputPath = path) (tree : Tree)
    (hvacant : tree.Vacant (stagingPath path)) (hdirect : tree.Direct path)
    (acts : List (ι × Deed)) (rivals : Rivals ι)
    (hruns : Runs config template (begun tree) acts rivals) :
    (((∀ act ∈ acts, act.2.moved? = none) ∧
        (Intact tree rivals.tree path ∨ ¬ tree.Unlinked path ∧ ∃ j other,
          staged? acts = some (j, other) ∧ rivals.tree.readText path = .ok other.sourceText)) ∨
      ∃ before i client after j other, acts = before ++ (i, .move client) :: after ∧
        (∀ act ∈ after, act.2.moved? = none) ∧ staged? before = some (j, other) ∧
        (j = i → other = client) ∧ rivals.tree.readText path = .ok other.sourceText) ∧
    (∀ i client, rivals.progress i = .ended (.ok client) ↔ (i, .move client) ∈ acts) ∧
    ∀ i client, (i, .stage client) ∈ acts → ∃ text, (i, .read (.ok text)) ∈ acts ∧
      (Client.render (template i) text (config i).className).value = .ok client := by
  refine ⟨?_, fun i client => ?_, fun i client hmem => ?_⟩
  · obtain ⟨base, -, -, hinterim, hbase⟩ := hruns.exists_base hpath hvacant hdirect
    rcases hbase with ⟨rfl, hnone⟩ |
      ⟨before, i, client, after, j, other, rfl, hafter, hstaged, hread⟩
    · refine .inl ⟨hnone, hinterim.intact_or_staged.imp_right ?_⟩
      rintro ⟨hlinked, contents, hcontents, hfound⟩
      obtain ⟨⟨j, other⟩, hstaged, rfl⟩ := Option.map_eq_some_iff.mp hcontents
      exact ⟨hlinked, j, other, hstaged, readText_eq_ok_iff.mpr hfound⟩
    · refine .inr ⟨before, i, client, after, j, other, rfl, hafter, hstaged, ?_, ?_⟩
      · rintro rfl
        have hmoved : (j, Deed.move client) ∈ before ++ (j, .move client) :: after :=
          List.mem_append_right _ List.mem_cons_self
        have hstage : (j, Deed.stage other) ∈ before ++ (j, .move client) :: after :=
          List.mem_append_left _ (mem_of_staged? hstaged)
        exact (hruns.tracks j).client_unique (mem_deedsOf.mpr hmoved) rfl
          (mem_deedsOf.mpr hstage) rfl
      · exact readText_eq_ok_iff.mpr (hinterim.read (readText_eq_ok_iff.mp hread))
  · rw [← (hruns.tracks i).move_mem_iff, mem_deedsOf]
  · obtain ⟨reading, hread, hrendered⟩ :=
      (hruns.tracks i).exists_reading (mem_deedsOf.mpr hmem) rfl
    obtain ⟨text, rfl, hrender⟩ := rendered_eq_ok_iff.mp hrendered
    exact ⟨text, mem_deedsOf.mp hread, hrender⟩

/-! ## Two cycles -/

/-- Two cycles at the same time. -/
def two (tree : Tree) (first second : Progress) : Rivals Bool :=
  ⟨tree, fun i => if i then second else first⟩

theorem step_first {config : Bool → Config} {template : Bool → Template} {first second : Progress}
    (hstep : Generation.Step (config false) (template false) ⟨now, first⟩ deed ⟨next, after⟩)
    (hwhole : after.isWriting = false) :
    Step config template (two now first second) (false, deed) (two next after second) := by
  have hact : Step config template (two now first second) (false, deed)
      ⟨next, Function.update (two now first second).progress false after⟩ := .act hstep hwhole
  have hupdate : Function.update (two now first second).progress false after =
      (two next after second).progress := by
    funext i
    cases i <;> rfl
  rwa [hupdate] at hact

theorem step_second {config : Bool → Config} {template : Bool → Template} {first second : Progress}
    (hstep : Generation.Step (config true) (template true) ⟨now, second⟩ deed ⟨next, after⟩)
    (hwhole : after.isWriting = false) :
    Step config template (two now first second) (true, deed) (two next first after) := by
  have hact : Step config template (two now first second) (true, deed)
      ⟨next, Function.update (two now first second).progress true after⟩ := .act hstep hwhole
  have hupdate : Function.update (two now first second).progress true after =
      (two next first after).progress := by
    funext i
    cases i <;> rfl
  rwa [hupdate] at hact

def otherTemplate : Template := .ofNodes [.text "other"]

/-- The templates of the two cycles. -/
def twoTemplates (i : Bool) : Template :=
  if i then otherTemplate else plainTemplate

/-- The output when the first cycle has moved the staging file, which the second one had written. -/
def raceTree : Tree :=
  ((tidyTree.put ["work", "client.js.fetchgen-tmp"] (.file (.text "other"))).erase
    ["work", "client.js.fetchgen-tmp"]).put ["work", "client.js"] (.file (.text "other"))

/-- The staging file is written where nothing is, or over another file. -/
theorem stage_client (text : String) (hhere : tree.here = ["work"])
    (hwork : tree.entryAt? ["work"] = some .directory)
    (hfree : ∀ entry, tree.entryAt? (["work"] ++ ["client.js.fetchgen-tmp"]) = some entry →
      ∃ contents, entry = .file contents) :
    Output.stage tree "client.js" text =
      .ok (tree.put ["work", "client.js.fetchgen-tmp"] (.file (.text text))) := by
  refine (leadsToName_clientStaging hhere hwork).write (fun hentry => ?_) fun target hentry => ?_
  all_goals
    obtain ⟨contents, hfile⟩ := hfree _ hentry
    cases hfile

theorem stage_tidy (text : String) :
    Output.stage tidyTree "client.js" text =
      .ok (tidyTree.put ["work", "client.js.fetchgen-tmp"] (.file (.text text))) :=
  stage_client text rfl rfl (by rintro _ ⟨⟩)

/-- The staging file of the other cycle is written over. -/
theorem stage_staged (old text : String) :
    Output.stage (tidyTree.put ["work", "client.js.fetchgen-tmp"] (.file (.text old))) "client.js"
        text =
      .ok (tidyTree.put ["work", "client.js.fetchgen-tmp"] (.file (.text text))) := by
  rw [stage_client text rfl rfl (by rintro _ ⟨⟩; exact ⟨_, rfl⟩), put_put]

theorem install_staged :
    Output.install (tidyTree.put ["work", "client.js.fetchgen-tmp"] (.file (.text "other")))
      "client.js" = .ok raceTree := by
  have hstaging : LeadsToName
      (tidyTree.put ["work", "client.js.fetchgen-tmp"] (.file (.text "other")))
      (stagingPath "client.js") ["work"] "client.js.fetchgen-tmp" false :=
    leadsToName_clientStaging rfl rfl
  have houtput : LeadsToName
      (tidyTree.put ["work", "client.js.fetchgen-tmp"] (.file (.text "other"))) "client.js" ["work"]
      "client.js" false :=
    leadsToName_client rfl rfl
  exact hstaging.rename rfl (by simp) houtput (by decide)

theorem install_race : Output.install raceTree "client.js" = .error .notFound := by
  have hstaging : LeadsToName raceTree (stagingPath "client.js") ["work"] "client.js.fetchgen-tmp"
      false :=
    leadsToName_clientStaging rfl rfl
  have houtput : LeadsToName raceTree "client.js" ["work"] "client.js" false :=
    leadsToName_client rfl rfl
  have hnone : raceTree.entryAt? (["work"] ++ ["client.js.fetchgen-tmp"]) = none := rfl
  simp only [Output.install, Tree.rename, spot_eq_named_iff.mpr hstaging,
    spot_eq_named_iff.mpr houtput, hnone, bind, Except.bind]
  rfl

/-- Both cycles write the staging file, and then both move it. -/
def raceActs : List (Bool × Deed) :=
  [(false, .read (.ok plainText)), (true, .read (.ok plainText)),
    (false, .stage ⟨"ApiClient", "new"⟩), (true, .stage ⟨"ApiClient", "other"⟩),
    (false, .move ⟨"ApiClient", "new"⟩), (true, .refuse .notFound), (true, .refuse .notFound)]

theorem runs_race :
    Runs (fun _ => .ofPaths "api.json" "client.js") twoTemplates (two tidyTree .begun .begun)
      raceActs
      (two raceTree (.ended (.ok ⟨"ApiClient", "new"⟩))
        (.failed (.ofPaths "api.json" "client.js") .notFound)) := by
  have hother : (Client.render otherTemplate plainText "ApiClient").value =
      .ok ⟨"ApiClient", "other"⟩ := by decide +kernel
  have hfirst := step_read_plain [("client.js", .file (.text "old"))] "client.js" render_plain
  have hsecond := step_read_plain [("client.js", .file (.text "old"))] "client.js" hother
  rw [directories_plain] at hfirst hsecond
  have hread : Runs (fun _ => .ofPaths "api.json" "client.js") twoTemplates
      (two tidyTree .begun .begun) _ (two tidyTree (.preparing ⟨"ApiClient", "new"⟩ [] [])
        (.preparing ⟨"ApiClient", "other"⟩ [] [])) :=
    (Runs.refl.step (step_first hfirst rfl)).step (step_second hsecond rfl)
  have hstaged : Runs (fun _ => .ofPaths "api.json" "client.js") twoTemplates
      (two tidyTree .begun .begun) _
      (two (tidyTree.put ["work", "client.js.fetchgen-tmp"] (.file (.text "other")))
        (.installing ⟨"ApiClient", "new"⟩) (.installing ⟨"ApiClient", "other"⟩)) :=
    (hread.step (step_first (.stage (stage_tidy "new")) rfl)).step
      (step_second (.stage (stage_staged "new" "other")) rfl)
  have hmoved : Runs (fun _ => .ofPaths "api.json" "client.js") twoTemplates
      (two tidyTree .begun .begun) _ (two raceTree (.ended (.ok ⟨"ApiClient", "new"⟩))
        (.installing ⟨"ApiClient", "other"⟩)) :=
    hstaged.step (step_first (.move install_staged) rfl)
  exact (hmoved.step (step_second (.refuseMove .notFound) rfl)).step
    (step_second (.refuseRemove .notFound) rfl)

theorem two_begun (tree : Tree) : two tree .begun .begun = begun tree := by
  have hprogress : (two tree .begun .begun).progress = (begun tree).progress := by
    funext i
    cases i <;> rfl
  exact congrArg (Rivals.mk tree) hprogress

theorem tidy_vacant : tidyTree.Vacant (stagingPath "client.js") :=
  LeadsToName.vacant (leadsToName_clientStaging rfl rfl) rfl

theorem tidy_unlinked : tidyTree.Unlinked "client.js" :=
  LeadsToName.unlinked (leadsToName_client rfl rfl) (by rintro _ ⟨⟩)

/-- Behind the race the output is the whole text of one of the two clients. -/
theorem output_whole_behind_race :
    tidyTree.Vacant (stagingPath "client.js") ∧ tidyTree.Direct "client.js" ∧
    Runs (fun _ => .ofPaths "api.json" "client.js") twoTemplates (begun tidyTree) raceActs
      (two raceTree (.ended (.ok ⟨"ApiClient", "new"⟩))
        (.failed (.ofPaths "api.json" "client.js") .notFound)) ∧
    ∃ j other, (j, .stage other) ∈ raceActs ∧
      raceTree.readText "client.js" = .ok other.sourceText := by
  have hruns := runs_race
  rw [two_begun] at hruns
  refine ⟨tidy_vacant, tidy_unlinked.direct, hruns, ?_⟩
  obtain ⟨hwhole, -, -⟩ := output_whole_among_rivals _ _ "client.js" (fun _ => rfl) tidyTree
    tidy_vacant tidy_unlinked.direct _ _ hruns
  rcases hwhole with ⟨hnone, -⟩ | ⟨before, i, client, after, j, other, hacts, -, hstaged, -, hread⟩
  · have hmove := hnone (false, .move ⟨"ApiClient", "new"⟩) (by simp [raceActs])
    cases hmove
  · refine ⟨j, other, ?_, hread⟩
    rw [hacts]
    exact List.mem_append_left _ (mem_of_staged? hstaged)

/-! ## Outputs of others -/

/-- The output is a link to a directory, and its path leads through it. -/
def throughTree : Tree :=
  plainTree [("client.js", .link "d"), ("d", .directory)]

/-- The file that has taken the place of the link. -/
def throughTreeAfter : Tree :=
  ((throughTree.put ["work", "client.js.fetchgen-tmp"] (.file (.text "new"))).erase
    ["work", "client.js.fetchgen-tmp"]).put ["work", "client.js"] (.file (.text "new"))

theorem leads_through :
    Leads throughTree maxLinks throughTree.here ["client.js", ".."] ["work"] :=
  leads_link_back rfl (by decide) rfl rfl rfl

theorem leadsToName_through :
    LeadsToName throughTree (stagingPath "client.js/../client.js") ["work"] "client.js.fetchgen-tmp"
      false :=
  leadsToName_of_route ["client.js", ".."] (by decide) (by decide) rfl (by decide)
    leads_through rfl

theorem value_cycle_through :
    (cycle (.ofPaths "api.json" "client.js/../client.js") plainTemplate throughTree).value =
      (throughTreeAfter, .ok ⟨"ApiClient", "new"⟩) := by
  have hparent : Files.Path.parent? "client.js/../client.js" = some "client.js/.." := by
    decide
  have hroute : Route.ofText "client.js/.." = ⟨false, ["client.js", ".."], false⟩ := by
    decide
  have hprepare : Output.prepare throughTree "client.js/../client.js" = (throughTree, .ok ()) := by
    refine Output.prepare_eq_of_isDirectory hparent
      (isDirectory_iff.mpr ⟨by decide, ["work"], ?_, rfl⟩)
    rw [hroute]
    exact leads_through
  have houtput : LeadsToName throughTree "client.js/../client.js" ["work"] "client.js" false :=
    leadsToName_of_route ["client.js", ".."] (by decide) (by decide) rfl (by decide)
      leads_through rfl
  have hread : throughTree.readText "api.json" = .ok plainText := readText_input _
  rw [value_cycle_plain _ hread,
    Output.replace_eq_ok "new" hprepare houtput (by decide) leadsToName_through (by decide)]
  rfl

/-- One step through a file is one too many. -/
theorem readText_through :
    throughTreeAfter.readText "client.js/../client.js" = .error .notDirectory := by
  have hfile : throughTreeAfter.entryAt? (["work"] ++ ["client.js"]) = some (.file (.text "new")) :=
    rfl
  have hleads :
      Leads throughTreeAfter maxLinks ["work"] ["client.js"] (["work"] ++ ["client.js"]) :=
    .enter rfl rfl (by decide) hfile (by simp) (.done _ _)
  obtain ⟨left, hwalk⟩ := hleads.walk_append
  have hlast : throughTreeAfter.walk left (["work"] ++ ["client.js"]) ["..", "client.js"] =
      .error .notDirectory := by
    rw [walk, if_pos (by rw [hfile]; simp)]
  exact readText_eq_error (by decide)
    (show Route.ofText "client.js/../client.js" = ⟨false, ["client.js", "..", "client.js"], false⟩
      by decide)
    ((hwalk ["..", "client.js"]).trans hlast)

/-- The first of two cycles makes the directory on the way to the output. -/
theorem runs_uncover :
    Runs (fun _ => .ofPaths "api.json" "new/../client.js") twoTemplates (two tidyTree .begun .begun)
      [(false, .read (.ok plainText)), (false, .refuse .notFound), (false, .make "new"),
        (false, .make "new/..")]
      (two tidyTreeWithNew (.preparing ⟨"ApiClient", "new"⟩ [] []) .begun) := by
  have hdirectories : Output.directories "new/../client.js" = ["new/..", "new"] := by decide
  have hread := step_read_plain [("client.js", .file (.text "old"))] "new/../client.js" render_plain
  rw [hdirectories] at hread
  have hmade : tidyTree.makeDirectory "new" = .ok tidyTreeWithNew := makeDirectory_new _ rfl
  have hthere : tidyTreeWithNew.isDirectory "new/.." = true := isDirectory_new _
  have hclimbed : Runs (fun _ => .ofPaths "api.json" "new/../client.js") twoTemplates
      (two tidyTree .begun .begun) _
      (two tidyTree (.preparing ⟨"ApiClient", "new"⟩ ["new"] ["new/.."]) .begun) :=
    (Runs.refl.step (step_first hread rfl)).step (step_first .climb rfl)
  have hbetween : Runs (fun _ => .ofPaths "api.json" "new/../client.js") twoTemplates
      (two tidyTree .begun .begun) _
      (two tidyTreeWithNew (.preparing ⟨"ApiClient", "new"⟩ [] ["new/.."]) .begun) :=
    hclimbed.step (step_first (.make rfl hmade) rfl)
  exact hbetween.step (step_first (.find rfl hthere) rfl)

/-- A cycle may succeed with the text of another one, which fails then because the staging file is
gone. An output that is a link, and is needed on the way to itself, cannot be read when it has been
replaced. Where the directory of the output is missing, a file behind it may be read when one of the
cycles has made it, and a link at the staging path may be behind it too. -/
theorem rival_text_installed :
    (tidyTree.Vacant (stagingPath "client.js") ∧ tidyTree.Unlinked "client.js" ∧
      Runs (fun _ => .ofPaths "api.json" "client.js") twoTemplates (begun tidyTree) raceActs
        (two raceTree (.ended (.ok ⟨"ApiClient", "new"⟩))
          (.failed (.ofPaths "api.json" "client.js") .notFound)) ∧
      raceTree.readText "client.js" = .ok "other" ∧
      Output.install raceTree "client.js" = .error .notFound) ∧
    (throughTree.Vacant (stagingPath "client.js/../client.js") ∧
      (cycle (.ofPaths "api.json" "client.js/../client.js") plainTemplate throughTree).value =
        (throughTreeAfter, .ok ⟨"ApiClient", "new"⟩) ∧
      throughTreeAfter.readText "client.js/../client.js" = .error .notDirectory) ∧
    (tidyTree.readText "new/../client.js" = .error .notFound ∧
      (∃ acts, (∀ act ∈ acts, act.2.moved? = none) ∧
        Runs (fun _ => .ofPaths "api.json" "new/../client.js") twoTemplates (begun tidyTree) acts
          (two tidyTreeWithNew (.preparing ⟨"ApiClient", "new"⟩ [] []) .begun)) ∧
      tidyTreeWithNew.readText "new/../client.js" = .ok "old") ∧
    (loopTree.readText (stagingPath "new/../client.js") = .error .notFound ∧
      (cycle (.ofPaths "api.json" "new/../client.js") plainTemplate loopTree).value =
        (hiddenLoopTreeAfter, .ok ⟨"ApiClient", "new"⟩) ∧
      hiddenLoopTreeAfter.readText "new/../client.js" = .error .tooManyLinks) := by
  have hrace := runs_race
  have huncover := runs_uncover
  rw [two_begun] at hrace huncover
  have hinstalled : LeadsToName raceTree "client.js" ["work"] "client.js" false :=
    leadsToName_client rfl rfl
  have huncovered : LeadsToName tidyTreeWithNew "new/../client.js" ["work"] "client.js" false :=
    leadsToName_new _
  refine ⟨⟨tidy_vacant, tidy_unlinked, hrace, hinstalled.readText_eq_ok rfl, install_race⟩,
    ⟨leadsToName_through.vacant rfl, value_cycle_through, readText_through⟩,
    ⟨readText_new rfl, ⟨_, ?_, huncover⟩, huncovered.readText_eq_ok rfl⟩,
    readText_stagingPath_new rfl, value_cycle_hiddenLoop, readText_hiddenLoop⟩
  simp [Deed.moved?]

end Rivals

end FetchClient.Generation
