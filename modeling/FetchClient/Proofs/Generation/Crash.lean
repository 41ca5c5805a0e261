import FetchClient.Proofs.Generation.Interim

/-!
# Cycles that end at any moment

Whatever a cycle has done when it ends for ever, its output is what it was, or holds the whole text
of its client.

- `Progress.Sound`: what is in the tree at each progress of a cycle;
- `Step.sound`, `Runs.sound`: so it is after every step, and in every run;
- `output_whole_at_every_moment`: the output in every run.
-/

namespace FetchClient.Generation

open Files Files.Tree
open Output (stagingPath Interim Installed StagedAt Grown Intact)

variable {config : Config} {template : Template} {tree now : Tree} {client : Client}
  {moment next : Moment} {deed : Deed} {deeds : List Deed}

/-! ## Clients -/

/-- A client is rendered from a text that was read. -/
theorem rendered_eq_ok_iff {reading : Except Fault String} :
    rendered config template reading = .ok client ↔
      ∃ text, reading = .ok text ∧
        (Client.render template text config.className).value = .ok client := by
  cases reading with
  | error fault => simp [rendered, described]
  | ok text =>
    simp only [rendered, described, Client.render, Except.ok.injEq, exists_eq_left']
    cases Content.description text with
    | error error => simp [Except.mapError]
    | ok description => simp [Except.mapError]

/-! ## What is there at each progress -/

/-- What is in the tree at each progress of a cycle that begins in `tree`. -/
def Progress.Sound (config : Config) (template : Template) (tree now : Tree) : Progress → Prop
  | .begun => now = tree
  | .preparing client _ _ =>
    rendered config template (tree.readText config.inputPath) = .ok client ∧
      Grown tree now config.outputPath
  | .writing client location count =>
    rendered config template (tree.readText config.inputPath) = .ok client ∧
      StagedAt tree now config.outputPath location (partOf client.sourceText count)
  | .installing client =>
    rendered config template (tree.readText config.inputPath) = .ok client ∧
      Interim tree now config.outputPath (some (.text client.sourceText))
  | .discarding _ | .ended (.error _) => ∃ staged, Interim tree now config.outputPath staged
  | .ended (.ok client) =>
    rendered config template (tree.readText config.inputPath) = .ok client ∧
      Installed now config.outputPath client.sourceText

/-- Reading changes nothing, and gives a client or ends the cycle. -/
theorem sound_ofRendered {reading : Except Fault String}
    (hreading : reading = tree.readText config.inputPath ∨ ∃ fault, reading = .error fault) :
    (Progress.ofRendered config (rendered config template reading)).Sound config template tree
      tree := by
  have hgrown := Output.grown_refl tree config.outputPath
  cases hrendered : rendered config template reading with
  | error error => exact ⟨none, hgrown⟩
  | ok client =>
    rcases hreading with rfl | ⟨fault, rfl⟩
    · exact ⟨hrendered, hgrown⟩
    · cases hrendered

/-- Each step leaves what is expected at the progress behind it. -/
theorem Step.sound (hvacant : tree.Vacant (stagingPath config.outputPath))
    (hunlinked : tree.Unlinked config.outputPath) (hstep : Step config template moment deed next)
    (hwithin : moment.progress.Within config.outputPath)
    (hsound : moment.progress.Sound config template tree moment.tree) :
    next.progress.Sound config template tree next.tree := by
  cases hstep with
  | read hreading =>
    obtain rfl : _ = tree := hsound
    exact sound_ofRendered hreading
  | make hpending hmade =>
    obtain ⟨hclient, hgrown⟩ := hsound
    exact ⟨hclient, hgrown.make (hwithin _ (mem_of_pending hpending List.mem_cons_self)) hmade⟩
  | find hpending hthere => exact hsound
  | climb => exact hsound
  | refuseMake hpending fault => exact ⟨none, hsound.2⟩
  | «open» hfault hlocation =>
    obtain ⟨hclient, hgrown⟩ := hsound
    obtain ⟨location, hlocation', hstaged⟩ :=
      hgrown.write hvacant (write_of_writeLocation hfault hlocation)
    obtain rfl := Except.ok.inj (hlocation.symm.trans hlocation')
    exact ⟨hclient, hstaged⟩
  | write hmore hall => exact ⟨hsound.1, hsound.2.put⟩
  | close hall =>
    obtain ⟨hclient, hstaged⟩ := hsound
    rw [partOf_of_le hall] at hstaged
    exact ⟨hclient, _, hstaged⟩
  | stage hstaged =>
    obtain ⟨hclient, hgrown⟩ := hsound
    have hinterim : Interim tree _ config.outputPath none := hgrown
    exact ⟨hclient, hinterim.stage hvacant hstaged⟩
  | refuseOpen fault => exact ⟨none, hsound.2⟩
  | refuseWrite fault => exact ⟨some _, _, hsound.2⟩
  | move hinstalled =>
    obtain ⟨hclient, hinterim⟩ := hsound
    exact ⟨hclient, hinterim.install hvacant hunlinked.direct hinstalled⟩
  | refuseMove fault => exact ⟨_, hsound.2⟩
  | remove hremoved =>
    obtain ⟨staged, hinterim⟩ := hsound
    exact ⟨none, hinterim.remove hvacant hremoved⟩
  | refuseRemove reason => exact hsound

theorem Runs.sound (hvacant : tree.Vacant (stagingPath config.outputPath))
    (hunlinked : tree.Unlinked config.outputPath)
    (hruns : Runs config template ⟨tree, .begun⟩ deeds moment) :
    moment.progress.Sound config template tree moment.tree := by
  induction hruns with
  | refl => exact rfl
  | step hruns hstep ih => exact hstep.sound hvacant hunlinked hruns.tracks.within ih

/-! ## The output at every moment -/

/-- Until a cycle has succeeded, the output is what it was. -/
theorem Progress.Sound.intact {progress : Progress} (hunlinked : tree.Unlinked config.outputPath)
    (hsound : progress.Sound config template tree now) (hnone : progress.installed? = none) :
    Intact tree now config.outputPath := by
  have hinterim : ∃ staged, Interim tree now config.outputPath staged := by
    cases progress with
    | begun =>
      obtain rfl : now = tree := hsound
      exact ⟨none, Output.grown_refl now config.outputPath⟩
    | preparing client around missing => exact ⟨none, hsound.2⟩
    | writing client location count => exact ⟨some _, location, hsound.2⟩
    | installing client => exact ⟨_, hsound.2⟩
    | discarding fault => exact hsound
    | ended result =>
      cases result with
      | error error => exact hsound
      | ok client => cases hnone
  obtain ⟨staged, hstaged⟩ := hinterim
  exact hstaged.intact hunlinked

/-- **The output is whole at every moment** of a cycle that begins with nothing at the staging path
and no link in the place of the output, whichever of its requests are refused, however the staging
file is written, and wherever the cycle ends for ever: it is what it was until the staging file is
moved, and the whole text of the client from then on. A cycle that is not disturbed is among these
runs. -/
theorem output_whole_at_every_moment (config : Config) (template : Template) (tree : Tree)
    (hvacant : tree.Vacant (stagingPath config.outputPath))
    (hunlinked : tree.Unlinked config.outputPath) :
    (∃ deeds, Runs config template ⟨tree, .begun⟩ deeds
      ⟨(cycle config template tree).value.1, .ended (cycle config template tree).value.2⟩) ∧
    ∀ deeds moment, Runs config template ⟨tree, .begun⟩ deeds moment →
      ((∀ client, .move client ∉ deeds) → Intact tree moment.tree config.outputPath) ∧
      ∀ client, .move client ∈ deeds →
        moment.tree.readText config.outputPath = .ok client.sourceText ∧
        moment.progress = .ended (.ok client) ∧
        ∃ text, tree.readText config.inputPath = .ok text ∧
          (Client.render template text config.className).value = .ok client := by
  refine ⟨runs_cycle config template tree, fun deeds moment hruns => ?_⟩
  have hsound := hruns.sound hvacant hunlinked
  constructor
  · intro hnot
    refine hsound.intact hunlinked ?_
    rw [Option.eq_none_iff_forall_ne_some]
    intro client hinstalled
    exact hnot client (hruns.tracks.move_mem_iff.mpr
      (Progress.installed?_eq_some_iff.mp hinstalled))
  · intro client hmem
    have hended := hruns.tracks.move_mem_iff.mp hmem
    rw [hended] at hsound
    obtain ⟨hclient, hinstalled⟩ := hsound
    exact ⟨hinstalled.read, hended, rendered_eq_ok_iff.mp hclient⟩

/-! ## Cycles that end in between -/

/-- Behind reading, the directories of the output are made. -/
theorem step_read_plain {template : Template} {client : Client} (others : List (String × Entry))
    (outputPath : String)
    (hrender : (Client.render template plainText "ApiClient").value = .ok client) :
    Step (.ofPaths "api.json" outputPath) template ⟨plainTree others, .begun⟩
      (.read (.ok plainText))
      ⟨plainTree others, .preparing client (Output.directories outputPath) []⟩ := by
  have hrendered : rendered (.ofPaths "api.json" outputPath) template (.ok plainText) =
      .ok client := rendered_eq_ok_iff.mpr ⟨plainText, rfl, hrender⟩
  have hstep : Step (.ofPaths "api.json" outputPath) template ⟨plainTree others, .begun⟩
      (.read (.ok plainText)) ⟨plainTree others, .ofRendered (.ofPaths "api.json" outputPath)
        (rendered (.ofPaths "api.json" outputPath) template (.ok plainText))⟩ :=
    .read (.inl (readText_input others).symm)
  rwa [hrendered] at hstep

theorem directories_plain : Output.directories "client.js" = [] := by
  decide

/-- The staging file when two bytes have been written. -/
def halfTree : Tree :=
  tidyTree.put ["work", "client.js.fetchgen-tmp"] (.file (.text "ne"))

theorem runs_half :
    ∃ deeds, Runs (.ofPaths "api.json" "client.js") plainTemplate ⟨tidyTree, .begun⟩ deeds
      ⟨halfTree, .writing ⟨"ApiClient", "new"⟩ ["work", "client.js.fetchgen-tmp"] 2⟩ := by
  have hstaging : LeadsToName tidyTree (stagingPath "client.js") ["work"] "client.js.fetchgen-tmp"
      false := leadsToName_clientStaging rfl rfl
  have hnone : tidyTree.entryAt? (["work"] ++ ["client.js.fetchgen-tmp"]) = none := by decide
  have hlocation := hstaging.writeLocation (by rw [hnone]; simp) (fun _ => by rw [hnone]; simp)
  have hprepared : Runs (.ofPaths "api.json" "client.js") plainTemplate ⟨tidyTree, .begun⟩ _
      ⟨tidyTree, .preparing _ (Output.directories "client.js") []⟩ :=
    .single (step_read_plain _ _ render_plain)
  rw [directories_plain] at hprepared
  have hwritten := (hprepared.step (.open hstaging.noFault hlocation)).step
    (.write (show 0 < 2 by decide) (by decide))
  have hpart : partOf "new" 2 = .text "ne" := by decide
  rw [put_put, hpart] at hwritten
  exact ⟨_, hwritten⟩

/-- The output is still the old one when the staging file is half written, and the new one when
nothing was in the way. -/
theorem output_whole_half_written :
    tidyTree.Vacant (stagingPath "client.js") ∧ tidyTree.Unlinked "client.js" ∧
    (∃ deeds, Runs (.ofPaths "api.json" "client.js") plainTemplate ⟨tidyTree, .begun⟩ deeds
      ⟨halfTree, .writing ⟨"ApiClient", "new"⟩ ["work", "client.js.fetchgen-tmp"] 2⟩) ∧
    halfTree.readText "client.js" = .ok "old" ∧
    ∃ deeds after, Runs (.ofPaths "api.json" "client.js") plainTemplate ⟨tidyTree, .begun⟩ deeds
      ⟨after, .ended (.ok ⟨"ApiClient", "new"⟩)⟩ ∧ after.readText "client.js" = .ok "new" := by
  have houtput : LeadsToName tidyTree "client.js" ["work"] "client.js" false :=
    leadsToName_client rfl rfl
  have hstaging : LeadsToName tidyTree (stagingPath "client.js") ["work"] "client.js.fetchgen-tmp"
      false := leadsToName_clientStaging rfl rfl
  have hvacant : tidyTree.Vacant (stagingPath "client.js") := hstaging.vacant rfl
  have hunlinked : tidyTree.Unlinked "client.js" := houtput.unlinked (by rintro _ ⟨⟩)
  obtain ⟨⟨deeds, hcycle⟩, hmoments⟩ :=
    output_whole_at_every_moment (.ofPaths "api.json" "client.js") plainTemplate tidyTree hvacant
      hunlinked
  refine ⟨hvacant, hunlinked, runs_half, ?_, deeds, ?_⟩
  · obtain ⟨deeds, hhalf⟩ := runs_half
    have hintact := (hmoments deeds _ hhalf).1 fun client hmem => by
      cases hhalf.tracks.move_mem_iff.mp hmem
    have hold : tidyTree.readText "client.js" = .ok "old" := houtput.readText_eq_ok rfl
    exact readText_eq_ok_iff.mpr (hintact.read _ (readText_eq_ok_iff.mp hold))
  · have hread : tidyTree.readText "api.json" = .ok plainText := readText_input _
    have hvalue := value_cycle_plain "client.js" hread
    rw [Output.replace_eq_ok "new" (prepare_plain tidyTree) houtput (by decide) hstaging
      (by decide)] at hvalue
    rw [hvalue] at hcycle
    exact ⟨_, hcycle, ((hmoments deeds _ hcycle).2 _ (hcycle.tracks.move_mem_iff.mpr rfl)).1⟩

/-! ## Outputs behind a missing directory -/

/-- The tree in which the directory on the way to the output was made. -/
def tidyTreeWithNew : Tree :=
  tidyTree.put ["work", "new"] .directory

/-- The output is a link to itself when the directory on the way to it was made. -/
def hiddenLoopTreeAfter : Tree :=
  (((loopTree.put ["work", "new"] .directory).put ["work", "client.js"] (.file (.text "new"))).erase
    ["work", "client.js.fetchgen-tmp"]).put ["work", "client.js"] (.link "client.js")

/-- Nothing is read behind a directory that is missing. -/
theorem readText_new {others : List (String × Entry)}
    (hnone : (plainTree others).entryAt? ["work", "new"] = none) :
    (plainTree others).readText "new/../client.js" = .error .notFound :=
  readText_eq_error (by decide)
    (show Route.ofText "new/../client.js" = ⟨false, ["new", "..", "client.js"], false⟩
      by decide)
    (walk_missing rfl (by decide) rfl hnone)

theorem readText_stagingPath_new {others : List (String × Entry)}
    (hnone : (plainTree others).entryAt? ["work", "new"] = none) :
    (plainTree others).readText (stagingPath "new/../client.js") = .error .notFound :=
  readText_eq_error (by decide)
    (show Route.ofText (stagingPath "new/../client.js") =
        ⟨false, ["new", "..", "client.js.fetchgen-tmp"], false⟩ by decide)
    (walk_missing rfl (by decide) rfl hnone)

theorem leadsToName_new (others : List (String × Entry)) :
    LeadsToName ((plainTree others).put ["work", "new"] .directory) "new/../client.js" ["work"]
      "client.js" false :=
  leadsToName_of_route ["new", ".."] (by decide) (by decide) rfl (by decide)
    (leads_new others) rfl

theorem leadsToName_stagingPath_new (others : List (String × Entry)) :
    LeadsToName ((plainTree others).put ["work", "new"] .directory)
      (stagingPath "new/../client.js") ["work"] "client.js.fetchgen-tmp" false :=
  leadsToName_of_route ["new", ".."] (by decide) (by decide) rfl (by decide)
    (leads_new others) rfl

theorem value_cycle_hiddenLoop :
    (cycle (.ofPaths "api.json" "new/../client.js") plainTemplate loopTree).value =
      (hiddenLoopTreeAfter, .ok ⟨"ApiClient", "new"⟩) := by
  have hprepare : Output.prepare loopTree "new/../client.js" =
      (loopTree.put ["work", "new"] .directory, .ok ()) := prepare_new _ (by decide) rfl
  have hstaging : LeadsToName (loopTree.put ["work", "new"] .directory)
      (stagingPath "new/../client.js") ["work"] "client.js.fetchgen-tmp" false :=
    leadsToName_stagingPath_new _
  have hlink : (loopTree.put ["work", "new"] .directory).entryAt?
      (["work"] ++ ["client.js.fetchgen-tmp"]) = some (.link "client.js") := rfl
  have hfile : (loopTree.put ["work", "new"] .directory).entryAt? (["work"] ++ ["client.js"]) =
      some (.file (.text "old")) := rfl
  obtain ⟨left, hlocation⟩ := hstaging.writeLocation_of_link ["new", ".."]
    (by decide) (leads_new _) hlink (by decide)
  have hwritten := hlocation.trans (writeLocation_of_name (spotFrom_name route_client rfl rfl left)
    (by decide) (by rw [hfile]; simp) (fun _ => by rw [hfile]; simp))
  have hread : loopTree.readText "api.json" = .ok plainText := readText_input _
  rw [value_cycle_plain _ hread, Output.replace_eq_of_link hprepare hstaging hlink hwritten
    (leadsToName_new _) (by rw [hfile]; simp)]
  rfl

theorem readText_hiddenLoop :
    hiddenLoopTreeAfter.readText "new/../client.js" = .error .tooManyLinks := by
  have hroute : Route.ofText "new/../client.js" = ⟨false, ["new", "..", "client.js"], false⟩ := by
    decide
  have hleads : Leads hiddenLoopTreeAfter maxLinks ["work"] ["new", ".."] ["work"] :=
    .enter rfl rfl (by decide) (show _ = some .directory from rfl) (by simp)
      (.leave rfl (.done _ _))
  obtain ⟨left, hwalk⟩ := hleads.walk_append
  have hlast := walk_loop route_client rfl (by decide) rfl
    (show hiddenLoopTreeAfter.entryAt? ["work"] = some .directory from rfl)
    (show hiddenLoopTreeAfter.entryAt? (["work"] ++ ["client.js"]) = some (.link "client.js")
      from rfl) left
  exact readText_eq_error (by decide) hroute ((hwalk ["client.js"]).trans hlast)

/-- Where the directory of the output is missing, a file behind it may be read when it has been
made, even if the cycle ends in between. A link at the staging path may be behind it too, and then a
cycle succeeds and leaves an output that cannot be read. -/
theorem interrupted_cycle_uncovers_output :
    (tidyTree.Vacant (stagingPath "new/../client.js") ∧ tidyTree.Unlinked "new/../client.js" ∧
      tidyTree.readText "new/../client.js" = .error .notFound ∧
      (∃ deeds, Runs (.ofPaths "api.json" "new/../client.js") plainTemplate ⟨tidyTree, .begun⟩ deeds
        ⟨tidyTreeWithNew,
          .failed (.ofPaths "api.json" "new/../client.js") .nameTooLong⟩) ∧
      tidyTreeWithNew.readText "new/../client.js" = .ok "old") ∧
    (loopTree.readText (stagingPath "new/../client.js") = .error .notFound ∧
      loopTree.readText "new/../client.js" = .error .notFound ∧
      (cycle (.ofPaths "api.json" "new/../client.js") plainTemplate loopTree).value.2 =
        .ok ⟨"ApiClient", "new"⟩ ∧
      (cycle (.ofPaths "api.json" "new/../client.js") plainTemplate loopTree).value.1.readText
        "new/../client.js" = .error .tooManyLinks) := by
  have hmore : Extends tidyTree tidyTreeWithNew := Extends.put_directory rfl
  have houtput : LeadsToName tidyTreeWithNew "new/../client.js" ["work"] "client.js" false :=
    leadsToName_new _
  have hstaging : LeadsToName tidyTreeWithNew (stagingPath "new/../client.js") ["work"]
      "client.js.fetchgen-tmp" false := leadsToName_stagingPath_new _
  refine ⟨⟨(vacant_iff_of_extends hmore).mp (hstaging.vacant rfl),
    (unlinked_iff_of_extends hmore).mp (houtput.unlinked (by rintro _ ⟨⟩)),
    readText_new rfl, ?_, houtput.readText_eq_ok rfl⟩,
    readText_stagingPath_new rfl, readText_new rfl, ?_, ?_⟩
  · have hprepare : Output.prepare tidyTree "new/../client.js" = (tidyTreeWithNew, .ok ()) :=
      prepare_new _ (by decide) rfl
    obtain ⟨deeds, hruns⟩ := runs_makeDirectoriesAt (.ofPaths "api.json" "new/../client.js")
      plainTemplate tidyTree ⟨"ApiClient", "new"⟩ (Output.directories "new/../client.js") []
    rw [← Output.prepare_eq_makeDirectoriesAt, hprepare] at hruns
    have hmade := (Runs.single (step_read_plain _ _ render_plain)).trans hruns
    exact ⟨_, (hmade.step (.refuseOpen .nameTooLong)).step (.refuseRemove .nameTooLong)⟩
  · rw [value_cycle_hiddenLoop]
  · rw [value_cycle_hiddenLoop]
    exact readText_hiddenLoop

end FetchClient.Generation
