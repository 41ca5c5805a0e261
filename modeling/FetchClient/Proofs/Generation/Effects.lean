import FetchClient.Proofs.Generation.Failure

/-!
# What a cycle may change

- `Output.MayChange`: the locations that replacing an output may change, whatever is there;
- `Output.entryAt?_replace`: no other location changes, but for missing directories;
- `Output.readText_of_replace`, `Output.untouched_of_replace`: where neither a file nor a link is at
  the staging path, the output alone is replaced;
- `Generation.cycle_effects`: what a cycle changes, and what it does not;
- `Output.replace_eq_of_link`: where a link is at the staging path, the text is written where it
  leads, and the link becomes the output.
-/

namespace FetchClient.Generation

open Files Files.Tree

variable {tree : Tree} {location : Location}

namespace Output

variable {prepared staged installed : Tree} {path text : String} {directory : Location}

/-! ## The locations of the output and of the staging file -/

/-- Whether a location is the one of the name that a path leads to. -/
def Names (tree : Tree) (path : String) (location : Location) : Prop :=
  ∃ directory name, LeadsToName tree path directory name false ∧ location = directory ++ [name]

/-- Whether replacing an output may change what is at a location: it is that of the output or of the
staging file, or the one where the staging file is written through a link. -/
def MayChange (tree : Tree) (path : String) (location : Location) : Prop :=
  Names tree path location ∨ Names tree (stagingPath path) location ∨
    tree.writeLocation maxLinks tree.here (Route.ofText (stagingPath path)) = .ok location

theorem Names.of_keepsWays (hways : KeepsWays tree prepared) (h : Names tree path location) :
    Names prepared path location := by
  obtain ⟨directory, name, hleads, hlocation⟩ := h
  exact ⟨directory, name, hleads.of_keepsWays hways, hlocation⟩

/-- What has a name after the staging file was written had it before. -/
theorem Names.of_stage {other : String} (hstage : stage tree path text = .ok staged)
    (h : Names staged other location) : Names tree other location := by
  obtain ⟨written, hwritten, rfl⟩ := exists_of_write hstage
  refine h.of_keepsWays (keepsWays_of_put ?_)
  rintro rfl
  exact (writeLocation_spec hwritten).1 rfl

/-! ## Steps -/

theorem entryAt?_stage (h : stage tree path text = .ok staged)
    (hnot : ¬ MayChange tree path location) :
    staged.entryAt? location = tree.entryAt? location := by
  obtain ⟨written, hwritten, rfl⟩ := exists_of_write h
  refine entryAt?_put_of_ne ?_
  rintro rfl
  exact hnot (.inr (.inr hwritten))

theorem entryAt?_discard (hnot : ¬ Names tree (stagingPath path) location) :
    (discard tree path).entryAt? location = tree.entryAt? location := by
  rcases discard_cases tree path with ⟨hsame, -⟩ | ⟨directory, name, entry, hstaging, -, -, hleft⟩
  · rw [hsame]
  · rw [hleft]
    refine entryAt?_erase_of_ne ?_
    rintro rfl
    exact hnot ⟨directory, name, hstaging, rfl⟩

theorem entryAt?_install (h : install tree path = .ok installed)
    (houtput : ¬ Names tree path location) (hstaging : ¬ Names tree (stagingPath path) location) :
    installed.entryAt? location = tree.entryAt? location := by
  obtain ⟨directory, name, entry, home, outputName, hmoved, -, -, hleads, -, rfl⟩ :=
    exists_of_rename h
  have hne : location ≠ home ++ [outputName] := by
    rintro rfl
    exact houtput ⟨home, outputName, hleads, rfl⟩
  have hne' : location ≠ directory ++ [name] := by
    rintro rfl
    exact hstaging ⟨directory, name, hmoved, rfl⟩
  rw [entryAt?_put_of_ne hne, entryAt?_erase_of_ne hne']

/-- When the directory of the output has been made, nothing changes but what may change. -/
theorem entryAt?_replace {result : Except Fault Unit}
    (hprepare : prepare tree path = (prepared, result))
    (hnot : ¬ MayChange prepared path location) :
    (replace tree path text).1.entryAt? location = prepared.entryAt? location := by
  rw [replace, hprepare]
  cases result with
  | error fault => rfl
  | ok _ =>
    cases hstage : stage prepared path text with
    | error fault =>
      simp only [hstage]
      exact entryAt?_discard fun hstaging => hnot (.inr (.inl hstaging))
    | ok staged =>
      have hstaged := entryAt?_stage hstage hnot
      have houtput : ¬ Names staged path location := fun h => hnot (.inl (h.of_stage hstage))
      have hstaging : ¬ Names staged (stagingPath path) location := fun h =>
        hnot (.inr (.inl (h.of_stage hstage)))
      cases hinstall : install staged path with
      | error fault =>
        simp only [hstage, hinstall]
        rw [entryAt?_discard hstaging, hstaged]
      | ok installed =>
        simp only [hstage, hinstall]
        rw [entryAt?_install hinstall houtput hstaging, hstaged]

/-- Whatever is at the staging path, nothing changes but the locations of the output, of the staging
file and of what a link there leads to, and directories that are made. -/
theorem untouched_replace (tree : Tree) (path text : String) (location : Location) :
    Untouched tree (replace tree path text).1 location ∨
      MayChange (prepare tree path).1 path location := by
  have hextends := extends_prepare tree path
  cases hprepare : prepare tree path with
  | mk prepared result =>
    rw [hprepare] at hextends
    by_cases hnot : MayChange prepared path location
    · exact .inr hnot
    · left
      rw [Untouched, entryAt?_replace hprepare hnot]
      exact hextends.untouched location

/-! ## Where no link or nothing is at the staging path -/

theorem readText_of_replace (hunlinked : tree.Unlinked (stagingPath path))
    (hdirect : tree.Direct path) (h : replace tree path text = (installed, .ok ())) :
    installed.readText path = .ok text := by
  obtain ⟨_, _, _, _, hmoved⟩ := moved_of_replace hunlinked h
  have hleads := hmoved.leadsToName (hdirect.of_extends (extends_prepare tree path))
  exact hleads.readText_eq_ok hmoved.entryAt?_output

theorem untouched_of_replace (hvacant : tree.Vacant (stagingPath path))
    (h : replace tree path text = (installed, .ok ())) (location : Location) :
    Untouched tree installed location ∨ Names (prepare tree path).1 path location := by
  have hextends := extends_prepare tree path
  obtain ⟨directory, stagingName, home, name, hmoved⟩ := moved_of_replace hvacant.unlinked h
  by_cases houtput : location = home ++ [name]
  · exact .inr ⟨home, name, hmoved.output, houtput⟩
  · have hsame : installed.entryAt? location = (prepare tree path).1.entryAt? location := by
      by_cases hstaging : location = directory ++ [stagingName]
      · -- Nothing was there before the staging file, and nothing is there after it.
        have hnone := ((hvacant.of_extends hextends).free _ _ _ hmoved.staging).resolve_right
          hmoved.stagingDirectory
        rw [hstaging, hmoved.entryAt?_staging, hnone]
      · exact hmoved.entryAt?_of_ne houtput hstaging
    left
    rw [Untouched, hsame]
    exact hextends.untouched location

/-! ## Where a link is at the staging path -/

/-- Where a link is at the staging path, the text is written where the link leads, and the link
becomes the output. -/
theorem replace_eq_of_link {home written : Location} {stagingName name target : String}
    (hprepare : prepare tree path = (prepared, .ok ()))
    (hstaging : LeadsToName prepared (stagingPath path) directory stagingName false)
    (hlink : prepared.entryAt? (directory ++ [stagingName]) = some (.link target))
    (hwritten : prepared.writeLocation maxLinks prepared.here (Route.ofText (stagingPath path)) =
      .ok written)
    (houtput : LeadsToName prepared path home name false)
    (hdirectory : prepared.entryAt? (home ++ [name]) ≠ some .directory) :
    replace tree path text =
      (((prepared.put written (.file (.text text))).erase (directory ++ [stagingName])).put
        (home ++ [name]) (.link target), .ok ()) := by
  obtain ⟨hwrittenDirectory, hwrittenLink⟩ := writeLocation_spec hwritten
  have hways : KeepsWays prepared (prepared.put written (.file (.text text))) :=
    keepsWays_put hwrittenDirectory hwrittenLink
  have hstage : stage prepared path text = .ok (prepared.put written (.file (.text text))) :=
    write_of_writeLocation hstaging.noFault hwritten
  have hfree : (prepared.put written (.file (.text text))).entryAt? (home ++ [name]) ≠
      some .directory := by
    by_cases hsame : home ++ [name] = written
    · rw [hsame, entryAt?_put_self (hsame ▸ location_ne_nil _ _)]
      simp
    · rwa [entryAt?_put_of_ne hsame]
  have hinstall : install (prepared.put written (.file (.text text))) path = _ :=
    (hstaging.of_keepsWays hways).rename (hways.link _ _ hlink) (by simp)
      (houtput.of_keepsWays hways) hfree
  simp only [replace, hprepare, hstage, hinstall]

end Output

/-- **A cycle changes nothing but its output**: whatever is in the tree, only the output, the
staging file, what a link at the staging path leads to and missing directories may change. Where
neither a file nor a link is at the staging path, a cycle that succeeds changes the output only, and
one that fails nothing. Where no link is there, and the output does not need a link in its own place,
a cycle that succeeds leaves the text of its client in the output. -/
theorem cycle_effects (config : Config) (template : Template) (tree : Tree) :
    (∀ location, Untouched tree (cycle config template tree).value.1 location ∨
      Output.MayChange (Output.prepare tree config.outputPath).1 config.outputPath location) ∧
    match (cycle config template tree).value with
    | (after, .ok client) =>
      (tree.Unlinked (Output.stagingPath config.outputPath) → tree.Direct config.outputPath →
        after.readText config.outputPath = .ok client.sourceText) ∧
      (tree.Vacant (Output.stagingPath config.outputPath) → ∀ location,
        Untouched tree after location ∨
          Output.Names (Output.prepare tree config.outputPath).1 config.outputPath location)
    | (after, .error _) =>
      tree.Vacant (Output.stagingPath config.outputPath) → ∀ location,
        Untouched tree after location := by
  rcases cycle_cases config template tree with ⟨error, -, hcycle⟩ | ⟨client, hcycle⟩
  · rw [hcycle]
    exact ⟨fun location => .inl (.inl rfl), fun _ location => .inl rfl⟩
  · rw [hcycle]
    have huntouched := Output.untouched_replace tree config.outputPath client.sourceText
    cases hreplace : Output.replace tree config.outputPath client.sourceText with
    | mk after result =>
      rw [hreplace] at huntouched
      cases result with
      | ok _ =>
        exact ⟨huntouched,
          fun hunlinked hdirect => Output.readText_of_replace hunlinked hdirect hreplace,
          fun hvacant => Output.untouched_of_replace hvacant hreplace⟩
      | error fault =>
        exact ⟨huntouched, fun hvacant location =>
          (Output.extends_of_replace hvacant hreplace).untouched location⟩

/-! ## A staging path that is free -/

/-- A directory with an output and no staging file. -/
def tidyTree : Tree :=
  plainTree [("client.js", .file (.text "old"))]

theorem prepare_plain (tree : Tree) : Output.prepare tree "client.js" = (tree, .ok ()) := by
  have hparent : Files.Path.parent? "client.js" = some "" := by decide
  simp [Output.prepare, hparent]

theorem route_client : Route.ofText "client.js" = ⟨false, ["client.js"], false⟩ := by
  decide

theorem leadsToName_client (hhere : tree.here = ["work"])
    (hwork : tree.entryAt? ["work"] = some .directory) :
    LeadsToName tree "client.js" ["work"] "client.js" false :=
  leadsToName_of_route [] (by decide) (by decide) rfl (by decide)
    (hhere ▸ .done _ _) hwork

theorem leadsToName_clientStaging (hhere : tree.here = ["work"])
    (hwork : tree.entryAt? ["work"] = some .directory) :
    LeadsToName tree (Output.stagingPath "client.js") ["work"] "client.js.fetchgen-tmp" false :=
  leadsToName_of_route [] (by decide) (by decide) rfl (by decide)
    (hhere ▸ .done _ _) hwork

/-- The output of the directory is replaced, and nothing else changes. -/
theorem cycle_effects_tidy :
    tidyTree.Vacant (Output.stagingPath "client.js") ∧ tidyTree.Direct "client.js" ∧
    ∃ after, (cycle (.ofPaths "api.json" "client.js") plainTemplate tidyTree).value =
        (after, .ok ⟨"ApiClient", "new"⟩) ∧
      after.readText "client.js" = .ok "new" ∧
      ∀ location, Untouched tidyTree after location ∨ location = ["work", "client.js"] := by
  have houtput : LeadsToName tidyTree "client.js" ["work"] "client.js" false :=
    leadsToName_client rfl rfl
  have hstaging : LeadsToName tidyTree (Output.stagingPath "client.js") ["work"]
      "client.js.fetchgen-tmp" false := leadsToName_clientStaging rfl rfl
  have hvacant : tidyTree.Vacant (Output.stagingPath "client.js") := hstaging.vacant rfl
  have hdirect : tidyTree.Direct "client.js" :=
    (houtput.unlinked (by rintro _ ⟨⟩)).direct
  have hread : tidyTree.readText "api.json" = .ok plainText := readText_input _
  have hreplace := Output.replace_eq_ok "new" (prepare_plain tidyTree) houtput (by decide) hstaging
    (by decide)
  have hcycle := value_cycle_plain "client.js" hread
  rw [hreplace] at hcycle
  have heffects := cycle_effects (.ofPaths "api.json" "client.js") plainTemplate tidyTree
  rw [hcycle] at heffects
  obtain ⟨-, hwritten, huntouched⟩ := heffects
  refine ⟨hvacant, hdirect, _, hcycle, hwritten hvacant.unlinked hdirect, fun location => ?_⟩
  refine (huntouched hvacant location).imp_right ?_
  rintro ⟨directory, name, hleads, rfl⟩
  change LeadsToName (Output.prepare tidyTree "client.js").1 "client.js" directory name false
    at hleads
  rw [prepare_plain] at hleads
  obtain ⟨rfl, rfl, -⟩ := houtput.unique hleads
  rfl

/-! ## Staging paths that are taken -/

/-- A link to the output is where its staging file would be. -/
def loopTree : Tree :=
  plainTree [("client.js", .file (.text "old")), ("client.js.fetchgen-tmp", .link "client.js")]

/-- A link to some notes is where the staging file would be. -/
def notesTree : Tree :=
  plainTree [("notes.txt", .file (.text "old")), ("client.js.fetchgen-tmp", .link "notes.txt")]

/-- A cycle in a directory where a link to a file of it is at the staging path. -/
theorem value_cycle_link {others : List (String × Entry)} {target : String} {contents : Contents}
    (hroute : Route.ofText target = ⟨false, [target], false⟩) (hname : isName target = true)
    (hshort : target.utf8ByteSize ≤ maxName) (htarget : target.isEmpty = false)
    (hlink : (plainTree others).entryAt? (["work"] ++ ["client.js.fetchgen-tmp"]) =
      some (.link target))
    (hfile : (plainTree others).entryAt? (["work"] ++ [target]) = some (.file contents))
    (houtput : (plainTree others).entryAt? (["work"] ++ ["client.js"]) ≠ some .directory) :
    (cycle (.ofPaths "api.json" "client.js") plainTemplate (plainTree others)).value =
      ((((plainTree others).put ["work", target] (.file (.text "new"))).erase
        ["work", "client.js.fetchgen-tmp"]).put ["work", "client.js"] (.link target),
        .ok ⟨"ApiClient", "new"⟩) := by
  have hstaging : LeadsToName (plainTree others) (Output.stagingPath "client.js") ["work"]
      "client.js.fetchgen-tmp" false := leadsToName_clientStaging rfl rfl
  have hwritten : (plainTree others).writeLocation maxLinks (plainTree others).here
      (Route.ofText (Output.stagingPath "client.js")) = .ok (["work"] ++ [target]) := by
    obtain ⟨left, hlocation⟩ := hstaging.writeLocation_of_link [] (by decide) (.done _ _)
      hlink htarget
    exact hlocation.trans (writeLocation_of_name (spotFrom_name hroute hname rfl left) hshort
      (by rw [hfile]; simp) (fun _ => by rw [hfile]; simp))
  rw [value_cycle_plain _ (readText_input others),
    Output.replace_eq_of_link (prepare_plain _) hstaging hlink hwritten (leadsToName_client rfl rfl)
      houtput]
  rfl

/-- A link to itself leads nowhere. -/
theorem walk_loop {name : String} (hroute : Route.ofText name = ⟨false, [name], false⟩)
    (hname : isName name = true) (hshort : name.utf8ByteSize ≤ maxName)
    (hne : name.isEmpty = false) (hdirectory : tree.entryAt? location = some .directory)
    (hlink : tree.entryAt? (location ++ [name]) = some (.link name)) (links : Nat) :
    tree.walk links location [name] = .error .tooManyLinks := by
  obtain ⟨hdot, hdots⟩ := isName_iff.mp hname
  induction links with
  | zero =>
    rw [walk, if_neg (not_not.mpr hdirectory), if_neg hdot, if_neg hdots,
      if_neg (Nat.not_lt.mpr hshort), hlink]
  | succ links ih =>
    rw [walk, if_neg (not_not.mpr hdirectory), if_neg hdot, if_neg hdots,
      if_neg (Nat.not_lt.mpr hshort), hlink]
    simp only [hroute, hne]
    exact ih

/-- The output is a link to itself after the cycle. -/
def loopTreeAfter : Tree :=
  ((loopTree.put ["work", "client.js"] (.file (.text "new"))).erase
    ["work", "client.js.fetchgen-tmp"]).put ["work", "client.js"] (.link "client.js")

/-- The notes are overwritten after the cycle, and the output is a link to them. -/
def notesTreeAfter : Tree :=
  ((notesTree.put ["work", "notes.txt"] (.file (.text "new"))).erase
    ["work", "client.js.fetchgen-tmp"]).put ["work", "client.js"] (.link "notes.txt")

theorem value_cycle_loop :
    (cycle (.ofPaths "api.json" "client.js") plainTemplate loopTree).value =
      (loopTreeAfter, .ok ⟨"ApiClient", "new"⟩) :=
  value_cycle_link (by decide) rfl (by decide) rfl rfl rfl (by decide)

theorem value_cycle_notes :
    (cycle (.ofPaths "api.json" "client.js") plainTemplate notesTree).value =
      (notesTreeAfter, .ok ⟨"ApiClient", "new"⟩) :=
  value_cycle_link (by decide) rfl (by decide) rfl rfl rfl (by decide)

/-- A cycle may succeed and leave an output that cannot be read, and it may overwrite a file that is
not its output. -/
theorem cycle_writes_through_link :
    ((cycle (.ofPaths "api.json" "client.js") plainTemplate loopTree).value.2 =
        .ok ⟨"ApiClient", "new"⟩ ∧
      (cycle (.ofPaths "api.json" "client.js") plainTemplate loopTree).value.1.readText
        "client.js" = .error .tooManyLinks) ∧
    (notesTree.readText "notes.txt" = .ok "old" ∧
      (cycle (.ofPaths "api.json" "client.js") plainTemplate notesTree).value.1.readText
        "notes.txt" = .ok "new") := by
  have hnotes : ∀ tree : Tree, tree.here = ["work"] → tree.entryAt? ["work"] = some .directory →
      LeadsToName tree "notes.txt" ["work"] "notes.txt" false := fun tree hhere hwork =>
    leadsToName_of_route [] (by decide) (by decide) rfl (by decide)
      (hhere ▸ .done _ _) hwork
  rw [value_cycle_loop, value_cycle_notes]
  refine ⟨⟨rfl, ?_⟩, ?_, ?_⟩
  · have hfault : pathFault? "client.js" = none := by decide
    have hlink : loopTreeAfter.entryAt? (["work"] ++ ["client.js"]) = some (.link "client.js") :=
      rfl
    exact readText_eq_error hfault route_client
      (walk_loop route_client rfl (by decide) rfl rfl hlink maxLinks)
  · exact (hnotes notesTree rfl rfl).readText_eq_ok rfl
  · exact (hnotes notesTreeAfter rfl rfl).readText_eq_ok rfl

end FetchClient.Generation
