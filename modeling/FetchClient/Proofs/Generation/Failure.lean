import FetchClient.Proofs.Generation.Cycle
import FetchClient.Proofs.Generation.Staging
import FetchClient.Proofs.Template.Constancy

/-!
# Cycles that fail

- `Output.Kept`: whether the output is what it was, and no staging file is there;
- `Output.kept_of_prepare`, `Output.kept_of_stage`, `Output.kept_of_install`: so it is whichever step
  of replacing the output fails;
- `Generation.failed_cycle_keeps_output`: a cycle that fails leaves the output as it was.
-/

namespace FetchClient.Generation

open Files Files.Tree

namespace Output

variable {tree left staged : Tree} {path text : String} {contents : Contents} {fault : Fault}

/-- Whether an output that could be read is still what it was, nothing is read in its place that was
not read before, and neither a file nor a link is at the staging path. Where the directory of the
output was missing, a file that was there behind it may be read when the directory has been made.
Nothing is said of an output that is only read through a link that was at the staging path. -/
structure Kept (tree left : Tree) (path : String) : Prop where
  read : ∀ contents, tree.findEntry path = .ok (.file contents) →
    (∀ directory name target, LeadsToName tree (stagingPath path) directory name false →
      tree.entryAt? (directory ++ [name]) = some (.link target) →
      (tree.erase (directory ++ [name])).findEntry path = .ok (.file contents)) →
    left.findEntry path = .ok (.file contents)
  found : ∀ contents, left.findEntry path = .ok (.file contents) →
    tree.findEntry path = .ok (.file contents) ∨
      MissesDirectory tree path ∧ tree.Holds path contents
  free : left.Free (stagingPath path)

/-- What is read after directories were made was read before, or its directory was missing. -/
theorem found_of_prepare {result : Except Fault Unit} (hprepare : prepare tree path = (left, result))
    (hfind : left.findEntry path = .ok (.file contents)) :
    tree.findEntry path = .ok (.file contents) ∨
      MissesDirectory tree path ∧ tree.Holds path contents := by
  by_cases hmissing : MissesDirectory tree path
  · have hextends := extends_prepare tree path
    rw [hprepare] at hextends
    exact .inr ⟨hmissing, left, hextends, hfind⟩
  · rw [prepare_eq hmissing] at hprepare
    obtain ⟨rfl, -⟩ := Prod.mk.inj hprepare
    exact .inl hfind

/-- Where the output can be read, no directory is made for it. -/
theorem prepare_eq_of_findEntry (h : tree.findEntry path = .ok (.file contents)) :
    prepare tree path = (tree, .ok ()) :=
  prepare_eq (not_missesDirectory_of_findEntry h)

/-! ## The steps that may fail -/

theorem kept_of_prepare (h : prepare tree path = (left, .error fault)) : Kept tree left path where
  read contents hread _ := by
    rw [prepare_eq_of_findEntry hread] at h
    cases h
  found contents hfind := found_of_prepare h hfind
  free := (missesDirectory_of_prepare h).free

theorem kept_of_stage (hprepare : prepare tree path = (left, .ok ()))
    (h : stage left path text = .error fault) : Kept tree (discard left path) path where
  read contents hread hkept := by
    rw [prepare_eq_of_findEntry hread] at hprepare
    obtain ⟨rfl, -⟩ := Prod.mk.inj hprepare
    rcases discard_cases tree path with
      ⟨hsame, -⟩ | ⟨directory, name, entry, hstaging, hentry, hfile, hleft⟩
    · rw [hsame]
      exact hread
    · cases entry with
      | directory => exact absurd rfl hfile
      | link target =>
        rw [hleft]
        exact hkept directory name target hstaging hentry
      | file old =>
        -- A file at the staging path could have been written.
        have hstage : stage tree path text = _ :=
          hstaging.write (by simp [hentry]) (by simp [hentry])
        rw [hstage] at h
        cases h
  found contents hfind := found_of_prepare hprepare (findEntry_of_discard hfind)
  free := free_discard left path

/-- Where the output is no directory, the staging file can take its place. -/
theorem Staged.install_ne_error {written directory home : Location} {name outputName : String}
    (h : Staged left staged path text written directory name)
    (houtput : LeadsToName staged path home outputName false)
    (hdirectory : staged.entryAt? (home ++ [outputName]) ≠ some .directory) :
    install staged path ≠ .error fault := by
  obtain ⟨entry, hentry, hfile⟩ := h.exists_entry
  have hinstall : install staged path = _ :=
    (h.leads.of_keepsWays h.ways).rename hentry hfile houtput hdirectory
  rw [hinstall]
  simp

theorem kept_of_install (hprepare : prepare tree path = (left, .ok ()))
    (hstage : stage left path text = .ok staged) (h : install staged path = .error fault) :
    Kept tree (discard staged path) path where
  read contents hread _ := by
    rw [prepare_eq_of_findEntry hread] at hprepare
    obtain ⟨rfl, -⟩ := Prod.mk.inj hprepare
    obtain ⟨written, directory, name, hstaged⟩ := staged_of_stage hstage
    obtain ⟨home, outputName, houtput, hdirectory⟩ := exists_output_of_staging hstaged.leads hread
    refine absurd h (hstaged.install_ne_error (houtput.of_keepsWays hstaged.ways) ?_)
    rw [hstaged.put]
    by_cases hsame : home ++ [outputName] = written
    · rw [hsame, entryAt?_put_self (hsame ▸ location_ne_nil _ _)]
      simp
    · rwa [entryAt?_put_of_ne hsame]
  found contents hfind := by
    have hread := findEntry_of_discard hfind
    obtain ⟨written, directory, name, hstaged⟩ := staged_of_stage hstage
    obtain ⟨home, outputName, houtput, hdirectory⟩ :=
      exists_output_of_staging (hstaged.leads.of_keepsWays hstaged.ways) hread
    exact absurd h (hstaged.install_ne_error houtput hdirectory)
  free := free_discard staged path

/-- Whichever step fails, the output is kept. -/
theorem kept_of_replace (h : replace tree path text = (left, .error fault)) :
    Kept tree left path := by
  unfold replace at h
  cases hprepare : prepare tree path with
  | mk prepared result =>
    cases result with
    | error reason =>
      rw [hprepare] at h
      obtain ⟨rfl, -⟩ := Prod.mk.inj h
      exact kept_of_prepare hprepare
    | ok _ =>
      cases hstage : stage prepared path text with
      | error reason =>
        simp only [hprepare, hstage] at h
        obtain ⟨rfl, -⟩ := Prod.mk.inj h
        exact kept_of_stage hprepare hstage
      | ok staged =>
        cases hinstall : install staged path with
        | error reason =>
          simp only [hprepare, hstage, hinstall] at h
          obtain ⟨rfl, -⟩ := Prod.mk.inj h
          exact kept_of_install hprepare hstage hinstall
        | ok installed =>
          simp only [hprepare, hstage, hinstall] at h
          cases h

end Output

/-! ## Cycles -/

/-- Whether a failure left everything as it was, or, where the output could not be written, the
output. -/
def LeavesAlone (config : Config) (tree : Tree) : Tree × Except Error Client → Prop
  | (_, .ok _) => True
  | (left, .error (.outputWrite path _)) => path = config.outputPath ∧ Output.Kept tree left path
  | (left, .error _) => left = tree

theorem leavesAlone_of_ne {config : Config} {tree : Tree} {error : Error}
    (h : ∀ path fault, error ≠ .outputWrite path fault) :
    LeavesAlone config tree (tree, .error error) := by
  unfold LeavesAlone
  split
  · trivial
  · next heq =>
    cases heq
    exact absurd rfl (h _ _)
  · next heq => exact (Prod.ext_iff.mp heq).1.symm

theorem leavesAlone_cycle (config : Config) (template : Template) (tree : Tree) :
    LeavesAlone config tree (cycle config template tree).value := by
  rcases cycle_cases config template tree with ⟨error, hne, hcycle⟩ | ⟨client, hcycle⟩
  · rw [hcycle]
    exact leavesAlone_of_ne hne
  · rw [hcycle]
    cases hreplace : Output.replace tree config.outputPath client.sourceText with
    | mk after result =>
      cases result with
      | ok _ => trivial
      | error fault => exact ⟨rfl, Output.kept_of_replace hreplace⟩

/-- Before a cycle nothing is written. -/
theorem ne_outputWrite_of_setUp [Engine] {config : Config} {tree : Tree} {error : Error}
    (h : setUp config tree = .error error) (path : String) (fault : Fault) :
    error ≠ .outputWrite path fault := by
  obtain ⟨_, rfl⟩ | ⟨rfl, -⟩ := cases_of_setUp_error h <;> simp

/-- **A cycle that fails leaves the output as it was**, whatever is in the tree, in a single
generation as in a session. -/
theorem failed_cycle_keeps_output [Engine] (config : Config) (template : Template) (tree : Tree) :
    LeavesAlone config tree (cycle config template tree).value ∧
      LeavesAlone config tree (once config tree).value := by
  refine ⟨leavesAlone_cycle config template tree, ?_⟩
  unfold once
  cases hsetUp : setUp config tree with
  | error error => exact leavesAlone_of_ne (ne_outputWrite_of_setUp hsetUp)
  | ok template =>
    have hcycle := leavesAlone_cycle config (template.after 1) tree
    simp only [Logged.value_bind]
    cases hvalue : (cycle config (template.after 1) tree).value with
    | mk after result =>
      rw [hvalue] at hcycle
      cases result <;> exact hcycle

/-! ## Outputs that read differently after a failure -/

def plainTemplate : Template := .ofNodes [.text "new"]

theorem after_plainTemplate (count : Nat) : plainTemplate.after count = plainTemplate :=
  Template.after_ofNodes rfl count

/-- A description with paths, even if there are none. -/
def plainText : String := r#"{"paths": {}}"#

/-- A directory with a description and other entries. -/
def plainTree (others : List (String × Entry)) : Tree :=
  ⟨(["work"], .directory) :: (["work", "api.json"], .file (.text plainText)) ::
    others.map fun other => (["work", other.1], other.2), ["work"]⟩

theorem render_plain :
    (Client.render plainTemplate plainText "ApiClient").value = .ok ⟨"ApiClient", "new"⟩ := by
  decide +kernel

theorem value_cycle_plain {tree : Tree} {inputPath : String} (outputPath : String)
    (hread : tree.readText inputPath = .ok plainText) :
    (cycle (.ofPaths inputPath outputPath) plainTemplate tree).value =
      match Output.replace tree outputPath "new" with
      | (replaced, .ok ()) => (replaced, .ok ⟨"ApiClient", "new"⟩)
      | (left, .error fault) => (left, .error (.outputWrite outputPath fault)) := by
  have hinput : tree.readText (Config.ofPaths inputPath outputPath).inputPath = .ok plainText :=
    hread
  have hclass : (Config.ofPaths inputPath outputPath).className = "ApiClient" := rfl
  rw [value_cycle hinput, hclass, render_plain]
  rfl

/-- A directory is where the staging file of `new/../client.js` would be, and there is no `new`. -/
def blockedTree : Tree :=
  plainTree [("client.js", .file (.text "old")), ("client.js.fetchgen-tmp", .directory)]

/-- A link to a directory is where the staging file of `client.js` would be. -/
def divertedTree : Tree :=
  plainTree [("client.js", .file (.text "old")), ("client.js.fetchgen-tmp", .link "d"),
    ("d", .directory)]

/-- The tree when the directory on the way to the output was made. -/
def blockedTreeWithNew : Tree :=
  blockedTree.put ["work", "new"] .directory

theorem leads_new {links : Nat} (others : List (String × Entry)) :
    Leads ((plainTree others).put ["work", "new"] .directory) links ["work"] ["new", ".."]
      ["work"] :=
  .enter rfl rfl (by decide) (show _ = some .directory from rfl) (by simp)
    (.leave rfl (.done _ _))

theorem makeDirectory_new (others : List (String × Entry))
    (hnew : (plainTree others).entryAt? ["work", "new"] = none) :
    (plainTree others).makeDirectory "new" =
      .ok ((plainTree others).put ["work", "new"] .directory) := by
  have hleads : LeadsToName (plainTree others) "new" ["work"] "new" false :=
    leadsToName_of_route [] (by decide) (by decide) rfl (by decide) (.done _ _) rfl
  have hnone : (plainTree others).entryAt? (["work"] ++ ["new"]) = none := hnew
  simp only [makeDirectory, spot_eq_named_iff.mpr hleads, hnone, bind, Except.bind]
  rfl

theorem isDirectory_new (others : List (String × Entry)) :
    ((plainTree others).put ["work", "new"] .directory).isDirectory "new/.." = true := by
  have hroute : Route.ofText "new/.." = ⟨false, ["new", ".."], false⟩ := by decide
  refine isDirectory_iff.mpr ⟨by decide, ["work"], ?_, rfl⟩
  rw [hroute]
  exact leads_new others

theorem directories_new :
    ancestors ("new/..".length + 1) "new/.." = ["new/..", "new"] := by
  decide

/-- Where `new` is missing on the way to an output, it is made. -/
theorem prepare_new {path : String} (others : List (String × Entry))
    (hparent : Files.Path.parent? path = some "new/..")
    (hnew : (plainTree others).entryAt? ["work", "new"] = none) :
    Output.prepare (plainTree others) path =
      ((plainTree others).put ["work", "new"] .directory, .ok ()) := by
  have hfault : pathFault? "new/.." = none := by decide
  have hroute : Route.ofText "new/.." = ⟨false, ["new", ".."], false⟩ := by decide
  have hmissing : (plainTree others).makeDirectory "new/.." = .error .notFound := by
    have hwalk : (plainTree others).walk maxLinks ["work"] ["new", "..", "."] =
        .error .notFound := walk_missing rfl (by decide) rfl hnew
    have hspot : (plainTree others).spotFrom maxLinks (plainTree others).here
        ⟨false, ["new", ".."], false⟩ = .error .notFound := by
      show ((plainTree others).walk maxLinks ["work"] ["new", "..", "."]).map Spot.directory = _
      rw [hwalk]
      rfl
    simp only [makeDirectory, spot, hfault, hroute, hspot]
    rfl
  have hthere := isDirectory_new others
  simp only [Output.prepare, hparent, makeDirectories, directories_new, makeDirectoriesAt, hmissing,
    makeDirectory_new others hnew, makeDirectory_of_isDirectory hthere, hthere, if_true]
  rfl

theorem leads_blocked :
    Leads blockedTreeWithNew maxLinks blockedTreeWithNew.here ["new", ".."] ["work"] :=
  leads_new _

theorem prepare_blocked :
    Output.prepare blockedTree "new/../client.js" = (blockedTreeWithNew, .ok ()) :=
  prepare_new _ (by decide) rfl

theorem replace_blocked (text : String) :
    Output.replace blockedTree "new/../client.js" text =
      (blockedTreeWithNew, .error .isDirectory) := by
  have hstaging : LeadsToName blockedTreeWithNew (Output.stagingPath "new/../client.js") ["work"]
      "client.js.fetchgen-tmp" false :=
    leadsToName_of_route ["new", ".."] (by decide) (by decide) rfl (by decide)
      leads_blocked rfl
  have hstage : Output.stage blockedTreeWithNew "new/../client.js" text = .error .isDirectory :=
    hstaging.write_of_directory rfl
  simp only [Output.replace, prepare_blocked, hstage, Output.discard_eq (hstaging.free (.inr rfl))]

theorem route_d : Route.ofText "d" = ⟨false, ["d"], false⟩ := by
  decide

/-- Through a link to the directory `d` beside it, and back. -/
theorem leads_link_back {tree : Tree} {name : String} {links : Nat} (hname : isName name = true)
    (hshort : name.utf8ByteSize ≤ maxName) (hwork : tree.entryAt? ["work"] = some .directory)
    (hlink : tree.entryAt? (["work"] ++ [name]) = some (.link "d"))
    (hdirectory : tree.entryAt? (["work"] ++ ["d"]) = some .directory) :
    Leads tree (links + 1) ["work"] [name, ".."] ["work"] := by
  refine .follow hwork hname hshort hlink (by decide) ?_
  rw [route_d]
  exact .enter hwork rfl (by decide) hdirectory (by simp) (.leave hdirectory (.done _ _))

theorem leads_diverted {links : Nat} :
    Leads divertedTree (links + 1) divertedTree.here ["client.js.fetchgen-tmp", ".."] ["work"] :=
  leads_link_back rfl (by decide) rfl rfl rfl

theorem replace_diverted :
    Output.replace divertedTree "client.js.fetchgen-tmp/../client.js" "new" =
      (divertedTree.erase ["work", "client.js.fetchgen-tmp"], .error .isDirectory) := by
  have hprepare : Output.prepare divertedTree "client.js.fetchgen-tmp/../client.js" =
      (divertedTree, .ok ()) := by
    have hparent : Files.Path.parent? "client.js.fetchgen-tmp/../client.js" =
        some "client.js.fetchgen-tmp/.." := by
      decide
    have hroute : Route.ofText "client.js.fetchgen-tmp/.." =
        ⟨false, ["client.js.fetchgen-tmp", ".."], false⟩ := by
      decide
    refine Output.prepare_eq_of_isDirectory hparent
      (isDirectory_iff.mpr ⟨by decide, ["work"], ?_, rfl⟩)
    rw [hroute]
    exact leads_diverted
  have hstaging : LeadsToName divertedTree
      (Output.stagingPath "client.js.fetchgen-tmp/../client.js") ["work"] "client.js.fetchgen-tmp"
      false :=
    leadsToName_of_route ["client.js.fetchgen-tmp", ".."] (by decide) (by decide)
      rfl (by decide) leads_diverted rfl
  have hlink : divertedTree.entryAt? (["work"] ++ ["client.js.fetchgen-tmp"]) = some (.link "d") :=
    rfl
  have hstage : Output.stage divertedTree "client.js.fetchgen-tmp/../client.js" "new" =
      .error .isDirectory := by
    obtain ⟨left, hlocation⟩ := hstaging.writeLocation_of_link
      ["client.js.fetchgen-tmp", ".."] (by decide) leads_diverted hlink
      (by decide)
    have hoccupied : divertedTree.writeLocation left ["work"] (Route.ofText "d") =
        .error .isDirectory :=
      writeLocation_of_directory (spotFrom_name route_d rfl rfl left) (by decide) rfl
    simp [Output.stage, Tree.write, hstaging.noFault, hlocation, hoccupied, bind, Except.bind]
  have hdiscard : Output.discard divertedTree "client.js.fetchgen-tmp/../client.js" =
      divertedTree.erase ["work", "client.js.fetchgen-tmp"] := by
    delta Output.discard
    rw [hstaging.removeFile hlink (by simp)]
    rfl
  simp only [Output.replace, hprepare, hstage, hdiscard]

theorem leadsToName_input (hhere : tree.here = ["work"])
    (hwork : tree.entryAt? ["work"] = some .directory) :
    LeadsToName tree "api.json" ["work"] "api.json" false :=
  leadsToName_of_route [] (by decide) (by decide) rfl (by decide) (hhere ▸ .done _ _) hwork

theorem readText_input (others : List (String × Entry)) :
    (plainTree others).readText "api.json" = .ok plainText :=
  (leadsToName_input rfl rfl).readText_eq_ok rfl

/-- A directory with a description and a template file. -/
def templateTree (text : String) : Tree :=
  plainTree [("client.tera", .file (.text text))]

/-- A configuration that names the template file. -/
def templateConfig : Config :=
  { Config.ofPaths "api.json" "client.js" with templatePath := some "client.tera" }

theorem readText_template (text : String) :
    (templateTree text).readText "client.tera" = .ok text := by
  have hleads : LeadsToName (templateTree text) "client.tera" ["work"] "client.tera" false :=
    leadsToName_of_route [] (by decide) (by decide) rfl (by decide) (.done _ _) rfl
  exact hleads.readText_eq_ok rfl

theorem value_cycle_blocked :
    (cycle (.ofPaths "api.json" "new/../client.js") plainTemplate blockedTree).value =
      (blockedTreeWithNew, .error (.outputWrite "new/../client.js" .isDirectory)) := by
  have hread : blockedTree.readText "api.json" = .ok plainText := readText_input _
  rw [value_cycle_plain _ hread, replace_blocked]

theorem value_cycle_diverted :
    (cycle (.ofPaths "api.json" "client.js.fetchgen-tmp/../client.js") plainTemplate
      divertedTree).value =
      (divertedTree.erase ["work", "client.js.fetchgen-tmp"],
        .error (.outputWrite "client.js.fetchgen-tmp/../client.js" .isDirectory)) := by
  have hread : divertedTree.readText "api.json" = .ok plainText := readText_input _
  rw [value_cycle_plain _ hread, replace_diverted]

/-- A failure may show a file that was behind a missing directory, and it may hide one that was
behind a link in the place of the staging file. -/
theorem failed_cycle_changes_reading :
    (blockedTree.readText "new/../client.js" = .error .notFound ∧
      (cycle (.ofPaths "api.json" "new/../client.js") plainTemplate blockedTree).value.2 =
        .error (.outputWrite "new/../client.js" .isDirectory) ∧
      (cycle (.ofPaths "api.json" "new/../client.js") plainTemplate blockedTree).value.1.readText
        "new/../client.js" = .ok "old") ∧
    (divertedTree.readText "client.js.fetchgen-tmp/../client.js" = .ok "old" ∧
      (cycle (.ofPaths "api.json" "client.js.fetchgen-tmp/../client.js") plainTemplate
        divertedTree).value.2 =
        .error (.outputWrite "client.js.fetchgen-tmp/../client.js" .isDirectory) ∧
      (cycle (.ofPaths "api.json" "client.js.fetchgen-tmp/../client.js") plainTemplate
        divertedTree).value.1.readText "client.js.fetchgen-tmp/../client.js" =
        .error .notFound) := by
  have hfault : pathFault? "new/../client.js" = none := by decide
  have hroute : Route.ofText "new/../client.js" =
      ⟨false, ["new", "..", "client.js"], false⟩ := by
    decide
  have hfault' : pathFault? "client.js.fetchgen-tmp/../client.js" = none := by decide
  have hroute' : Route.ofText "client.js.fetchgen-tmp/../client.js" =
      ⟨false, ["client.js.fetchgen-tmp", "..", "client.js"], false⟩ := by
    decide
  rw [value_cycle_blocked, value_cycle_diverted]
  refine ⟨⟨?_, rfl, ?_⟩, ?_, rfl, ?_⟩
  · exact readText_eq_error hfault hroute (walk_missing rfl (by decide) rfl rfl)
  · have hleads : LeadsToName blockedTreeWithNew "new/../client.js" ["work"] "client.js" false :=
      leadsToName_of_route ["new", ".."] hfault hroute rfl (by decide) leads_blocked rfl
    exact hleads.readText_eq_ok rfl
  · have hleads : LeadsToName divertedTree "client.js.fetchgen-tmp/../client.js" ["work"]
        "client.js" false :=
      leadsToName_of_route ["client.js.fetchgen-tmp", ".."] hfault' hroute' rfl (by decide)
        leads_diverted rfl
    exact hleads.readText_eq_ok rfl
  · exact readText_eq_error hfault' hroute' (walk_missing rfl (by decide) rfl rfl)

end FetchClient.Generation
