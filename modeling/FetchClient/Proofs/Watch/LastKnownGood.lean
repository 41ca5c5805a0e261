import FetchClient.Proofs.Generation.Crash
import FetchClient.Proofs.Watch.Steps

/-!
# The output over a whole session

- `Undisturbed`: whether the output and its staging file were left alone while a session waited;
- `Session.Reaches`: the sessions and files that a first cycle and any number of notifications lead
  to, with the results of all cycles on the way;
- `Session.reaches_of_start`, `Session.Reaches.handleMany`: beginning a session and handling
  notifications lead to such;
- `Session.LastKnownGood`: what holds of them;
- `Session.last_known_good`: the output is the text of the last cycle that succeeded, whatever
  failed after it;
- `Session.session_uncovers_output`: for that, what is behind a missing directory counts too.
-/

namespace FetchClient.Watch

open Files (Tree Location)
open Files.Tree (LeadsToName)
open Generation (cycle plainText plainTree leadsToName_client leadsToName_clientStaging
  readText_input)
open Generation.Output (stagingPath)

/-! ## What happens in between -/

/-- Whether files changed, but neither the output at a path nor its staging file. -/
structure Undisturbed (path : String) (tree found : Tree) : Prop where
  find : ∀ contents, tree.findEntry path = .ok (.file contents) →
    found.findEntry path = .ok (.file contents)
  holds : ∀ contents, found.Holds path contents ↔ tree.Holds path contents
  vacant : tree.Vacant (stagingPath path) → found.Vacant (stagingPath path)
  unlinked : tree.Unlinked path → found.Unlinked path

/-- Nothing is disturbed, whatever else happens, where the paths lead to the same names as before
and the entries there stay. -/
theorem undisturbed_of_leadsToName {tree found : Tree} {path : String} {directory : Location}
    {name stagingName : String} (houtput : LeadsToName tree path directory name false)
    (houtput' : LeadsToName found path directory name false)
    (hstaging' : LeadsToName found (stagingPath path) directory stagingName false)
    (hlink : ∀ target, tree.entryAt? (directory ++ [name]) ≠ some (.link target))
    (hkept : found.entryAt? (directory ++ [name]) = tree.entryAt? (directory ++ [name]))
    (hnone : found.entryAt? (directory ++ [stagingName]) = none) :
    Undisturbed path tree found := by
  have hlink' : ∀ target, found.entryAt? (directory ++ [name]) ≠ some (.link target) := by
    rwa [hkept]
  refine ⟨fun contents hfind => ?_, fun contents => ?_, fun _ => ?_, fun _ => ?_⟩
  · rw [houtput.findEntry_eq_file_iff hlink] at hfind
    rw [houtput'.findEntry_eq_file_iff hlink', hkept, hfind]
  · rw [houtput.holds_iff hlink, houtput'.holds_iff hlink', hkept]
  · exact hstaging'.vacant hnone
  · exact houtput'.unlinked hlink'

/-- Directories that are added disturb nothing. -/
theorem undisturbed_of_extends {tree found : Tree} {path : String}
    (h : Files.Tree.Extends tree found) : Undisturbed path tree found :=
  ⟨fun _ => Files.Tree.findEntry_of_extends h, fun _ => Files.Tree.holds_iff_of_extends h,
   fun hvacant => hvacant.of_extends h, fun hunlinked => hunlinked.of_extends h⟩

namespace Session

/-- The sessions and files that a session on certain files can come to, with the results of all its
cycles so far. Between two notifications others may come, and any files may change but the output
and its staging file. -/
inductive Reaches (config : Config) (template : Template) (first : Tree) :
    List (Except Error Client) → Session → Tree → Prop where
  /-- The first cycle was run, and a watcher is held or not. -/
  | begun (watching : Bool) :
      Reaches config template first [(cycle config (template.after 1) first).value.2]
        { ((ofTemplate config template).runCycle first).value.1 with watching := watching }
        ((ofTemplate config template).runCycle first).value.2
  | arrived {results : List (Except Error Client)} {session : Session} {tree : Tree}
      (hreaches : Reaches config template first results session tree)
      (notifications : List Notification) :
      Reaches config template first results
        { session with queue := session.queue ++ notifications } tree
  | changed {results : List (Except Error Client)} {session : Session} {tree found : Tree}
      (hreaches : Reaches config template first results session tree)
      (hfound : Undisturbed config.outputPath tree found) :
      Reaches config template first results session found
  /-- A notification adds a result if it concerns the input. -/
  | handled {results : List (Except Error Client)} {session : Session} {tree : Tree}
      {notification : Notification} {waiting : List Notification}
      (hreaches : Reaches config template first results session tree)
      (hqueue : session.queue = notification :: waiting) :
      Reaches config template first
        (results ++
          if session.isRelevant notification then
            [(cycle config session.beginCycle.cycleTemplate tree).value.2]
          else [])
        (session.handleNext tree).value.1 (session.handleNext tree).value.2

/-- The last client among results. -/
def lastSettled? (results : List (Except Error Client)) : Option Client :=
  (results.filterMap Except.toOption).getLast?

/-- Whether the output is the text of the last client among the results, and what it was before if
there is none. -/
def OutputIsLast (path : String) (first : Tree) (results : List (Except Error Client))
    (tree : Tree) : Prop :=
  match lastSettled? results with
  | some client => tree.readText path = .ok client.sourceText
  | none =>
    (∀ contents, first.findEntry path = .ok (.file contents) →
      tree.findEntry path = .ok (.file contents)) ∧
    ∀ contents, tree.Holds path contents ↔ first.Holds path contents

/-- Whether a file that is read at a path was read there before, or was there behind directories
that were missing. -/
def FoundBefore (path : String) (first tree : Tree) : Prop :=
  ∀ contents, tree.findEntry path = .ok (.file contents) →
    first.findEntry path = .ok (.file contents) ∨
      (∃ fault, first.findEntry path = .error fault) ∧ first.Holds path contents

/-- The invariant of a session between notifications. -/
structure LastKnownGood (config : Config) (template : Template) (first : Tree)
    (results : List (Except Error Client)) (session : Session) (tree : Tree) : Prop where
  sameConfig : session.config = config
  sameTemplate : session.template = template
  idle : session.phase = .idle
  counted : session.cycles = results.length
  recorded : session.lastOutcome = results.getLast?.map .ofResult
  vacant : tree.Vacant (stagingPath config.outputPath)
  unlinked : tree.Unlinked config.outputPath
  output : OutputIsLast config.outputPath first results tree

variable {config : Config} {template : Template} {first tree found : Tree}
  {results : List (Except Error Client)} {session : Session} {notification : Notification}
  {waiting : List Notification}

/-! ## Runs -/

/-- A session that was started is one behind its first cycle. -/
theorem reaches_of_start [Engine] {watcher left : Watcher}
    (h : (start config watcher first).value = (tree, left, .ok session)) :
    ∃ template, Generation.setUp config first = .ok template ∧
      Reaches config template first [(cycle config (template.after 1) first).value.2] session
        tree := by
  obtain ⟨template, hsetUp, rfl, rfl⟩ := exists_of_start h
  exact ⟨template, hsetUp, .begun true⟩

/-- However many notifications are handled, the results of the cycles are added to those before. -/
theorem Reaches.handleMany (count : Nat)
    (h : Reaches config template first results session tree) :
    ∃ more, Reaches config template first (results ++ more)
      (session.handleMany count tree).value.1 (session.handleMany count tree).value.2 := by
  induction count generalizing results session tree with
  | zero => exact ⟨[], (List.append_nil results).symm ▸ h⟩
  | succ count ih =>
    show ∃ more, Reaches config template first (results ++ more)
      ((session.handleNext tree).value.1.handleMany count (session.handleNext tree).value.2).value.1
      ((session.handleNext tree).value.1.handleMany count (session.handleNext tree).value.2).value.2
    cases hqueue : session.queue with
    | nil =>
      have hnext : (session.handleNext tree).value = (session, tree) := by
        rw [handleNext, hqueue]
        rfl
      rw [hnext]
      exact ih h
    | cons notification waiting =>
      obtain ⟨more, hmore⟩ := ih (h.handled hqueue)
      exact ⟨_, List.append_assoc .. ▸ hmore⟩

/-! ## Steps -/

theorem OutputIsLast.of_undisturbed {path : String} (h : OutputIsLast path first results tree)
    (hfound : Undisturbed path tree found) : OutputIsLast path first results found := by
  unfold OutputIsLast at h ⊢
  cases hlast : lastSettled? results with
  | some client =>
    rw [hlast] at h
    exact Files.Tree.readText_eq_ok_iff.mpr (hfound.find _ (Files.Tree.readText_eq_ok_iff.mp h))
  | none =>
    rw [hlast] at h
    obtain ⟨hfind, hholds⟩ := h
    exact ⟨fun contents hfirst => hfound.find contents (hfind contents hfirst),
      fun contents => (hfound.holds contents).trans (hholds contents)⟩

theorem lastSettled?_append_ok (results : List (Except Error Client)) (client : Client) :
    lastSettled? (results ++ [.ok client]) = some client := by
  simp [lastSettled?, Except.toOption]

theorem lastSettled?_append_error (results : List (Except Error Client)) (error : Error) :
    lastSettled? (results ++ [.error error]) = lastSettled? results := by
  simp [lastSettled?, Except.toOption]

/-- What a cycle does to the output, whatever its result. -/
theorem outputIsLast_cycle (config : Config) (template : Template)
    (hvacant : tree.Vacant (stagingPath config.outputPath))
    (hunlinked : tree.Unlinked config.outputPath)
    (h : OutputIsLast config.outputPath first results tree) :
    (cycle config template tree).value.1.Vacant (stagingPath config.outputPath) ∧
      (cycle config template tree).value.1.Unlinked config.outputPath ∧
      OutputIsLast config.outputPath first (results ++ [(cycle config template tree).value.2])
        (cycle config template tree).value.1 := by
  have hspec := Generation.cycle_spec config template hvacant hunlinked
  cases hcycle : (cycle config template tree).value with
  | mk after result =>
    rw [hcycle] at hspec
    cases result with
    | ok client =>
      refine ⟨hspec.vacant, hspec.unlinked, ?_⟩
      rw [OutputIsLast, lastSettled?_append_ok]
      exact hspec.read
    | error error =>
      -- Directories may have been made before the failure, and they disturb nothing.
      have hleft : Undisturbed config.outputPath tree after := undisturbed_of_extends hspec
      refine ⟨hleft.vacant hvacant, hleft.unlinked hunlinked, ?_⟩
      rw [OutputIsLast, lastSettled?_append_error]
      exact h.of_undisturbed hleft

/-- The invariant holds behind the first cycle. -/
theorem lastKnownGood_begun (config : Config) (template : Template) (watching : Bool)
    (hvacant : first.Vacant (stagingPath config.outputPath))
    (hunlinked : first.Unlinked config.outputPath) :
    LastKnownGood config template first [(cycle config (template.after 1) first).value.2]
      { ((ofTemplate config template).runCycle first).value.1 with watching := watching }
      ((ofTemplate config template).runCycle first).value.2 := by
  have hbefore : OutputIsLast config.outputPath first [] first :=
    ⟨fun _ hfind => hfind, fun _ => Iff.rfl⟩
  obtain ⟨hvacant, hunlinked, houtput⟩ :=
    outputIsLast_cycle config (template.after 1) hvacant hunlinked hbefore
  rw [value_runCycle]
  exact ⟨rfl, rfl, rfl, rfl, rfl, hvacant, hunlinked, houtput⟩

theorem LastKnownGood.changed (h : LastKnownGood config template first results session tree)
    (hfound : Undisturbed config.outputPath tree found) :
    LastKnownGood config template first results session found :=
  { h with
    vacant := hfound.vacant h.vacant
    unlinked := hfound.unlinked h.unlinked
    output := h.output.of_undisturbed hfound }

/-- Handling a notification preserves the invariant. -/
theorem LastKnownGood.handled (h : LastKnownGood config template first results session tree)
    (hqueue : session.queue = notification :: waiting) :
    LastKnownGood config template first
      (results ++
        if session.isRelevant notification then
          [(cycle config session.beginCycle.cycleTemplate tree).value.2]
        else [])
      (session.handleNext tree).value.1 (session.handleNext tree).value.2 := by
  cases hrelevant : session.isRelevant notification with
  | false =>
    -- Only the queue has changed, and the invariant does not look at it.
    rw [value_handleNext_of_irrelevant tree h.idle hqueue hrelevant, if_neg (by decide),
      List.append_nil]
    exact { h with }
  | true =>
    obtain ⟨hvacant, hunlinked, houtput⟩ :=
      outputIsLast_cycle config session.beginCycle.cycleTemplate h.vacant h.unlinked h.output
    rw [value_handleNext_of_relevant tree h.idle hqueue hrelevant, if_pos rfl]
    obtain ⟨rfl, rfl⟩ : session.config = config ∧ session.template = template :=
      ⟨h.sameConfig, h.sameTemplate⟩
    refine ⟨rfl, rfl, rfl, ?_, ?_, hvacant, hunlinked, houtput⟩
    · show session.cycles + 1 = _
      rw [h.counted, List.length_append, List.length_singleton]
    · show some (Outcome.ofResult _) = _
      rw [List.getLast?_concat, Option.map_some]

/-- The invariant holds of everything that a session can come to. -/
theorem Reaches.lastKnownGood (h : Reaches config template first results session tree)
    (hvacant : first.Vacant (stagingPath config.outputPath))
    (hunlinked : first.Unlinked config.outputPath) :
    LastKnownGood config template first results session tree := by
  induction h with
  | begun watching => exact lastKnownGood_begun config template watching hvacant hunlinked
  | arrived _ _ ih => exact { ih with }
  | changed _ hfound ih => exact ih.changed hfound
  | handled _ hqueue ih => exact ih.handled hqueue

/-- What is read where the same files are held was there before. -/
theorem foundBefore_of_holds {path : String}
    (hholds : ∀ contents, tree.Holds path contents ↔ first.Holds path contents) :
    FoundBefore path first tree := by
  intro contents hfind
  have hbefore := (hholds contents).mp (Files.Tree.holds_of_findEntry hfind)
  cases hfirst : first.findEntry path with
  | error fault => exact .inr ⟨⟨fault, rfl⟩, hbefore⟩
  | ok entry =>
    -- What was found at first is still found when directories have been added.
    obtain ⟨more, hmore, hfile⟩ := hbefore
    exact .inl ((Files.Tree.findEntry_of_extends hmore hfirst).symm.trans hfile)

/-- There is a result for the first cycle at least. -/
theorem Reaches.results_ne_nil (h : Reaches config template first results session tree) :
    results ≠ [] := by
  induction h with
  | begun watching => exact List.cons_ne_nil _ _
  | arrived _ _ ih => exact ih
  | changed _ _ ih => exact ih
  | handled _ _ ih => exact List.append_ne_nil_of_left_ne_nil ih _

/-- The count of cycles grows with changes of the input only. -/
theorem cycles_handleNext (tree : Tree) (hphase : session.phase = .idle)
    (hqueue : session.queue = notification :: waiting) :
    (session.handleNext tree).value.1.cycles =
      session.cycles + if session.isRelevant notification then 1 else 0 := by
  cases hrelevant : session.isRelevant notification with
  | false =>
    rw [value_handleNext_of_irrelevant tree hphase hqueue hrelevant]
    rfl
  | true =>
    rw [value_handleNext_of_relevant tree hphase hqueue hrelevant]
    rfl

/-- **Last known good output**: where no staging file is there at first and the output is no link,
not even behind directories that are missing, whatever a session comes to is idle, has run one cycle
for the beginning and one more for every change of the input, and remembers how the last of them
ended. The output is the text of the last cycle that succeeded. If there was none, a file that was
there before the session still is, and one that is there now was there before, though maybe behind
directories that were missing. -/
theorem last_known_good (hvacant : first.Vacant (stagingPath config.outputPath))
    (hunlinked : first.Unlinked config.outputPath)
    (h : Reaches config template first results session tree) :
    session.phase = .idle ∧
    session.cycles = results.length ∧
    (∀ notification waiting, session.queue = notification :: waiting →
      (session.handleNext tree).value.1.cycles =
        session.cycles + if session.isRelevant notification then 1 else 0) ∧
    (∃ last, results.getLast? = some last ∧ session.lastOutcome = some (.ofResult last)) ∧
    (session.isLastKnownGood = true ↔ ∃ client, results.getLast? = some (.ok client)) ∧
    match lastSettled? results with
    | some client => tree.readText config.outputPath = .ok client.sourceText
    | none =>
      (∀ contents, first.findEntry config.outputPath = .ok (.file contents) →
        tree.findEntry config.outputPath = .ok (.file contents)) ∧
      FoundBefore config.outputPath first tree ∧
      ∀ contents, tree.Holds config.outputPath contents ↔
        first.Holds config.outputPath contents := by
  have hgood := h.lastKnownGood hvacant hunlinked
  obtain ⟨last, hlast⟩ : ∃ last, results.getLast? = some last :=
    ⟨_, List.getLast?_eq_some_getLast h.results_ne_nil⟩
  have hrecorded : session.lastOutcome = some (.ofResult last) := by
    rw [hgood.recorded, hlast, Option.map_some]
  refine ⟨hgood.idle, hgood.counted, ?_, ⟨last, hlast, hrecorded⟩, ?_, ?_⟩
  · exact fun notification waiting hqueue => cycles_handleNext tree hgood.idle hqueue
  · rw [isLastKnownGood, hrecorded, hlast]
    cases last <;> simp [Outcome.ofResult]
  · have houtput := hgood.output
    unfold OutputIsLast at houtput
    split at houtput
    · exact houtput
    · exact ⟨houtput.1, foundBefore_of_holds houtput.2, houtput.2⟩

/-! ## A session that fails once -/

def sampleConfig : Config := .ofPaths "api.json" "client.js"

def sampleTemplate : Template := .ofNodes [.text "export {};\n"]

def sampleClient : Client := ⟨"ApiClient", "export {};\n"⟩

/-- A directory with a description and its output. -/
def sampleTreeWithOutput : Tree :=
  (plainTree []).put ["work", "client.js"] (.file (.text sampleClient.sourceText))

/-- The directory with its output, and a description without paths in the place of the first. -/
def sampleTreeChanged : Tree :=
  sampleTreeWithOutput.put ["work", "api.json"] (.file (.text "{}"))

theorem after_sampleTemplate (count : Nat) : sampleTemplate.after count = sampleTemplate :=
  Template.after_ofNodes rfl count

/-- The first description gives a client. -/
theorem value_cycle_sample (count : Nat) :
    (cycle sampleConfig (sampleTemplate.after count) (plainTree [])).value =
      (sampleTreeWithOutput, .ok sampleClient) := by
  have hread : (plainTree []).readText sampleConfig.inputPath = .ok plainText := readText_input []
  have hrender : (Client.render sampleTemplate plainText sampleConfig.className).value =
      .ok sampleClient := by
    decide +kernel
  have hreplace : Generation.Output.replace (plainTree []) sampleConfig.outputPath
      sampleClient.sourceText = _ :=
    Generation.Output.replace_eq_ok sampleClient.sourceText
      (Generation.prepare_plain (plainTree [])) (leadsToName_client rfl rfl) (by decide)
      (leadsToName_clientStaging rfl rfl) (by decide)
  have htree : (((plainTree []).put ["work", "client.js.fetchgen-tmp"]
      (.file (.text sampleClient.sourceText))).erase ["work", "client.js.fetchgen-tmp"]).put
      ["work", "client.js"] (.file (.text sampleClient.sourceText)) = sampleTreeWithOutput := by
    simp [Tree.put, Tree.erase, plainTree, sampleTreeWithOutput]
  simp only [List.cons_append, List.nil_append, htree] at hreplace
  rw [after_sampleTemplate, Generation.value_cycle hread, hrender]
  simp only [hreplace]

/-- The second one gives none. -/
theorem value_cycle_sampleChanged (count : Nat) :
    (cycle sampleConfig (sampleTemplate.after count) sampleTreeChanged).value =
      (sampleTreeChanged, .error (.parse (some "api.json") .missingPaths)) := by
  have hread : sampleTreeChanged.readText sampleConfig.inputPath = .ok "{}" :=
    (Generation.leadsToName_input rfl rfl).readText_eq_ok rfl
  have hrender : (Client.render sampleTemplate "{}" sampleConfig.className).value =
      .error (.parse none .missingPaths) := by
    decide
  rw [after_sampleTemplate, Generation.value_cycle hread, hrender]
  rfl

/-- A change of the input leaves the output alone. -/
theorem undisturbed_sample :
    Undisturbed sampleConfig.outputPath sampleTreeWithOutput sampleTreeChanged :=
  undisturbed_of_leadsToName (leadsToName_client rfl rfl) (leadsToName_client rfl rfl)
    (leadsToName_clientStaging rfl rfl) (by rintro _ ⟨⟩) rfl rfl

/-- A session comes to what its first cycle leaves. -/
theorem reaches_of_cycle {result : Except Error Client}
    (hcycle : (cycle config (template.after 1) first).value = (found, result)) :
    Reaches config template first [result]
      { (ofTemplate config template).recorded result with watching := true } found := by
  have hvalue : ((ofTemplate config template).runCycle first).value =
      ((ofTemplate config template).recorded (cycle config (template.after 1) first).value.2,
        (cycle config (template.after 1) first).value.1) := value_runCycle _ first
  have hbegun : Reaches config template first _ _ _ := .begun true
  rwa [hvalue, hcycle] at hbegun

/-- A session whose second cycle fails. -/
theorem reaches_sample :
    ∃ session tree, Reaches sampleConfig sampleTemplate (plainTree [])
      [.ok sampleClient, .error (.parse (some "api.json") .missingPaths)] session tree := by
  have hchanged := (reaches_of_cycle (value_cycle_sample 1)).changed undisturbed_sample
  have harrived := hchanged.arrived [.change (.modified .data) ["api.json"]]
  have hhandled := harrived.handled rfl
  rw [if_pos (by decide)] at hhandled
  change Reaches _ _ _ (_ ++ [(cycle sampleConfig (sampleTemplate.after 2)
    sampleTreeChanged).value.2]) _ _ at hhandled
  rw [value_cycle_sampleChanged] at hhandled
  exact ⟨_, _, hhandled⟩

/-- After the failure the output is still the first client. -/
theorem last_known_good_after_failure :
    (plainTree []).Vacant (stagingPath "client.js") ∧
    (plainTree []).Unlinked "client.js" ∧
    ∃ session tree,
      Reaches sampleConfig sampleTemplate (plainTree [])
        [.ok sampleClient, .error (.parse (some "api.json") .missingPaths)] session tree ∧
      session.cycles = 2 ∧ session.lastOutcome = some .failed ∧
      tree.readText "client.js" = .ok "export {};\n" := by
  have hvacant : (plainTree []).Vacant (stagingPath "client.js") :=
    (leadsToName_clientStaging rfl rfl).vacant rfl
  have hunlinked : (plainTree []).Unlinked "client.js" :=
    (leadsToName_client rfl rfl).unlinked (by rintro _ ⟨⟩)
  obtain ⟨session, tree, hreaches⟩ := reaches_sample
  obtain ⟨-, hcycles, -, ⟨last, hlast, hrecorded⟩, -, houtput⟩ :=
    last_known_good hvacant hunlinked hreaches
  obtain rfl : Except.error (.parse (some "api.json") .missingPaths) = last := by
    simpa using hlast
  exact ⟨hvacant, hunlinked, session, tree, hreaches, hcycles, hrecorded, houtput⟩

/-! ## Outputs behind a missing directory -/

/-- Where the directory of the output is missing, nothing is read at the output or at its staging
path, whatever is behind it. A first cycle that fails may then show a file that was there, and one
that succeeds may leave an output that cannot be read. -/
theorem session_uncovers_output :
    (Generation.blockedTree.readText (stagingPath "new/../client.js") = .error .notFound ∧
      Generation.blockedTree.readText "new/../client.js" = .error .notFound ∧
      ∃ session tree,
        Reaches (.ofPaths "api.json" "new/../client.js") Generation.plainTemplate
          Generation.blockedTree [.error (.outputWrite "new/../client.js" .isDirectory)]
          session tree ∧
        tree.readText "new/../client.js" = .ok "old") ∧
    (Generation.loopTree.readText (stagingPath "new/../client.js") = .error .notFound ∧
      Generation.loopTree.readText "new/../client.js" = .error .notFound ∧
      ∃ session tree,
        Reaches (.ofPaths "api.json" "new/../client.js") Generation.plainTemplate
          Generation.loopTree [.ok ⟨"ApiClient", "new"⟩] session tree ∧
        session.isLastKnownGood = true ∧
        tree.readText "new/../client.js" = .error .tooManyLinks) := by
  have hblocked := Generation.value_cycle_blocked
  have hloop := Generation.value_cycle_hiddenLoop
  rw [← Generation.after_plainTemplate 1] at hblocked hloop
  have houtput : LeadsToName Generation.blockedTreeWithNew "new/../client.js" ["work"] "client.js"
      false := Generation.leadsToName_new _
  exact ⟨⟨Generation.readText_stagingPath_new rfl, Generation.readText_new rfl, _, _,
      reaches_of_cycle hblocked, houtput.readText_eq_ok rfl⟩,
    Generation.readText_stagingPath_new rfl, Generation.readText_new rfl, _, _,
    reaches_of_cycle hloop, rfl, Generation.readText_hiddenLoop⟩

end Session

end FetchClient.Watch
