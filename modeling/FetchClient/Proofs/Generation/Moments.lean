import FetchClient.Proofs.Generation.Cycle
import FetchClient.Proofs.Generation.Staging

/-!
# A cycle step by step

A cycle makes one request to the file system after the other. Each of them may be refused without
any effect, be it for what is in the tree or for another reason, and behind each of them the cycle
may end for ever, with whatever is in the tree at that moment.

- `Progress`, `Moment`: how far a cycle is, and what is in the tree then;
- `Deed`, `Step`: what a cycle may do next, and what becomes of the moment;
- `Runs`: any number of steps;
- `runs_makeDirectoriesAt`, `runs_stage`, `runs_cycle`: what the requests of a cycle do together
  when none of them is disturbed;
- `Tracks`: what a cycle has done, whatever became of the files in between;
- `Tracks.move_mem_iff`, `Tracks.within`, `Tracks.rendered_eq`: it succeeds when it moves the
  staging file, makes directories of its output only, and has one client.
-/

namespace FetchClient.Generation

open Files Files.Tree
open Output (stagingPath)

variable {config : Config} {template : Template} {tree staged : Tree} {client : Client}
  {around missing rest : List String} {path : String}

/-! ## Parts of a cycle -/

/-- What a file holds when so many bytes of a text have been written to it. A character may be cut
in two. -/
def partOf (text : String) (count : Nat) : Contents :=
  match String.fromUTF8? (text.toByteArray.extract 0 count) with
  | some part => .text part
  | none => .bytes

theorem fromUTF8?_toByteArray (text : String) : String.fromUTF8? text.toByteArray = some text := by
  unfold String.fromUTF8?
  rw [dif_pos text.isValidUTF8]
  rfl

theorem partOf_of_le {text : String} {count : Nat} (h : text.utf8ByteSize ≤ count) :
    partOf text count = .text text := by
  have hall : text.toByteArray.extract 0 count = text.toByteArray := by
    rw [ByteArray.ext_iff, ByteArray.data_extract, Array.extract_eq_self_of_le]
    exact h
  rw [partOf, hall, fromUTF8?_toByteArray]

/-- The directories that may have to be made for an output, the innermost first. -/
def Output.directories (path : String) : List String :=
  match Files.Path.parent? path with
  | some parent => if parent.isEmpty then [] else ancestors (parent.length + 1) parent
  | none => []

theorem Output.prepare_eq_makeDirectoriesAt (tree : Tree) (path : String) :
    prepare tree path = tree.makeDirectoriesAt (directories path) := by
  unfold prepare directories
  cases Files.Path.parent? path with
  | none => rfl
  | some parent =>
    by_cases hempty : parent.isEmpty = true
    · simp only [hempty, if_true]
      rfl
    · simp only [hempty, Bool.false_eq_true, if_false]
      rfl

/-- The client of what was read. -/
def rendered (config : Config) (template : Template) (reading : Except Fault String) :
    Except Error Client :=
  match described config reading with
  | .error error => .error error
  | .ok description => (Client.emit template description.value config.className).value

/-- Behind reading and rendering a cycle replaces the output, or ends. -/
theorem value_conclude_rendered (config : Config) (template : Template)
    (reading : Except Fault String) (tree : Tree) :
    (conclude config template reading tree).value =
      match rendered config template reading with
      | .error error => (tree, .error error)
      | .ok client =>
        match Output.replace tree config.outputPath client.sourceText with
        | (replaced, .ok ()) => (replaced, .ok client)
        | (left, .error fault) => (left, .error (.outputWrite config.outputPath fault)) := by
  unfold conclude rendered
  cases described config reading with
  | error error => rfl
  | ok description =>
    simp only [Logged.value_bind]
    cases (Client.emit template description.value config.className).value with
    | error error => rfl
    | ok client =>
      cases hreplace : Output.replace tree config.outputPath client.sourceText with
      | mk after result => cases result <;> simp only [hreplace, Logged.value_pure]

/-! ## Moments -/

/-- How far a cycle is. -/
inductive Progress where
  /-- Nothing was read yet. -/
  | begun
  /-- Directories are made. The first of `around` is made next, and what stands behind it are the
  directories around it. Those that are `missing` are made when the directories around them are
  there, the outermost first. -/
  | preparing (client : Client) (around missing : List String)
  /-- So many bytes are in the staging file, which was opened at a location. -/
  | writing (client : Client) (location : Location) (count : Nat)
  /-- The staging file is complete. -/
  | installing (client : Client)
  /-- Something failed, and the staging file is to be removed. -/
  | discarding (fault : Fault)
  | ended (result : Except Error Client)

/-- The directories that are to be made one after the other when those around the first are
there. -/
def pending : List String → List String → List String
  | [], missing => missing
  | path :: _, missing => path :: missing

/-- The progress of a cycle that has rendered what it read. -/
def Progress.ofRendered (config : Config) : Except Error Client → Progress
  | .ok client => .preparing client (Output.directories config.outputPath) []
  | .error error => .ended (.error error)

/-- The progress of a cycle that could not write its output. -/
def Progress.failed (config : Config) (fault : Fault) : Progress :=
  .ended (.error (.outputWrite config.outputPath fault))

structure Moment where
  tree : Tree
  progress : Progress

/-! ## Steps -/

inductive Deed where
  /-- The input is read. -/
  | read (reading : Except Fault String)
  /-- A directory is made, or found. -/
  | make (path : String)
  /-- The staging file is opened, and is empty then. -/
  | open (client : Client)
  /-- So many bytes are in the staging file. -/
  | write (client : Client) (count : Nat)
  /-- The staging file is closed. -/
  | close
  /-- The staging file is opened, written and closed, with nothing in between. -/
  | stage (client : Client)
  /-- The staging file is moved to the place of the output. -/
  | move (client : Client)
  /-- The staging file is removed. -/
  | remove
  /-- A request is refused. -/
  | refuse (fault : Fault)
  deriving DecidableEq

inductive Step (config : Config) (template : Template) : Moment → Deed → Moment → Prop where
  | read {tree : Tree} {reading : Except Fault String}
      (hreading : reading = tree.readText config.inputPath ∨ ∃ fault, reading = .error fault) :
      Step config template ⟨tree, .begun⟩ (.read reading)
        ⟨tree, .ofRendered config (rendered config template reading)⟩
  | make {tree made : Tree} {client : Client} {around missing rest : List String} {path : String}
      (hpending : pending around missing = path :: rest)
      (hmade : tree.makeDirectory path = .ok made) :
      Step config template ⟨tree, .preparing client around missing⟩ (.make path)
        ⟨made, .preparing client [] rest⟩
  /-- It is no fault when a directory is there already. -/
  | find {tree : Tree} {client : Client} {around missing rest : List String} {path : String}
      (hpending : pending around missing = path :: rest) (hthere : tree.isDirectory path = true) :
      Step config template ⟨tree, .preparing client around missing⟩ (.make path)
        ⟨tree, .preparing client [] rest⟩
  /-- Where a directory cannot be made because those around it are missing, these are made first. -/
  | climb {tree : Tree} {client : Client} {around missing : List String} {path : String} :
      Step config template ⟨tree, .preparing client (path :: around) missing⟩ (.refuse .notFound)
        ⟨tree, .preparing client around (path :: missing)⟩
  | refuseMake {tree : Tree} {client : Client} {around missing rest : List String} {path : String}
      (hpending : pending around missing = path :: rest) (fault : Fault) :
      Step config template ⟨tree, .preparing client around missing⟩ (.refuse fault)
        ⟨tree, .failed config fault⟩
  | open {tree : Tree} {client : Client} {location : Location}
      (hfault : pathFault? (stagingPath config.outputPath) = none)
      (hlocation : tree.writeLocation maxLinks tree.here
        (Route.ofText (stagingPath config.outputPath)) = .ok location) :
      Step config template ⟨tree, .preparing client [] []⟩ (.open client)
        ⟨tree.put location (.file (partOf client.sourceText 0)), .writing client location 0⟩
  | write {tree : Tree} {client : Client} {location : Location} {count more : Nat}
      (hmore : count < more) (hall : more ≤ client.sourceText.utf8ByteSize) :
      Step config template ⟨tree, .writing client location count⟩ (.write client more)
        ⟨tree.put location (.file (partOf client.sourceText more)), .writing client location more⟩
  | close {tree : Tree} {client : Client} {location : Location} {count : Nat}
      (hall : client.sourceText.utf8ByteSize ≤ count) :
      Step config template ⟨tree, .writing client location count⟩ .close ⟨tree, .installing client⟩
  | stage {tree staged : Tree} {client : Client}
      (hstaged : Output.stage tree config.outputPath client.sourceText = .ok staged) :
      Step config template ⟨tree, .preparing client [] []⟩ (.stage client)
        ⟨staged, .installing client⟩
  | refuseOpen {tree : Tree} {client : Client} (fault : Fault) :
      Step config template ⟨tree, .preparing client [] []⟩ (.refuse fault)
        ⟨tree, .discarding fault⟩
  | refuseWrite {tree : Tree} {client : Client} {location : Location} {count : Nat}
      (fault : Fault) :
      Step config template ⟨tree, .writing client location count⟩ (.refuse fault)
        ⟨tree, .discarding fault⟩
  | move {tree installed : Tree} {client : Client}
      (hinstalled : Output.install tree config.outputPath = .ok installed) :
      Step config template ⟨tree, .installing client⟩ (.move client)
        ⟨installed, .ended (.ok client)⟩
  | refuseMove {tree : Tree} {client : Client} (fault : Fault) :
      Step config template ⟨tree, .installing client⟩ (.refuse fault) ⟨tree, .discarding fault⟩
  | remove {tree left : Tree} {fault : Fault}
      (hremoved : tree.removeFile (stagingPath config.outputPath) = .ok left) :
      Step config template ⟨tree, .discarding fault⟩ .remove ⟨left, .failed config fault⟩
  /-- It is no further fault when the staging file cannot be removed. -/
  | refuseRemove {tree : Tree} {fault : Fault} (reason : Fault) :
      Step config template ⟨tree, .discarding fault⟩ (.refuse reason) ⟨tree, .failed config fault⟩

/-- Any number of steps, with everything that was done on the way. -/
inductive Runs (config : Config) (template : Template) (first : Moment) :
    List Deed → Moment → Prop where
  | refl : Runs config template first [] first
  | step {deeds : List Deed} {moment next : Moment} {deed : Deed}
      (hruns : Runs config template first deeds moment)
      (hstep : Step config template moment deed next) :
      Runs config template first (deeds ++ [deed]) next

theorem Runs.single {first next : Moment} {deed : Deed}
    (hstep : Step config template first deed next) : Runs config template first [deed] next :=
  .step .refl hstep

theorem Runs.trans {first moment next : Moment} {deeds more : List Deed}
    (h : Runs config template first deeds moment) (h' : Runs config template moment more next) :
    Runs config template first (deeds ++ more) next := by
  induction h' with
  | refl => rwa [List.append_nil]
  | step _ hstep ih =>
    rw [← List.append_assoc]
    exact .step ih hstep

/-! ## Cycles that are not disturbed -/

/-- Where the outcome of making directories leaves a cycle. -/
def Progress.ofPrepared (config : Config) (client : Client) (missing : List String) :
    Except Fault Unit → Progress
  | .ok _ => .preparing client [] missing
  | .error fault => .failed config fault

/-- A directory that cannot be made is there, or the cycle fails. -/
theorem runs_refused (template : Template) (fault : Fault)
    (hpending : pending around missing = path :: rest) :
    ∃ deeds, Runs config template ⟨tree, .preparing client around missing⟩ deeds
      ⟨tree, .ofPrepared config client rest
        (if tree.isDirectory path then .ok () else .error fault)⟩ := by
  by_cases hthere : tree.isDirectory path = true
  · rw [if_pos hthere]
    exact ⟨_, .single (.find hpending hthere)⟩
  · rw [if_neg hthere]
    exact ⟨_, .single (.refuseMake hpending fault)⟩

theorem runs_makeDirectoriesAt (config : Config) (template : Template) (tree : Tree)
    (client : Client) (around missing : List String) :
    ∃ deeds, Runs config template ⟨tree, .preparing client around missing⟩ deeds
      ⟨(tree.makeDirectoriesAt around).1,
        .ofPrepared config client missing (tree.makeDirectoriesAt around).2⟩ := by
  induction around generalizing missing with
  | nil => exact ⟨[], .refl⟩
  | cons path around ih =>
    rw [makeDirectoriesAt]
    cases hmake : tree.makeDirectory path with
    | ok made => exact ⟨_, .single (.make rfl hmake)⟩
    | error fault =>
      cases fault with
      | notFound =>
        obtain ⟨deeds, hruns⟩ := ih (path :: missing)
        have hclimbed := (Runs.single .climb).trans hruns
        cases haround : tree.makeDirectoriesAt around with
        | mk between result =>
          rw [haround] at hclimbed
          cases result with
          | error fault => exact ⟨_, hclimbed⟩
          | ok _ =>
            cases hagain : between.makeDirectory path with
            | ok made =>
              simp only [hagain]
              exact ⟨_, hclimbed.step (.make rfl hagain)⟩
            | error fault =>
              simp only [hagain]
              have hpending : pending [] (path :: missing) = path :: missing := rfl
              obtain ⟨more, hmore⟩ := runs_refused template fault hpending
              exact ⟨_, hclimbed.trans hmore⟩
      | _ => exact runs_refused template _ rfl

theorem put_put (tree : Tree) (location : Location) (entry other : Entry) :
    (tree.put location entry).put location other = tree.put location other := by
  simp [put, erase, List.filter_filter]

/-- Opening the staging file, writing all bytes and closing it gives the staging file at once. -/
theorem runs_stage (template : Template)
    (h : Output.stage tree config.outputPath client.sourceText = .ok staged) :
    ∃ deeds, Runs config template ⟨tree, .preparing client [] []⟩ deeds
      ⟨staged, .installing client⟩ := by
  obtain ⟨location, hlocation, rfl⟩ := exists_of_write h
  obtain ⟨_, _, hleads, -⟩ := leadsToName_of_write h
  have hopen : Runs config template ⟨tree, .preparing client [] []⟩ [.open client]
      ⟨tree.put location (.file (partOf client.sourceText 0)), .writing client location 0⟩ :=
    .single (.open hleads.noFault hlocation)
  rcases Nat.eq_zero_or_pos client.sourceText.utf8ByteSize with hempty | hpos
  · rw [partOf_of_le hempty.le] at hopen
    exact ⟨_, hopen.step (.close hempty.le)⟩
  · have hwrite := hopen.step (.write hpos le_rfl)
    rw [put_put, partOf_of_le le_rfl] at hwrite
    exact ⟨_, hwrite.step (.close le_rfl)⟩

/-- A staging file that is given up is removed if that is possible. -/
theorem runs_discard (config : Config) (template : Template) (tree : Tree) (fault : Fault) :
    ∃ deed, Step config template ⟨tree, .discarding fault⟩ deed
      ⟨Output.discard tree config.outputPath, .failed config fault⟩ := by
  delta Output.discard
  cases hremove : tree.removeFile (stagingPath config.outputPath) with
  | ok left => exact ⟨_, .remove hremove⟩
  | error reason => exact ⟨_, .refuseRemove reason⟩

/-- **A cycle is one of the runs**: with every request answered as the tree has it, the steps do
what the cycle does. -/
theorem runs_cycle (config : Config) (template : Template) (tree : Tree) :
    ∃ deeds, Runs config template ⟨tree, .begun⟩ deeds
      ⟨(cycle config template tree).value.1, .ended (cycle config template tree).value.2⟩ := by
  rw [← conclude_readText, value_conclude_rendered]
  have hread : Runs config template ⟨tree, .begun⟩ [.read (tree.readText config.inputPath)]
      ⟨tree, .ofRendered config (rendered config template (tree.readText config.inputPath))⟩ :=
    .single (.read (.inl rfl))
  cases hrendered : rendered config template (tree.readText config.inputPath) with
  | error error =>
    rw [hrendered] at hread
    exact ⟨_, hread⟩
  | ok client =>
    rw [hrendered] at hread
    obtain ⟨_, hprepare⟩ := runs_makeDirectoriesAt config template tree client
      (Output.directories config.outputPath) []
    have hprepared := hread.trans hprepare
    rw [← Output.prepare_eq_makeDirectoriesAt] at hprepared
    simp only [Output.replace]
    cases hresult : Output.prepare tree config.outputPath with
    | mk prepared result =>
      rw [hresult] at hprepared
      cases result with
      | error fault => exact ⟨_, hprepared⟩
      | ok _ =>
        cases hstage : Output.stage prepared config.outputPath client.sourceText with
        | error fault =>
          obtain ⟨_, hdiscard⟩ := runs_discard config template prepared fault
          simp only [hstage]
          exact ⟨_, (hprepared.step (.refuseOpen fault)).step hdiscard⟩
        | ok staged =>
          obtain ⟨_, hstaged⟩ := runs_stage template hstage
          cases hinstall : Output.install staged config.outputPath with
          | error fault =>
            obtain ⟨_, hdiscard⟩ := runs_discard config template staged fault
            simp only [hstage, hinstall]
            exact ⟨_, ((hprepared.trans hstaged).step (.refuseMove fault)).step hdiscard⟩
          | ok installed =>
            simp only [hstage, hinstall]
            exact ⟨_, (hprepared.trans hstaged).step (.move hinstall)⟩

/-! ## What a cycle has done -/

/-- What a cycle has done, and how far it is. Others may change files between any two of its
steps. -/
inductive Tracks (config : Config) (template : Template) : List Deed → Progress → Prop where
  | begun : Tracks config template [] .begun
  | step {deeds : List Deed} {deed : Deed} {now next : Tree} {progress after : Progress}
      (htracks : Tracks config template deeds progress)
      (hstep : Step config template ⟨now, progress⟩ deed ⟨next, after⟩) :
      Tracks config template (deeds ++ [deed]) after

theorem Runs.tracks {moment : Moment} {deeds : List Deed}
    (hruns : Runs config template ⟨tree, .begun⟩ deeds moment) :
    Tracks config template deeds moment.progress := by
  induction hruns with
  | refl => exact .begun
  | step _ hstep ih => exact .step ih hstep

variable {now next : Tree} {progress after : Progress} {deed : Deed} {deeds : List Deed}

/-! ### Moving the staging file -/

/-- The client that is moved to the place of the output. -/
def Deed.moved? : Deed → Option Client
  | .move client => some client
  | _ => none

/-- The client of a cycle that has succeeded. -/
def Progress.installed? : Progress → Option Client
  | .ended (.ok client) => some client
  | _ => none

theorem Deed.moved?_eq_some_iff : deed.moved? = some client ↔ deed = .move client := by
  cases deed <;> simp [moved?]

theorem Progress.installed?_eq_some_iff :
    progress.installed? = some client ↔ progress = .ended (.ok client) := by
  rcases progress with _ | _ | _ | _ | _ | (error | other) <;> simp [installed?]

theorem installed?_ofRendered (result : Except Error Client) :
    (Progress.ofRendered config result).installed? = none := by
  cases result <;> rfl

/-- A cycle that has succeeded does nothing more, and only moving the staging file makes it
succeed. -/
theorem Step.moved?_eq (hstep : Step config template ⟨now, progress⟩ deed ⟨next, after⟩) :
    progress.installed? = none ∧ after.installed? = deed.moved? := by
  cases hstep with
  | read hreading => exact ⟨rfl, installed?_ofRendered _⟩
  | _ => exact ⟨rfl, rfl⟩

theorem Tracks.moves_eq (htracks : Tracks config template deeds progress) :
    deeds.filterMap Deed.moved? = progress.installed?.toList := by
  induction htracks with
  | begun => rfl
  | @step deeds deed _ _ _ _ _ hstep ih =>
    obtain ⟨hbefore, hafter⟩ := hstep.moved?_eq
    rw [List.filterMap_append, ih, hbefore, hafter, Option.toList_none, List.nil_append,
      List.filterMap_cons]
    cases deed.moved? <;> rfl

/-- A cycle has succeeded if and only if it has moved its staging file. -/
theorem Tracks.move_mem_iff (htracks : Tracks config template deeds progress) :
    .move client ∈ deeds ↔ progress = .ended (.ok client) := by
  have hmoved : .move client ∈ deeds ↔ client ∈ deeds.filterMap Deed.moved? := by
    simp [List.mem_filterMap, Deed.moved?_eq_some_iff]
  rw [hmoved, htracks.moves_eq, Option.mem_toList, ← Progress.installed?_eq_some_iff]

/-! ### Making directories -/

/-- Whether nothing but directories of an output is to be made. -/
def Progress.Within (path : String) : Progress → Prop
  | .preparing _ around missing => ∀ other ∈ around ++ missing, other ∈ Output.directories path
  | _ => True

/-- What is pending is among the directories that may have to be made. -/
theorem mem_of_pending {other : String} (hpending : pending around missing = path :: rest)
    (hmem : other ∈ path :: rest) : other ∈ around ++ missing := by
  cases around with
  | nil =>
    rwa [show missing = path :: rest from hpending]
  | cons first around =>
    rw [← show first :: missing = path :: rest from hpending, List.mem_cons] at hmem
    rw [List.mem_append, List.mem_cons]
    rcases hmem with hfirst | hmissing
    · exact .inl (.inl hfirst)
    · exact .inr hmissing

theorem Step.within (hstep : Step config template ⟨now, progress⟩ deed ⟨next, after⟩)
    (hwithin : progress.Within config.outputPath) : after.Within config.outputPath := by
  cases hstep with
  | read hreading =>
    cases rendered config template _ with
    | error error => trivial
    | ok client =>
      intro other hmem
      rwa [List.append_nil] at hmem
  | make hpending hmade =>
    exact fun other hmem => hwithin other (mem_of_pending hpending (List.mem_cons_of_mem _ hmem))
  | find hpending hthere =>
    exact fun other hmem => hwithin other (mem_of_pending hpending (List.mem_cons_of_mem _ hmem))
  | climb => exact fun other hmem => hwithin other (List.perm_middle.subset hmem)
  | _ => trivial

theorem Tracks.within (htracks : Tracks config template deeds progress) :
    progress.Within config.outputPath := by
  induction htracks with
  | begun => trivial
  | step _ hstep ih => exact hstep.within ih

/-! ### Clients -/

/-- The client that a deed is about. -/
def Deed.client? : Deed → Option Client
  | .open client | .write client _ | .stage client | .move client => some client
  | _ => none

/-- The client that a cycle has. -/
def Progress.client? : Progress → Option Client
  | .preparing client _ _ | .writing client _ _ | .installing client | .ended (.ok client) =>
    some client
  | _ => none

theorem client?_ofRendered {result : Except Error Client}
    (h : (Progress.ofRendered config result).client? = some client) : result = .ok client := by
  cases result with
  | error error => cases h
  | ok other => exact congrArg _ (Option.some.inj h)

/-- Behind reading no other client comes. -/
theorem Step.client?_eq (hstep : Step config template ⟨now, progress⟩ deed ⟨next, after⟩)
    (hbegun : progress ≠ .begun) :
    after ≠ .begun ∧ ∀ client, after.client? = some client ∨ deed.client? = some client →
      progress.client? = some client := by
  cases hstep with
  | read hreading => exact absurd rfl hbegun
  | _ => simp [Progress.client?, Deed.client?, Progress.failed]

/-- A cycle that has begun has read its input, and has no client but the one of what it has read. -/
theorem Tracks.rendered_eq (htracks : Tracks config template deeds progress) :
    (deeds = [] ∧ progress = .begun) ∨
    progress ≠ .begun ∧ ∃ reading, .read reading ∈ deeds ∧ ∀ client,
      (progress.client? = some client ∨ ∃ deed ∈ deeds, deed.client? = some client) →
        rendered config template reading = .ok client := by
  induction htracks with
  | begun => exact .inl ⟨rfl, rfl⟩
  | @step deeds deed _ _ _ after htracks hstep ih =>
    right
    rcases ih with ⟨rfl, rfl⟩ | ⟨hbegun, reading, hread, hclient⟩
    · cases hstep with
      | @read _ reading hreading =>
        refine ⟨?_, reading, List.mem_singleton_self _, ?_⟩
        · cases rendered config template reading <;> simp [Progress.ofRendered]
        · rintro client (hrendered | ⟨deed, hmem, hdeed⟩)
          · exact client?_ofRendered hrendered
          · rw [List.mem_singleton.mp hmem] at hdeed
            cases hdeed
    · obtain ⟨hafter, hkept⟩ := hstep.client?_eq hbegun
      refine ⟨hafter, reading, List.mem_append_left _ hread, ?_⟩
      rintro client (hafter | ⟨other, hmem, hother⟩)
      · exact hclient client (.inl (hkept client (.inl hafter)))
      · rcases List.mem_append.mp hmem with hbefore | hlast
        · exact hclient client (.inr ⟨other, hbefore, hother⟩)
        · obtain rfl := List.mem_singleton.mp hlast
          exact hclient client (.inl (hkept client (.inr hother)))

/-- A cycle does what it does with the client of what it has read. -/
theorem Tracks.exists_reading (htracks : Tracks config template deeds progress)
    (hmem : deed ∈ deeds) (hclient : deed.client? = some client) :
    ∃ reading, .read reading ∈ deeds ∧ rendered config template reading = .ok client := by
  rcases htracks.rendered_eq with ⟨rfl, -⟩ | ⟨-, reading, hread, hrendered⟩
  · cases hmem
  · exact ⟨reading, hread, hrendered client (.inr ⟨deed, hmem, hclient⟩)⟩

/-- The clients of all deeds are the same. -/
theorem Tracks.client_unique {other : Client} {deed' : Deed}
    (htracks : Tracks config template deeds progress) (hmem : deed ∈ deeds)
    (hclient : deed.client? = some client) (hmem' : deed' ∈ deeds)
    (hclient' : deed'.client? = some other) : other = client := by
  rcases htracks.rendered_eq with ⟨rfl, -⟩ | ⟨-, reading, -, hrendered⟩
  · cases hmem
  · have h := hrendered client (.inr ⟨deed, hmem, hclient⟩)
    rw [hrendered other (.inr ⟨deed', hmem', hclient'⟩)] at h
    exact Except.ok.inj h

end FetchClient.Generation
