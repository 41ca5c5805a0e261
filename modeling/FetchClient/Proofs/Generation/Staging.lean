import FetchClient.Proofs.Files.Directories
import FetchClient.Proofs.Generation.Replace

/-!
# The staging file beside the output

Nothing is assumed here of what is at the staging path before.

- `Output.isDirectory_of_staging`: where the staging path leads to a name, the directory of the
  output is there;
- `Output.exists_output_of_staging`: there the output can only be a file at a name;
- `Output.prepare_eq`: the directory of the output is only made if it is missing;
- `Output.staged_of_stage`: what writing the staging file changes;
- `Output.discard_cases`: what discarding it changes.
-/

namespace FetchClient.Generation.Output

open Files Files.Tree

variable {tree left staged : Tree} {directory : Location} {path name parent text : String}
  {entry : Entry} {contents : Contents} {slash : Bool} {fault : Fault}

/-! ## Paths -/

theorem stagingPath_of_fileName? (h : Files.Path.fileName? path = some name)
    (hparent : Files.Path.parent? path = some parent) :
    stagingPath path = Files.Path.join parent (name ++ ".fetchgen-tmp") := by
  rw [stagingPath, Files.Path.withFileName, h, hparent]
  rfl

theorem stagingPath_of_fileName?_eq_none (h : Files.Path.fileName? path = none) :
    stagingPath path = Files.Path.join path ".fetchgen-tmp" := by
  rw [stagingPath, Files.Path.withFileName, h]
  rfl

/-- A staging file in a directory leads through that directory. -/
theorem isDirectory_of_join (hne : path ≠ "")
    (hslash : Files.Path.HasNoSlash (text ++ ".fetchgen-tmp"))
    (h : LeadsToName tree (Files.Path.join path (text ++ ".fetchgen-tmp")) directory name slash) :
    tree.isDirectory path = true := by
  have hsteps := Files.Path.steps_join path (stagingName_ne_empty text) hslash
  have hlast := h.last
  rw [hsteps, List.getLast?_concat] at hlast
  obtain rfl := Option.some.inj hlast
  exact h.isDirectory (Files.Path.below_join hne (stagingName_ne_empty text) hslash) hsteps

/-- Where an output has no file name, the staging file is in it. -/
theorem isDirectory_output (hname : Files.Path.fileName? path = none) (hne : path ≠ "")
    (h : LeadsToName tree (stagingPath path) directory name slash) :
    tree.isDirectory path = true := by
  have hslash := hasNoSlash_stagingName path
  rw [hname, Option.getD_none] at hslash
  rw [stagingPath_of_fileName?_eq_none hname, ← String.empty_append (s := ".fetchgen-tmp")] at h
  exact isDirectory_of_join hne hslash h

/-- Where the staging path leads to a name, the directory of the output is there. -/
theorem isDirectory_of_staging (hparent : Files.Path.parent? path = some parent)
    (hne : parent ≠ "") (h : LeadsToName tree (stagingPath path) directory name slash) :
    tree.isDirectory parent = true := by
  cases hname : Files.Path.fileName? path with
  | none =>
    have hpath : path ≠ "" := by
      rintro rfl
      cases hparent
    exact isDirectory_of_below (Files.Path.below_parent hparent hne)
      (isDirectory_output hname hpath h)
  | some output =>
    have hslash := hasNoSlash_stagingName path
    rw [hname, Option.getD_some] at hslash
    rw [stagingPath_of_fileName? hname hparent] at h
    exact isDirectory_of_join hne hslash h

/-- Where the staging path leads to a name and the output is a file, the output is a name too. -/
theorem exists_output_of_staging (h : LeadsToName tree (stagingPath path) directory name slash)
    (hfind : tree.findEntry path = .ok (.file contents)) :
    ∃ home outputName, LeadsToName tree path home outputName false ∧
      tree.entryAt? (home ++ [outputName]) ≠ some .directory := by
  rcases leadsToName_of_findEntry hfind with houtput | hdots
  · exact houtput
  · have hne : path ≠ "" := by
      rintro rfl
      cases hfind
    have hdirectory := isDirectory_output (Files.Path.fileName?_eq_none hdots) hne h
    rw [isDirectory, hfind] at hdirectory
    cases hdirectory

/-! ## Steps -/

/-- Whether the directory of the output is not there. -/
def MissesDirectory (tree : Tree) (path : String) : Prop :=
  ∃ parent, Files.Path.parent? path = some parent ∧ parent ≠ "" ∧ tree.isDirectory parent = false

/-- The directory of the output is only made if it is missing. -/
theorem prepare_eq (h : ¬ MissesDirectory tree path) : prepare tree path = (tree, .ok ()) := by
  unfold prepare
  cases hparent : Files.Path.parent? path with
  | none => rfl
  | some parent =>
    by_cases hempty : parent.isEmpty = true
    · simp only [hempty, if_true]
    · have hthere : tree.isDirectory parent = true := by
        by_contra hmissing
        exact h ⟨parent, hparent, by simpa using hempty, by simpa using hmissing⟩
      simp only [hempty, Bool.false_eq_true, if_false]
      exact makeDirectories_of_isDirectory hthere

theorem prepare_eq_of_isDirectory {parent : String} (hparent : Files.Path.parent? path = some parent)
    (hthere : tree.isDirectory parent = true) : prepare tree path = (tree, .ok ()) := by
  refine prepare_eq ?_
  rintro ⟨other, hother, -, hmissing⟩
  obtain rfl := Option.some.inj (hparent.symm.trans hother)
  rw [hthere] at hmissing
  cases hmissing

/-- When the directory of the output cannot be made, it is not there. -/
theorem missesDirectory_of_prepare (h : prepare tree path = (left, .error fault)) :
    MissesDirectory left path := by
  unfold prepare at h
  cases hparent : Files.Path.parent? path with
  | none =>
    rw [hparent] at h
    cases h
  | some parent =>
    by_cases hempty : parent.isEmpty = true
    · simp [hparent, hempty] at h
    · simp only [hparent, hempty, Bool.false_eq_true, if_false] at h
      exact ⟨parent, hparent, by simpa using hempty, isDirectory_of_makeDirectoriesAt h⟩

/-- Where the directory of the output is not there, nothing is at the staging path. -/
theorem MissesDirectory.free (h : MissesDirectory tree path) : tree.Free (stagingPath path) := by
  obtain ⟨parent, hparent, hne, hmissing⟩ := h
  intro directory name slash hstaging
  rw [isDirectory_of_staging hparent hne hstaging] at hmissing
  cases hmissing

/-- Where the output is a file, its directory is there. -/
theorem not_missesDirectory_of_findEntry (h : tree.findEntry path = .ok entry) :
    ¬ MissesDirectory tree path := by
  rintro ⟨parent, hparent, hne, hmissing⟩
  rw [isDirectory_of_findEntry (Files.Path.below_parent hparent hne) h] at hmissing
  cases hmissing

/-- What is there after the staging file was written at its path, or where the link leads that is
there. -/
structure Staged (tree staged : Tree) (path text : String) (written directory : Location)
    (name : String) : Prop where
  put : staged = tree.put written (.file (.text text))
  ways : KeepsWays tree staged
  leads : LeadsToName tree (stagingPath path) directory name false
  place : written = directory ++ [name] ∨
    ∃ target, tree.entryAt? (directory ++ [name]) = some (.link target)

theorem staged_of_stage (h : stage tree path text = .ok staged) :
    ∃ written directory name, Staged tree staged path text written directory name := by
  obtain ⟨written, hwritten, rfl⟩ := exists_of_write h
  obtain ⟨hdirectory, hlink⟩ := writeLocation_spec hwritten
  obtain ⟨directory, name, hstaging, hnot⟩ := leadsToName_of_write h
  refine ⟨written, directory, name, rfl, keepsWays_put hdirectory hlink, hstaging, ?_⟩
  by_contra hplace
  rw [not_or, not_exists] at hplace
  rw [hstaging.writeLocation hnot hplace.2] at hwritten
  exact hplace.1 (Except.ok.inj hwritten).symm

/-- At the staging path there is now a file, or the link that was there. -/
theorem Staged.exists_entry {written : Location}
    (h : Staged tree staged path text written directory name) :
    ∃ entry, staged.entryAt? (directory ++ [name]) = some entry ∧ entry ≠ .directory := by
  rcases h.place with hsame | ⟨target, hlink⟩
  · refine ⟨.file (.text text), ?_, by simp⟩
    rw [h.put, hsame, entryAt?_put_self (location_ne_nil _ _)]
  · exact ⟨.link target, h.ways.link _ _ hlink, by simp⟩

/-- Discarding the staging file removes what is at its path, unless neither a file nor a link is. -/
theorem discard_cases (tree : Tree) (path : String) :
    (discard tree path = tree ∧ tree.Free (stagingPath path)) ∨
    ∃ directory name entry, LeadsToName tree (stagingPath path) directory name false ∧
      tree.entryAt? (directory ++ [name]) = some entry ∧ entry ≠ .directory ∧
      discard tree path = tree.erase (directory ++ [name]) := by
  delta discard
  cases hremove : tree.removeFile (stagingPath path) with
  | error fault => exact .inl ⟨rfl, free_of_removeFile (slash_stagingPath path) hremove⟩
  | ok left =>
    obtain ⟨directory, name, entry, hstaging, hentry, hfile, rfl⟩ := exists_of_removeFile hremove
    exact .inr ⟨directory, name, entry, hstaging, hentry, hfile, rfl⟩

/-- No staging file is left when it was discarded. -/
theorem free_discard (tree : Tree) (path : String) :
    (discard tree path).Free (stagingPath path) := by
  rcases discard_cases tree path with ⟨hsame, hfree⟩ | ⟨directory, name, entry, hstaging, -, -, hleft⟩
  · rwa [hsame]
  · rw [hleft]
    intro directory' name' slash hstaging'
    obtain ⟨rfl, rfl, -⟩ := (hstaging'.of_keepsWays (keepsWays_of_erase _ _)).unique hstaging
    exact .inl (entryAt?_erase_self (location_ne_nil _ _))

/-- What is found after the staging file was discarded was there before. -/
theorem findEntry_of_discard (h : (discard tree path).findEntry path = .ok entry) :
    tree.findEntry path = .ok entry := by
  rcases discard_cases tree path with ⟨hsame, -⟩ | ⟨directory, name, entry, -, -, -, hleft⟩
  · rwa [hsame] at h
  · rw [hleft] at h
    exact findEntry_of_erase h

end FetchClient.Generation.Output
