import FetchClient.Generation.Output
import FetchClient.Proofs.Files.Requests
import FetchClient.Proofs.Files.LastStep

/-!
# Replacing the output or leaving it alone

- `Output.getLast?_steps_stagingPath`: what the staging file is called;
- `Output.Moved`: what changes when a staging file is written and moved;
- `Output.replace_spec`: the output is replaced as a whole, or nothing but directories is added;
- `Output.replace_eq_ok`: the output is replaced where nothing stands in the way.
-/

namespace FetchClient.Generation.Output

open Files Files.Tree

variable {tree staged installed : Tree} {directory : Location} {path name text : String}

/-! ## Names -/

theorem stagingName_ne_empty (name : String) : name ++ ".fetchgen-tmp" ≠ "" := by
  intro hempty
  have hlength := congrArg String.length hempty
  simp at hlength

theorem hasNoSlash_stagingName (path : String) :
    Files.Path.HasNoSlash ((Files.Path.fileName? path).getD "" ++ ".fetchgen-tmp") := by
  intro c hc
  rw [String.toList_append, List.mem_append] at hc
  rcases hc with hc | hc
  · cases hname : Files.Path.fileName? path with
    | none =>
      rw [hname] at hc
      cases hc
    | some name =>
      rw [hname] at hc
      exact Files.Path.hasNoSlash_of_fileName? hname c hc
  · have hsuffix : ".fetchgen-tmp".toList.all (· != '/') = true := by decide
    simpa using List.all_eq_true.mp hsuffix c hc

/-- The staging file is called like the output, with `.fetchgen-tmp` behind it. -/
theorem getLast?_steps_stagingPath (hlast : (Route.ofText path).steps.getLast? = some name)
    (hname : isName name = true) :
    (Route.ofText (stagingPath path)).steps.getLast? = some (name ++ ".fetchgen-tmp") := by
  have hslash := hasNoSlash_stagingName path
  rw [stagingPath]
  rw [Files.Path.fileName?_of_getLast? hlast hname, Option.getD_some] at hslash ⊢
  exact Files.Path.getLast?_steps_withFileName (stagingName_ne_empty name) hslash

/-- No slash stands behind the name of the staging file. -/
theorem slash_stagingPath (path : String) : (Route.ofText (stagingPath path)).slash = false :=
  Files.Path.slash_withFileName (stagingName_ne_empty _) (hasNoSlash_stagingName path)

/-- The staging file and the output are not the same. -/
theorem staging_ne_output {other : Location} {stagingName : String} {slash : Bool}
    (hstaging : LeadsToName tree (stagingPath path) directory stagingName slash)
    {slash' : Bool} (houtput : LeadsToName tree path other name slash') :
    directory ++ [stagingName] ≠ other ++ [name] := by
  intro hsame
  have hlast := getLast?_steps_stagingPath houtput.last houtput.isName
  rw [hstaging.last] at hlast
  have hnames : stagingName = name := (List.append_singleton_inj.mp hsame).2
  have hlength := congrArg String.length (Option.some.inj hlast)
  rw [hnames, String.length_append] at hlength
  have : ".fetchgen-tmp".length = 13 := by decide
  omega

/-! ## Steps -/

theorem extends_prepare (tree : Tree) (path : String) : Extends tree (prepare tree path).1 := by
  unfold prepare
  split
  · split
    · exact .refl tree
    · exact extends_makeDirectoriesAt tree _
  · exact .refl tree

/-- Where there is no staging file, none can be removed. -/
theorem discard_eq (hfree : tree.Free (stagingPath path)) : discard tree path = tree := by
  obtain ⟨fault, hremove⟩ := hfree.removeFile
  delta discard
  rw [hremove]

/-- A staging file that was written is removed without a trace. -/
theorem extends_discard (hstaging : LeadsToName tree (stagingPath path) directory name false)
    (hnone : tree.entryAt? (directory ++ [name]) = none) :
    Extends tree (discard (tree.put (directory ++ [name]) (.file (.text text))) path) := by
  have hne := location_ne_nil directory name
  have hways : KeepsWays tree (tree.put (directory ++ [name]) (.file (.text text))) :=
    keepsWays_put (by simp [hnone]) (by simp [hnone])
  delta discard
  -- The tree need not be the one from before, but it has the same entries.
  rw [(hstaging.of_keepsWays hways).removeFile (entryAt?_put_self hne) (by simp)]
  refine Extends.of_entryAt?_eq rfl fun location => ?_
  by_cases hsame : location = directory ++ [name]
  · rw [hsame, entryAt?_erase_self hne, hnone]
  · rw [entryAt?_erase_of_ne hsame, entryAt?_put_of_ne hsame]

/-- How a staging file is written and moved where no link is at its path. -/
structure Moved (tree installed : Tree) (path text : String) (directory : Location)
    (stagingName : String) (home : Location) (name : String) : Prop where
  staging : LeadsToName tree (stagingPath path) directory stagingName false
  stagingDirectory : tree.entryAt? (directory ++ [stagingName]) ≠ some .directory
  stagingLink : ∀ target, tree.entryAt? (directory ++ [stagingName]) ≠ some (.link target)
  output : LeadsToName tree path home name false
  outputDirectory : tree.entryAt? (home ++ [name]) ≠ some .directory
  eq : installed = ((tree.put (directory ++ [stagingName]) (.file (.text text))).erase
    (directory ++ [stagingName])).put (home ++ [name]) (.file (.text text))

namespace Moved

variable {home : Location} {stagingName : String} {location : Location}

theorem entryAt?_output (h : Moved tree installed path text directory stagingName home name) :
    installed.entryAt? (home ++ [name]) = some (.file (.text text)) := by
  rw [h.eq, entryAt?_put_self (location_ne_nil _ _)]

theorem entryAt?_staging (h : Moved tree installed path text directory stagingName home name) :
    installed.entryAt? (directory ++ [stagingName]) = none := by
  rw [h.eq, entryAt?_put_of_ne (staging_ne_output h.staging h.output),
    entryAt?_erase_self (location_ne_nil _ _)]

theorem entryAt?_of_ne (h : Moved tree installed path text directory stagingName home name)
    (houtput : location ≠ home ++ [name]) (hstaging : location ≠ directory ++ [stagingName]) :
    installed.entryAt? location = tree.entryAt? location := by
  rw [h.eq, entryAt?_put_of_ne houtput, entryAt?_erase_of_ne hstaging, entryAt?_put_of_ne hstaging]

theorem keepsWays (h : Moved tree installed path text directory stagingName home name) :
    KeepsWays (tree.erase (home ++ [name])) installed := by
  have hkept : ∀ {other entry}, (tree.erase (home ++ [name])).entryAt? other = some entry →
      other ≠ directory ++ [stagingName] → installed.entryAt? other = some entry := by
    intro other entry hother hstaging
    rw [h.entryAt?_of_ne _ hstaging, entryAt?_of_erase hother]
    rintro rfl
    rw [entryAt?_erase_self (location_ne_nil _ _)] at hother
    cases hother
  refine ⟨?_, fun other hother => hkept hother ?_, fun other target hother => hkept hother ?_⟩
  · rw [h.eq]
    rfl
  · rintro rfl
    exact h.stagingDirectory (entryAt?_of_erase hother)
  · rintro rfl
    exact h.stagingLink target (entryAt?_of_erase hother)

theorem leadsToName (h : Moved tree installed path text directory stagingName home name)
    (hdirect : tree.Direct path) : LeadsToName installed path home name false :=
  h.output.of_erase hdirect h.outputDirectory h.keepsWays

end Moved

/-- A staging file can only be moved to a name where there is no directory. -/
theorem moved_of_install (hstaging : LeadsToName tree (stagingPath path) directory name false)
    (hnot : tree.entryAt? (directory ++ [name]) ≠ some .directory)
    (hlink : ∀ target, tree.entryAt? (directory ++ [name]) ≠ some (.link target))
    (h : install (tree.put (directory ++ [name]) (.file (.text text))) path = .ok installed) :
    ∃ home outputName, Moved tree installed path text directory name home outputName := by
  have hne := location_ne_nil directory name
  -- The staging file leads nowhere, so all paths lead where they led before it was written.
  obtain ⟨_, _, entry, home, outputName, hmoved, hentry, -, houtput, hdirectory, rfl⟩ :=
    exists_of_rename h
  obtain ⟨rfl, rfl, -⟩ := hmoved.unique (hstaging.of_keepsWays (keepsWays_put hnot hlink))
  obtain rfl : entry = .file (.text text) := by
    rw [entryAt?_put_self hne] at hentry
    exact (Option.some.inj hentry).symm
  rw [entryAt?_put_of_ne (staging_ne_output hmoved houtput).symm] at hdirectory
  exact ⟨home, outputName, hstaging, hnot, hlink, houtput.of_keepsWays (keepsWays_of_put hne),
    hdirectory, rfl⟩

/-- The output is replaced by a staging file, when the directory of the output has been made. -/
theorem moved_of_replace (hunlinked : tree.Unlinked (stagingPath path))
    (h : replace tree path text = (installed, .ok ())) :
    ∃ directory stagingName home name,
      Moved (prepare tree path).1 installed path text directory stagingName home name := by
  have hextends := extends_prepare tree path
  unfold replace at h
  cases hprepare : prepare tree path with
  | mk prepared result =>
    rw [hprepare] at hextends h
    cases result with
    | error fault => cases h
    | ok _ =>
      cases hstage : stage prepared path text with
      | error fault =>
        simp only [hstage] at h
        cases h
      | ok staged =>
        obtain ⟨directory, stagingName, hstaging, hnot, hlink, rfl⟩ :=
          (hunlinked.of_extends hextends).of_write hstage
        cases hinstall :
            install (prepared.put (directory ++ [stagingName]) (.file (.text text))) path with
        | error fault =>
          simp only [hstage, hinstall] at h
          cases h
        | ok other =>
          simp only [hstage, hinstall] at h
          obtain ⟨rfl, -⟩ := Prod.mk.inj h
          obtain ⟨home, name, hmoved⟩ := moved_of_install hstaging hnot hlink hinstall
          exact ⟨directory, stagingName, home, name, hmoved⟩

/-- When the output cannot be replaced, nothing but directories was added. -/
theorem extends_of_replace {left : Tree} {fault : Fault} (hvacant : tree.Vacant (stagingPath path))
    (h : replace tree path text = (left, .error fault)) : Extends tree left := by
  have hextends := extends_prepare tree path
  unfold replace at h
  cases hprepare : prepare tree path with
  | mk prepared result =>
    rw [hprepare] at hextends h
    cases result with
    | error reason =>
      obtain ⟨rfl, -⟩ := Prod.mk.inj h
      exact hextends
    | ok _ =>
      have hvacant := hvacant.of_extends hextends
      cases hstage : stage prepared path text with
      | error reason =>
        simp only [hstage, discard_eq hvacant.free] at h
        obtain ⟨rfl, -⟩ := Prod.mk.inj h
        exact hextends
      | ok staged =>
        obtain ⟨directory, name, hstaging, hnot, -, rfl⟩ := hvacant.unlinked.of_write hstage
        have hnone := (hvacant.free directory name false hstaging).resolve_right hnot
        cases hinstall : install (prepared.put (directory ++ [name]) (.file (.text text))) path with
        | error reason =>
          simp only [hstage, hinstall] at h
          obtain ⟨rfl, -⟩ := Prod.mk.inj h
          exact hextends.trans (extends_discard hstaging hnone)
        | ok installed =>
          simp only [hstage, hinstall] at h
          cases h

/-- What the output is after it was replaced. -/
structure Installed (tree : Tree) (path text : String) : Prop where
  read : tree.readText path = .ok text
  vacant : tree.Vacant (stagingPath path)
  unlinked : tree.Unlinked path

theorem Moved.toInstalled {home : Location} {stagingName : String}
    (h : Moved tree installed path text directory stagingName home name)
    (hunlinked : tree.Unlinked path) : Installed installed path text := by
  have hleads := h.leadsToName hunlinked.direct
  refine ⟨hleads.readText_eq_ok h.entryAt?_output, ?_, hleads.unlinked ?_⟩
  · have hlink := hunlinked tree home name
    have hways : KeepsWays tree installed := (keepsWays_erase h.outputDirectory fun target =>
      hlink target (.refl tree) h.output).trans h.keepsWays
    exact (h.staging.of_keepsWays hways).vacant h.entryAt?_staging
  · simp [h.entryAt?_output]

/-- **Replacing the output**: when it succeeds, the output holds the text, and when it fails,
nothing but directories was added. No staging file is left in either case. -/
theorem replace_spec (text : String) (hvacant : tree.Vacant (stagingPath path))
    (hunlinked : tree.Unlinked path) :
    match replace tree path text with
    | (replaced, .ok ()) => Installed replaced path text
    | (left, .error _) => Extends tree left := by
  cases hreplace : replace tree path text with
  | mk after result =>
    cases result with
    | ok _ =>
      obtain ⟨_, _, _, _, hmoved⟩ := moved_of_replace hvacant.unlinked hreplace
      exact hmoved.toInstalled (hunlinked.of_extends (extends_prepare tree path))
    | error fault => exact extends_of_replace hvacant hreplace

/-- The output is replaced where its directory is there and nothing stands in the way. -/
theorem replace_eq_ok (text : String) {home : Location} {stagingName : String}
    (hprepare : prepare tree path = (tree, .ok ()))
    (houtput : LeadsToName tree path home name false)
    (hdirectory : tree.entryAt? (home ++ [name]) ≠ some .directory)
    (hstaging : LeadsToName tree (stagingPath path) directory stagingName false)
    (hnone : tree.entryAt? (directory ++ [stagingName]) = none) :
    replace tree path text =
      (((tree.put (directory ++ [stagingName]) (.file (.text text))).erase
        (directory ++ [stagingName])).put (home ++ [name]) (.file (.text text)), .ok ()) := by
  have hways : KeepsWays tree (tree.put (directory ++ [stagingName]) (.file (.text text))) :=
    keepsWays_put (by simp [hnone]) (by simp [hnone])
  have hne := staging_ne_output hstaging houtput
  have hstage : stage tree path text = _ := hstaging.write (by simp [hnone]) (by simp [hnone])
  have hinstall : install (tree.put (directory ++ [stagingName]) (.file (.text text))) path = _ :=
    (hstaging.of_keepsWays hways).rename (entryAt?_put_self (location_ne_nil _ _)) (by simp)
      (houtput.of_keepsWays hways) (by rwa [entryAt?_put_of_ne hne.symm])
  simp only [replace, hprepare, hstage, hinstall]

end FetchClient.Generation.Output
