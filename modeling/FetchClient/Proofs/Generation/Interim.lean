import FetchClient.Proofs.Generation.Effects
import FetchClient.Proofs.Generation.Moments

/-!
# The tree while the output is replaced

Until the staging file is moved, a tree is what it was at first, with directories that were made for
the output, and perhaps with the staging file. Whatever the staging file holds, the output is what
it was.

- `Output.Grown`, `Output.StagedAt`, `Output.Interim`: the trees without and with a staging file;
- `Output.Grown.make`, `Output.Interim.stage`, `Output.Interim.remove`, `Output.Interim.install`:
  what the requests of a cycle make of them;
- `Output.Intact`: whether the output is what it was;
- `Output.Interim.intact`: so it is in all of these trees;
- `Output.Interim.intact_or_staged`: unless the output is a link to the staging file.
-/

namespace FetchClient.Generation.Output

open Files Files.Tree

variable {base now other : Tree} {location : Location} {path around text : String}
  {contents old : Contents}

/-! ## Directories of the output -/

theorem MissesDirectory.of_extends (h : Extends base now) (hmissing : MissesDirectory now path) :
    MissesDirectory base path := by
  obtain ⟨parent, hparent, hne, hnot⟩ := hmissing
  refine ⟨parent, hparent, hne, ?_⟩
  by_contra hthere
  rw [isDirectory_of_extends h (by simpa using hthere)] at hnot
  cases hnot

/-- Where the directory of the output is there, so are all the directories around it. -/
theorem isDirectory_of_mem_directories (hthere : ¬ MissesDirectory now path)
    (hmem : around ∈ directories path) : now.isDirectory around = true := by
  unfold directories at hmem
  cases hparent : Files.Path.parent? path with
  | none =>
    rw [hparent] at hmem
    cases hmem
  | some parent =>
    by_cases hempty : parent.isEmpty = true
    · simp [hparent, hempty] at hmem
    · simp only [hparent, hempty, Bool.false_eq_true, if_false] at hmem
      refine isDirectory_of_mem_ancestors ?_ hmem
      by_contra hnot
      exact hthere ⟨parent, hparent, by simpa using hempty, by simpa using hnot⟩

/-- Where the staging path leads to a name, the directory of the output is there. -/
theorem not_missesDirectory_of_names (h : Names now (stagingPath path) location) :
    ¬ MissesDirectory now path := by
  rintro ⟨parent, hparent, hne, hmissing⟩
  obtain ⟨directory, name, hstaging, -⟩ := h
  rw [isDirectory_of_staging hparent hne hstaging] at hmissing
  cases hmissing

/-- Where the directory of the output is there, none is made for it. -/
theorem makeDirectory_ne_ok (hthere : ¬ MissesDirectory now path)
    (hmem : around ∈ directories path) : now.makeDirectory around ≠ .ok other := by
  rw [makeDirectory_of_isDirectory (isDirectory_of_mem_directories hthere hmem)]
  intro hmade
  cases hmade

/-! ## Without a staging file -/

/-- Whether nothing but directories was added, and none if the directory of the output was there. -/
structure Grown (base now : Tree) (path : String) : Prop where
  more : Extends base now
  none : Extends now base ∨ MissesDirectory base path

theorem grown_refl (base : Tree) (path : String) : Grown base base path :=
  ⟨.refl base, .inl (.refl base)⟩

/-- Trees with the same entries are grown alike. -/
theorem Grown.of_entryAt?_eq (h : Grown base now path) (hhere : other.here = now.here)
    (hentry : ∀ location, other.entryAt? location = now.entryAt? location) :
    Grown base other path := by
  refine ⟨h.more.trans (.of_entryAt?_eq hhere hentry), ?_⟩
  rcases h.none with hnone | hmissing
  · have hback := Extends.of_entryAt?_eq hhere.symm fun location => (hentry location).symm
    exact .inl (hback.trans hnone)
  · exact .inr hmissing

theorem Grown.make (h : Grown base now path) (hmem : around ∈ directories path)
    (hmade : now.makeDirectory around = .ok other) : Grown base other path := by
  refine ⟨h.more.trans (extends_of_makeDirectory hmade), .inr ?_⟩
  by_contra hthere
  have hthere' : ¬ MissesDirectory now path := fun hmissing => hthere (hmissing.of_extends h.more)
  exact makeDirectory_ne_ok hthere' hmem hmade

theorem Grown.free (h : Grown base now path) (hvacant : base.Vacant (stagingPath path)) :
    now.Free (stagingPath path) :=
  (hvacant.of_extends h.more).free

theorem Grown.removeFile_ne_ok (h : Grown base now path)
    (hvacant : base.Vacant (stagingPath path)) : now.removeFile (stagingPath path) ≠ .ok other := by
  obtain ⟨fault, hremove⟩ := (h.free hvacant).removeFile
  rw [hremove]
  intro hremoved
  cases hremoved

/-- Without a staging file nothing is installed. -/
theorem Grown.install_ne_ok (h : Grown base now path)
    (hvacant : base.Vacant (stagingPath path)) : install now path ≠ .ok other := by
  intro hinstalled
  obtain ⟨directory, name, entry, _, _, hstaging, hentry, hfile, -, -, -⟩ :=
    exists_of_rename hinstalled
  rcases h.free hvacant directory name false hstaging with hnone | hdirectory
  · rw [hnone] at hentry
    cases hentry
  · rw [hdirectory] at hentry
    exact hfile (Option.some.inj hentry).symm

/-! ## With a staging file -/

/-- Whether the staging file is at a location, and holds certain contents, in a tree that has
nothing else but directories that were added. -/
structure StagedAt (base now : Tree) (path : String) (location : Location) (contents : Contents) :
    Prop where
  names : Names now (stagingPath path) location
  entry : now.entryAt? location = some (.file contents)
  grown : Grown base (now.erase location) path

theorem Names.ne_nil (h : Names now path location) : location ≠ [] := by
  obtain ⟨directory, name, -, rfl⟩ := h
  exact location_ne_nil directory name

/-- The names of a path are one. -/
theorem Names.unique {location' : Location} (h : Names now path location)
    (h' : Names now path location') : location' = location := by
  obtain ⟨directory, name, hleads, rfl⟩ := h
  obtain ⟨directory', name', hleads', rfl⟩ := h'
  obtain ⟨rfl, rfl, -⟩ := hleads.unique hleads'
  rfl

/-- The staging file is written where nothing is. -/
theorem Grown.write (h : Grown base now path) (hvacant : base.Vacant (stagingPath path))
    (hwritten : now.write (stagingPath path) contents = .ok other) :
    ∃ location, now.writeLocation maxLinks now.here (Route.ofText (stagingPath path)) =
        .ok location ∧
      StagedAt base other path location contents := by
  have hvacantNow := hvacant.of_extends h.more
  obtain ⟨directory, name, hstaging, hnot, hlink, rfl⟩ := hvacantNow.unlinked.of_write hwritten
  have hne := location_ne_nil directory name
  have hnone := (hvacantNow.free directory name false hstaging).resolve_right hnot
  refine ⟨directory ++ [name], hstaging.writeLocation hnot hlink,
    ⟨directory, name, hstaging.of_keepsWays (keepsWays_put hnot hlink), rfl⟩,
    entryAt?_put_self hne, h.of_entryAt?_eq rfl fun location => ?_⟩
  by_cases hsame : location = directory ++ [name]
  · rw [hsame, entryAt?_erase_self hne, hnone]
  · rw [entryAt?_erase_of_ne hsame, entryAt?_put_of_ne hsame]

/-- Nothing is at the staging path when a file has taken the place of the output. -/
theorem vacant_put_output {directory home : Location} {name outputName : String}
    (hvacant : now.Vacant (stagingPath path))
    (hstaging : LeadsToName now (stagingPath path) directory name false)
    (hnone : now.entryAt? (directory ++ [name]) = none)
    (houtput : LeadsToName now path home outputName false)
    (hdirectory : now.entryAt? (home ++ [outputName]) ≠ some .directory) :
    (now.put (home ++ [outputName]) (.file contents)).Vacant (stagingPath path) := by
  have hne := staging_ne_output hstaging houtput
  by_cases hlink : ∃ target, now.entryAt? (home ++ [outputName]) = some (.link target)
  · obtain ⟨target, hlink⟩ := hlink
    exact hvacant.put_file (location_ne_nil _ _) hlink fun more _ _ _ hmore hleads =>
      staging_ne_output hleads (houtput.of_keepsWays hmore.keepsWays)
  · -- The output takes the place of no link, and so no way changes.
    rw [not_exists] at hlink
    refine (hstaging.of_keepsWays (keepsWays_put hdirectory hlink)).vacant ?_
    rw [entryAt?_put_of_ne hne, hnone]

namespace StagedAt

theorem not_directory (h : StagedAt base now path location contents) :
    now.entryAt? location ≠ some .directory := by
  rw [h.entry]
  simp

theorem not_link (h : StagedAt base now path location contents) (target : String) :
    now.entryAt? location ≠ some (.link target) := by
  rw [h.entry]
  simp

/-- All ways are the same with and without the staging file. -/
theorem keepsWays_erase (h : StagedAt base now path location contents) :
    KeepsWays now (now.erase location) :=
  Tree.keepsWays_erase h.not_directory h.not_link

/-- The staging file is written anew. -/
theorem put (h : StagedAt base now path location old) :
    StagedAt base (now.put location (.file contents)) path location contents := by
  refine ⟨h.names.of_keepsWays (keepsWays_put h.not_directory h.not_link),
    entryAt?_put_self h.names.ne_nil, h.grown.of_entryAt?_eq rfl fun other => ?_⟩
  by_cases hsame : other = location
  · rw [hsame, entryAt?_erase_self h.names.ne_nil, entryAt?_erase_self h.names.ne_nil]
  · rw [entryAt?_erase_of_ne hsame, entryAt?_put_of_ne hsame, entryAt?_erase_of_ne hsame]

theorem write (h : StagedAt base now path location old)
    (hwritten : now.write (stagingPath path) contents = .ok other) :
    StagedAt base other path location contents := by
  obtain ⟨directory, name, hstaging, rfl⟩ := h.names
  obtain ⟨directory', name', hstaging', -, -, rfl⟩ :=
    (hstaging.unlinked h.not_link).of_write hwritten
  obtain ⟨rfl, rfl, -⟩ := hstaging.unique hstaging'
  exact h.put

theorem remove (h : StagedAt base now path location contents)
    (hremoved : now.removeFile (stagingPath path) = .ok other) : Grown base other path := by
  obtain ⟨directory, name, entry, hstaging, -, -, rfl⟩ := exists_of_removeFile hremoved
  obtain rfl := h.names.unique ⟨directory, name, hstaging, rfl⟩
  exact h.grown

/-- When the staging file is installed, the output holds its text, and nothing is left of it. -/
theorem install (h : StagedAt base now path location (.text text))
    (hvacant : base.Vacant (stagingPath path)) (hdirect : base.Direct path)
    (hinstalled : Output.install now path = .ok other) : Installed other path text := by
  obtain ⟨directory, name, entry, home, outputName, hstaging, hentry, -, houtput, hdirectory,
    rfl⟩ := exists_of_rename hinstalled
  obtain rfl := h.names.unique ⟨directory, name, hstaging, rfl⟩
  obtain rfl : entry = .file (.text text) := Option.some.inj (hentry.symm.trans h.entry)
  have hne := staging_ne_output hstaging houtput
  have hoccupant : (now.erase (directory ++ [name])).entryAt? (home ++ [outputName]) =
      now.entryAt? (home ++ [outputName]) := entryAt?_erase_of_ne hne.symm
  rw [← hoccupant] at hdirectory
  have hstagingBare := hstaging.of_keepsWays h.keepsWays_erase
  have houtputBare := houtput.of_keepsWays h.keepsWays_erase
  have hways : KeepsWays ((now.erase (directory ++ [name])).erase (home ++ [outputName]))
      ((now.erase (directory ++ [name])).put (home ++ [outputName]) (.file (.text text))) :=
    keepsWays_erase_put (location_ne_nil _ _)
  have hleads := houtputBare.of_erase (hdirect.of_extends h.grown.more) hdirectory hways
  have hread : ((now.erase (directory ++ [name])).put (home ++ [outputName])
      (.file (.text text))).entryAt? (home ++ [outputName]) = some (.file (.text text)) :=
    entryAt?_put_self (location_ne_nil _ _)
  exact ⟨hleads.readText_eq_ok hread,
    vacant_put_output (hvacant.of_extends h.grown.more) hstagingBare
      (entryAt?_erase_self (location_ne_nil _ _)) houtputBare hdirectory,
    hleads.unlinked (by simp [hread])⟩

end StagedAt

/-! ## The output -/

/-- Whether an output that could be read is what it was, and nothing is read in its place that was
not read before. Where the directory of the output was missing, a file that was there behind it may
be read when the directory has been made. -/
structure Intact (tree now : Tree) (path : String) : Prop where
  read : ∀ contents, tree.findEntry path = .ok (.file contents) →
    now.findEntry path = .ok (.file contents)
  found : ∀ contents, now.findEntry path = .ok (.file contents) →
    tree.findEntry path = .ok (.file contents) ∨
      MissesDirectory tree path ∧ tree.Holds path contents

theorem Grown.intact (h : Grown base now path) : Intact base now path where
  read contents hread := findEntry_of_extends h.more hread
  found contents hfound := by
    rcases h.none with hnone | hmissing
    · exact .inl (findEntry_of_extends hnone hfound)
    · exact .inr ⟨hmissing, now, h.more, hfound⟩

/-- What is found with a staging file is the staging file, or was found without it. -/
theorem StagedAt.findEntry_cases (h : StagedAt base now path location old)
    (hfound : now.findEntry path = .ok (.file contents)) :
    contents = old ∨ (now.erase location).findEntry path = .ok (.file contents) := by
  obtain ⟨hfault, found, hleads, hentry⟩ := findEntry_eq_ok_iff.mp hfound
  by_cases hsame : found = location
  · rw [hsame, h.entry] at hentry
    cases hentry
    exact .inl rfl
  · have hbare : (now.erase location).entryAt? found = now.entryAt? found :=
      entryAt?_erase_of_ne hsame
    refine .inr (findEntry_eq_ok_iff.mpr ⟨hfault, found, ?_, hbare.trans hentry⟩)
    exact hleads.of_keepsWays h.keepsWays_erase fun entry hkept => hbare.trans hkept

/-- The staging file is not the output. -/
theorem StagedAt.findEntry_iff (h : StagedAt base now path location old)
    (hunlinked : base.Unlinked path) :
    now.findEntry path = .ok (.file contents) ↔
      (now.erase location).findEntry path = .ok (.file contents) := by
  refine ⟨fun hfound => ?_, findEntry_of_erase⟩
  obtain ⟨directory, name, hstaging, rfl⟩ := h.names
  obtain ⟨home, outputName, houtput, -⟩ := exists_output_of_staging hstaging hfound
  have hsame : (now.erase (directory ++ [name])).entryAt? (home ++ [outputName]) =
      now.entryAt? (home ++ [outputName]) :=
    entryAt?_erase_of_ne (staging_ne_output hstaging houtput).symm
  have houtputBare := houtput.of_keepsWays h.keepsWays_erase
  have hlink : ∀ target, (now.erase (directory ++ [name])).entryAt? (home ++ [outputName]) ≠
      some (.link target) := fun target =>
    hunlinked.of_extends h.grown.more _ home outputName target (.refl _) houtputBare
  rw [houtputBare.findEntry_eq_file_iff hlink, hsame]
  rw [hsame] at hlink
  exact (houtput.findEntry_eq_file_iff hlink).mp hfound

theorem StagedAt.intact (h : StagedAt base now path location old) (hunlinked : base.Unlinked path) :
    Intact base now path where
  read contents hread := (h.findEntry_iff hunlinked).mpr (h.grown.intact.read contents hread)
  found contents hfound := h.grown.intact.found contents ((h.findEntry_iff hunlinked).mp hfound)

/-! ## Both cases -/

/-- Whether a tree is one from before the staging file is moved: without a staging file, or with
one that holds certain contents. -/
def Interim (base now : Tree) (path : String) : Option Contents → Prop
  | none => Grown base now path
  | some contents => ∃ location, StagedAt base now path location contents

namespace Interim

variable {staged : Option Contents}

theorem intact (h : Interim base now path staged) (hunlinked : base.Unlinked path) :
    Intact base now path := by
  cases staged with
  | none => exact Grown.intact h
  | some contents =>
    obtain ⟨location, hstaged⟩ := h
    exact hstaged.intact hunlinked

/-- What could be read is still read. -/
theorem read (h : Interim base now path staged)
    (hread : base.findEntry path = .ok (.file contents)) :
    now.findEntry path = .ok (.file contents) := by
  cases staged with
  | none => exact (Grown.intact h).read contents hread
  | some old =>
    obtain ⟨location, hstaged⟩ := h
    exact findEntry_of_erase (hstaged.grown.intact.read contents hread)

/-- Where a link is in the place of the output, the staging file may be at its end. -/
theorem intact_or_staged (h : Interim base now path staged) :
    Intact base now path ∨ ¬ base.Unlinked path ∧
      ∃ contents, staged = some contents ∧ now.findEntry path = .ok (.file contents) := by
  by_cases hunlinked : base.Unlinked path
  · exact .inl (h.intact hunlinked)
  cases staged with
  | none => exact .inl (Grown.intact h)
  | some old =>
    have hread : ∀ contents, base.findEntry path = .ok (.file contents) →
        now.findEntry path = .ok (.file contents) := fun _ => h.read
    obtain ⟨location, hstaged⟩ := h
    by_cases hold : now.findEntry path = .ok (.file old)
    · exact .inr ⟨hunlinked, old, rfl, hold⟩
    · refine .inl ⟨hread, fun contents hfound => ?_⟩
      rcases hstaged.findEntry_cases hfound with rfl | hbare
      · exact absurd hfound hold
      · exact hstaged.grown.intact.found contents hbare

theorem make (h : Interim base now path staged) (hmem : around ∈ directories path)
    (hmade : now.makeDirectory around = .ok other) : Interim base other path staged := by
  cases staged with
  | none => exact Grown.make h hmem hmade
  | some contents =>
    obtain ⟨location, hstaged⟩ := h
    exact absurd hmade (makeDirectory_ne_ok (not_missesDirectory_of_names hstaged.names) hmem)

theorem stage (h : Interim base now path staged) (hvacant : base.Vacant (stagingPath path))
    (hwritten : now.write (stagingPath path) contents = .ok other) :
    Interim base other path (some contents) := by
  cases staged with
  | none =>
    obtain ⟨location, -, hstaged⟩ := Grown.write h hvacant hwritten
    exact ⟨location, hstaged⟩
  | some old =>
    obtain ⟨location, hstaged⟩ := h
    exact ⟨location, hstaged.write hwritten⟩

theorem remove (h : Interim base now path staged) (hvacant : base.Vacant (stagingPath path))
    (hremoved : now.removeFile (stagingPath path) = .ok other) : Interim base other path none := by
  cases staged with
  | none => exact absurd hremoved (Grown.removeFile_ne_ok h hvacant)
  | some contents =>
    obtain ⟨location, hstaged⟩ := h
    exact hstaged.remove hremoved

theorem install (h : Interim base now path (some (.text text)))
    (hvacant : base.Vacant (stagingPath path)) (hdirect : base.Direct path)
    (hinstalled : Output.install now path = .ok other) : Installed other path text := by
  obtain ⟨location, hstaged⟩ := h
  exact hstaged.install hvacant hdirect hinstalled

end Interim

end FetchClient.Generation.Output
