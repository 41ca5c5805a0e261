import FetchClient.Proofs.Files.Ways

/-!
# What is at the end of a path

A path may lead through directories that are still missing, and then what is at its end shows only
when they are made. All of these look at the trees with more directories:

- `Tree.Holds`: whether there is a file with certain contents at the end of a path;
- `Tree.Free`, `Tree.Vacant`: whether neither a file nor a link is at the end of a path;
- `Tree.Unlinked`: whether no link is at the end of a path;
- `Tree.Direct`: whether no link at the end of a path is needed to come there.
-/

namespace FetchClient.Files.Tree

variable {tree other : Tree} {directory : Location} {path name : String} {contents : Contents}
  {slash : Bool}

/-- Whether there is a file with certain contents at the end of a path, as soon as the directories
on the way are there. -/
def Holds (tree : Tree) (path : String) (contents : Contents) : Prop :=
  ∃ more, Extends tree more ∧ more.findEntry path = .ok (.file contents)

/-- Whether neither a file nor a link is at the name that a path leads to. -/
def Free (tree : Tree) (path : String) : Prop :=
  ∀ directory name slash, LeadsToName tree path directory name slash →
    tree.entryAt? (directory ++ [name]) = none ∨
      tree.entryAt? (directory ++ [name]) = some .directory

/-- Whether neither a file nor a link is at the name that a path leads to, nor will be when the
directories on the way are there. -/
def Vacant (tree : Tree) (path : String) : Prop :=
  ∀ more directory name slash, Extends tree more → LeadsToName more path directory name slash →
    more.entryAt? (directory ++ [name]) = none ∨
      more.entryAt? (directory ++ [name]) = some .directory

/-- Whether no link is at the name that a path leads to, nor will be when the directories on the way
are there. With a slash behind the name a path leads to what is at the end of the link instead. -/
def Unlinked (tree : Tree) (path : String) : Prop :=
  ∀ more directory name target, Extends tree more → LeadsToName more path directory name false →
    more.entryAt? (directory ++ [name]) ≠ some (.link target)

/-- Whether a path leads to its name without the link that may be there. A path may lead through the
link first, and then back to where it is. -/
def Direct (tree : Tree) (path : String) : Prop :=
  ∀ more directory name target, Extends tree more → LeadsToName more path directory name false →
    more.entryAt? (directory ++ [name]) = some (.link target) →
    LeadsToName (more.erase (directory ++ [name])) path directory name false

/-! ## More directories -/

theorem holds_of_findEntry (h : tree.findEntry path = .ok (.file contents)) :
    tree.Holds path contents :=
  ⟨tree, .refl tree, h⟩

theorem holds_iff_of_extends (h : Extends tree other) :
    other.Holds path contents ↔ tree.Holds path contents := by
  constructor
  · rintro ⟨more, hmore, hfind⟩
    exact ⟨more, h.trans hmore, hfind⟩
  · rintro ⟨more, hmore, hfind⟩
    obtain ⟨joint, hjoint, hother⟩ := hmore.join h
    exact ⟨joint, hother, findEntry_of_extends hjoint hfind⟩

theorem Vacant.free (hvacant : tree.Vacant path) : tree.Free path :=
  fun directory name slash => hvacant tree directory name slash (.refl tree)

theorem Vacant.of_extends (h : Extends tree other) (hvacant : tree.Vacant path) :
    other.Vacant path :=
  fun more directory name slash hmore => hvacant more directory name slash (h.trans hmore)

/-- Directories that are added do not change where nothing is, with the directories on the way. -/
theorem vacant_iff_of_extends (h : Extends tree other) : other.Vacant path ↔ tree.Vacant path := by
  refine ⟨fun hvacant => ?_, Vacant.of_extends h⟩
  intro more directory name slash hmore hleads
  obtain ⟨joint, hjoint, hother⟩ := hmore.join h
  have hentry := hvacant joint directory name slash hother (hleads.of_keepsWays hjoint.keepsWays)
  cases hbefore : more.entryAt? (directory ++ [name]) with
  | none => exact .inl rfl
  | some entry =>
    rw [hjoint.kept _ _ hbefore] at hentry
    exact .inr (hentry.resolve_left (by simp))

/-- Where a file takes the place of a link, nothing is at the end of another path that has led to
nothing: the link may have been on the way, but a file never is. -/
theorem Vacant.put_file {location : Location} {target : String} (hvacant : tree.Vacant path)
    (hne : location ≠ []) (hlink : tree.entryAt? location = some (.link target))
    (hother : ∀ more directory name slash, Extends tree more →
      LeadsToName more path directory name slash → directory ++ [name] ≠ location) :
    (tree.put location (.file contents)).Vacant path := by
  intro more directory name slash hmore hleads
  have hfile : more.entryAt? location = some (.file contents) :=
    hmore.kept _ _ (entryAt?_put_self hne)
  -- With the link in its place again, the tree is the first one with more directories.
  have hback : Extends tree (more.put location (.link target)) := by
    refine ⟨hmore.here, fun other entry hentry => ?_, fun other hnone => ?_⟩
    · by_cases hsame : other = location
      · rw [hsame, hlink] at hentry
        rw [hsame, entryAt?_put_self hne, hentry]
      · rw [entryAt?_put_of_ne hsame]
        exact hmore.kept _ _ (by rwa [entryAt?_put_of_ne hsame])
    · have hsame : other ≠ location := by
        rintro rfl
        rw [hlink] at hnone
        cases hnone
      rw [entryAt?_put_of_ne hsame]
      exact hmore.added _ (by rwa [entryAt?_put_of_ne hsame])
  have hways : KeepsWays more (more.put location (.link target)) :=
    (keepsWays_erase (by simp [hfile]) (by simp [hfile])).trans (keepsWays_erase_put hne)
  have hleadsBack := hleads.of_keepsWays hways
  have hentry := hvacant _ directory name slash hback hleadsBack
  rwa [entryAt?_put_of_ne (hother _ _ _ _ hback hleadsBack)] at hentry

theorem Vacant.unlinked (hvacant : tree.Vacant path) : tree.Unlinked path := by
  intro more directory name target hmore hleads hlink
  rcases hvacant more directory name false hmore hleads with hnone | hdirectory
  · rw [hnone] at hlink
    cases hlink
  · rw [hdirectory] at hlink
    cases hlink

theorem Unlinked.of_extends (h : Extends tree other) (hunlinked : tree.Unlinked path) :
    other.Unlinked path :=
  fun more directory name target hmore => hunlinked more directory name target (h.trans hmore)

/-- Directories that are added do not change where no link is, with the directories on the way. -/
theorem unlinked_iff_of_extends (h : Extends tree other) :
    other.Unlinked path ↔ tree.Unlinked path := by
  refine ⟨fun hunlinked => ?_, Unlinked.of_extends h⟩
  intro more directory name target hmore hleads hlink
  obtain ⟨joint, hjoint, hother⟩ := hmore.join h
  exact hunlinked joint directory name target hother (hleads.of_keepsWays hjoint.keepsWays)
    (hjoint.kept _ _ hlink)

theorem Direct.of_extends (h : Extends tree other) (hdirect : tree.Direct path) :
    other.Direct path :=
  fun more directory name target hmore => hdirect more directory name target (h.trans hmore)

theorem Unlinked.direct (hunlinked : tree.Unlinked path) : tree.Direct path :=
  fun more directory name target hmore hleads hlink =>
    absurd hlink (hunlinked more directory name target hmore hleads)

/-! ## Paths that lead somewhere -/

theorem LeadsToName.unique {directory' : Location} {name' : String} {slash' : Bool}
    (h : LeadsToName tree path directory name slash)
    (h' : LeadsToName tree path directory' name' slash') :
    directory' = directory ∧ name' = name ∧ slash' = slash := by
  have hspot := spot_eq_named_iff.mpr h
  rw [spot_eq_named_iff.mpr h'] at hspot
  simpa using hspot

/-- What is at the name decides. -/
theorem LeadsToName.free (h : LeadsToName tree path directory name slash)
    (hentry : tree.entryAt? (directory ++ [name]) = none ∨
      tree.entryAt? (directory ++ [name]) = some .directory) : tree.Free path := by
  intro directory' name' slash' h'
  obtain ⟨rfl, rfl, -⟩ := h.unique h'
  exact hentry

/-- Where the directories on the way are there, it is enough that there is nothing. -/
theorem LeadsToName.vacant (h : LeadsToName tree path directory name slash)
    (hnone : tree.entryAt? (directory ++ [name]) = none) : tree.Vacant path := by
  intro more directory' name' slash' hmore h'
  -- More directories do not make the path lead elsewhere.
  obtain ⟨rfl, rfl, -⟩ := (h.of_keepsWays hmore.keepsWays).unique h'
  exact hmore.added _ hnone

/-- Where the directories on the way are there, it is enough that there is no link. -/
theorem LeadsToName.unlinked (h : LeadsToName tree path directory name slash)
    (hentry : ∀ target, tree.entryAt? (directory ++ [name]) ≠ some (.link target)) :
    tree.Unlinked path := by
  intro more directory' name' target hmore h' hlink
  obtain ⟨rfl, rfl, -⟩ := (h.of_keepsWays hmore.keepsWays).unique h'
  cases hbefore : tree.entryAt? (directory' ++ [name']) with
  | some entry =>
    rw [hmore.kept _ _ hbefore] at hlink
    exact hentry target (hbefore.trans hlink)
  | none =>
    rcases hmore.added _ hbefore with hnone | hdirectory
    · rw [hnone] at hlink
      cases hlink
    · rw [hdirectory] at hlink
      cases hlink

/-- A path leads to its name whatever is put there, if it does so without a link there. -/
theorem LeadsToName.of_erase (h : LeadsToName tree path directory name false)
    (hdirect : tree.Direct path)
    (hdirectory : tree.entryAt? (directory ++ [name]) ≠ some .directory)
    (hways : KeepsWays (tree.erase (directory ++ [name])) other) :
    LeadsToName other path directory name false := by
  by_cases hlink : ∃ target, tree.entryAt? (directory ++ [name]) = some (.link target)
  · obtain ⟨target, hlink⟩ := hlink
    exact (hdirect tree directory name target (.refl tree) h hlink).of_keepsWays hways
  · rw [not_exists] at hlink
    exact h.of_keepsWays ((keepsWays_erase hdirectory hlink).trans hways)

/-- Where the directories on the way are there, a path holds the file at its end. -/
theorem LeadsToName.holds_iff (h : LeadsToName tree path directory name false)
    (hlink : ∀ target, tree.entryAt? (directory ++ [name]) ≠ some (.link target)) :
    tree.Holds path contents ↔ tree.entryAt? (directory ++ [name]) = some (.file contents) := by
  constructor
  · rintro ⟨more, hmore, hfind⟩
    have hunlinked := h.unlinked hlink more directory name
    have hleads := h.of_keepsWays hmore.keepsWays
    rw [hleads.findEntry_eq_file_iff fun target => hunlinked target hmore hleads] at hfind
    cases hentry : tree.entryAt? (directory ++ [name]) with
    | some entry => rw [← hfind, hmore.kept _ _ hentry]
    | none =>
      -- Where nothing was, only a directory can have been added.
      rcases hmore.added _ hentry with hnone | hdirectory
      · rw [hnone] at hfind
        cases hfind
      · rw [hdirectory] at hfind
        cases hfind
  · intro hentry
    exact holds_of_findEntry ((h.findEntry_eq_file_iff hlink).mpr hentry)

end FetchClient.Files.Tree
