import FetchClient.Proofs.Files.Holding

/-!
# What requests change

- `Tree.extends_makeDirectoriesAt`: making directories adds directories;
- `Tree.writeLocation_cases`: a file is written at a name, or where the link there leads;
- `Tree.exists_of_write`: writing puts a file where neither a directory nor a link is;
- `Tree.readText_of_write`: what was written is read;
- `Tree.exists_of_removeFile`, `Tree.free_of_removeFile`: a file or a link is removed, if there is
  one;
- `Tree.exists_of_rename`: an entry is moved to a name.
-/

namespace FetchClient.Files.Tree

variable {tree other : Tree} {directory location : Location} {path name text : String}
  {entry : Entry} {contents : Contents} {slash : Bool}

/-! ## Making directories -/

theorem extends_of_makeDirectory (h : tree.makeDirectory path = .ok other) :
    Extends tree other := by
  obtain ⟨spot, -, h⟩ := bind_eq_ok_iff.mp h
  cases spot with
  | directory location => cases h
  | named directory name slash =>
    cases hentry : tree.entryAt? (directory ++ [name]) with
    -- Whatever is there, a directory too, keeps a new one from being made.
    | some entry => simp [hentry] at h
    | none =>
      simp only [hentry, Option.isSome_none, Bool.false_eq_true, if_false] at h
      exact Except.ok.inj h ▸ Extends.put_directory hentry

/-- Making directories adds directories, even when it fails. -/
theorem extends_makeDirectoriesAt (tree : Tree) (paths : List String) :
    Extends tree (tree.makeDirectoriesAt paths).1 := by
  induction paths with
  | nil => exact .refl tree
  | cons path around ih =>
    unfold makeDirectoriesAt
    cases hfirst : tree.makeDirectory path with
    | ok made => exact extends_of_makeDirectory hfirst
    | error fault =>
      cases fault with
      | notFound =>
        cases haround : tree.makeDirectoriesAt around with
        | mk between result =>
          rw [haround] at ih
          cases result with
          | error fault => exact ih
          | ok _ =>
            cases hagain : between.makeDirectory path with
            | ok made =>
              simp only [hagain]
              exact ih.trans (extends_of_makeDirectory hagain)
            | error fault =>
              simp only [hagain]
              exact ih
      | _ => exact .refl tree

/-! ## Writing -/

/-- A file is written at the name that its route leads to, or, where that is a link, where the link
leads, with the links that are left. -/
theorem writeLocation_cases {links : Nat} {origin : Location} {route : Route}
    (h : tree.writeLocation links origin route = .ok location) :
    ∃ directory name, tree.spotFrom links origin route = .ok (.named directory name false) ∧
      name.utf8ByteSize ≤ maxName ∧ tree.entryAt? (directory ++ [name]) ≠ some .directory ∧
      ((∀ target, tree.entryAt? (directory ++ [name]) ≠ some (.link target)) ∧
          location = directory ++ [name] ∨
        ∃ target left, tree.entryAt? (directory ++ [name]) = some (.link target) ∧
          target.isEmpty = false ∧
          links - tree.linksOn links (route.start origin) route.steps.dropLast = left + 1 ∧
          tree.writeLocation left directory (Route.ofText target) = .ok location) := by
  rw [writeLocation] at h
  obtain ⟨spot, hspot, h⟩ := bind_eq_ok_iff.mp h
  cases spot with
  | directory found => cases h
  | named directory name slash =>
    cases slash with
    | true => cases h
    | false =>
      by_cases hlong : maxName < name.utf8ByteSize
      · simp [hlong] at h
      simp only [hlong, Bool.false_eq_true, if_false] at h
      refine ⟨directory, name, hspot, Nat.not_lt.mp hlong, ?_⟩
      cases hentry : tree.entryAt? (directory ++ [name]) with
      | none =>
        rw [hentry] at h
        exact ⟨by simp, .inl ⟨by simp, (Except.ok.inj h).symm⟩⟩
      | some entry =>
        rw [hentry] at h
        cases entry with
        | directory => cases h
        | file contents => exact ⟨by simp, .inl ⟨by simp, (Except.ok.inj h).symm⟩⟩
        | link target =>
          dsimp only at h
          split_ifs at h with hnone hempty
          obtain ⟨left, hleft⟩ := Nat.exists_eq_succ_of_ne_zero hnone
          rw [hleft] at h
          exact ⟨by simp, .inr ⟨target, left, rfl, eq_false_of_ne_true hempty, hleft, h⟩⟩

/-- A file is written where neither a directory nor a link is. -/
theorem writeLocation_spec {links : Nat} {origin : Location} {route : Route}
    (h : tree.writeLocation links origin route = .ok location) :
    tree.entryAt? location ≠ some .directory ∧
      ∀ target, tree.entryAt? location ≠ some (.link target) := by
  -- Every link that is followed is one less that may be followed.
  induction links using Nat.strongRecOn generalizing origin route with
  | ind links ih =>
    obtain ⟨directory, name, -, -, hdirectory, hend⟩ := writeLocation_cases h
    obtain ⟨hlink, rfl⟩ | ⟨target, left, -, -, hleft, hmore⟩ := hend
    · exact ⟨hdirectory, hlink⟩
    · exact ih left (by omega) hmore

theorem pathFault?_of_write (h : tree.write path contents = .ok other) :
    pathFault? path = none := by
  unfold Tree.write at h
  cases hfault : pathFault? path with
  | some fault =>
    rw [hfault] at h
    cases h
  | none => rfl

theorem exists_of_write (h : tree.write path contents = .ok other) :
    ∃ location, tree.writeLocation maxLinks tree.here (Route.ofText path) = .ok location ∧
      other = tree.put location (.file contents) := by
  unfold write at h
  cases hfault : pathFault? path with
  | some fault =>
    rw [hfault] at h
    cases h
  | none =>
    rw [hfault] at h
    obtain ⟨location, hlocation, h⟩ := bind_eq_ok_iff.mp h
    exact ⟨location, hlocation, (Except.ok.inj h).symm⟩

theorem write_of_writeLocation (hfault : pathFault? path = none)
    (hlocation : tree.writeLocation maxLinks tree.here (Route.ofText path) = .ok location) :
    tree.write path contents = .ok (tree.put location (.file contents)) := by
  simp [Tree.write, hfault, hlocation, bind, Except.bind, pure, Except.pure]

/-- A file is written at a name where neither a directory nor a link is. -/
theorem writeLocation_of_name {links : Nat} {origin : Location} {route : Route}
    (hspot : tree.spotFrom links origin route = .ok (.named directory name false))
    (hshort : name.utf8ByteSize ≤ maxName)
    (hdirectory : tree.entryAt? (directory ++ [name]) ≠ some .directory)
    (hlink : ∀ target, tree.entryAt? (directory ++ [name]) ≠ some (.link target)) :
    tree.writeLocation links origin route = .ok (directory ++ [name]) := by
  rw [Tree.writeLocation]
  simp only [hspot, Nat.not_lt.mpr hshort, bind, Except.bind, Bool.false_eq_true, if_false]
  cases hentry : tree.entryAt? (directory ++ [name]) with
  | none => rfl
  | some entry =>
    cases entry with
    | file contents => rfl
    | directory => exact absurd hentry hdirectory
    | link target => exact absurd hentry (hlink target)

theorem LeadsToName.writeLocation (h : LeadsToName tree path directory name false)
    (hdirectory : tree.entryAt? (directory ++ [name]) ≠ some .directory)
    (hlink : ∀ target, tree.entryAt? (directory ++ [name]) ≠ some (.link target)) :
    tree.writeLocation maxLinks tree.here (Route.ofText path) = .ok (directory ++ [name]) :=
  writeLocation_of_name h.spotFrom h.short hdirectory hlink

/-- No file is written where a directory is. -/
theorem writeLocation_of_directory {links : Nat} {origin : Location} {route : Route}
    (hspot : tree.spotFrom links origin route = .ok (.named directory name false))
    (hshort : name.utf8ByteSize ≤ maxName)
    (hentry : tree.entryAt? (directory ++ [name]) = some .directory) :
    tree.writeLocation links origin route = .error .isDirectory := by
  rw [Tree.writeLocation]
  simp only [hspot, Nat.not_lt.mpr hshort, hentry, bind, Except.bind, Bool.false_eq_true, if_false]
  rfl

/-- Through a link a file is written where the link leads. -/
theorem writeLocation_of_link {links : Nat} {origin : Location} {route : Route} {target : String}
    (hspot : tree.spotFrom links origin route = .ok (.named directory name false))
    (hshort : name.utf8ByteSize ≤ maxName)
    (hentry : tree.entryAt? (directory ++ [name]) = some (.link target))
    (hleft : tree.linksOn links (route.start origin) route.steps.dropLast < links)
    (htarget : target.isEmpty = false) :
    tree.writeLocation links origin route =
      tree.writeLocation (links - tree.linksOn links (route.start origin) route.steps.dropLast - 1)
        directory (Route.ofText target) := by
  have hsome : links - tree.linksOn links (route.start origin) route.steps.dropLast ≠ 0 :=
    Nat.sub_ne_zero_of_lt hleft
  rw [Tree.writeLocation]
  simp only [hspot, Nat.not_lt.mpr hshort, hentry, htarget, hsome, bind, Except.bind,
    Bool.false_eq_true, if_false]

theorem LeadsToName.writeLocation_of_link {target : String}
    (h : LeadsToName tree path directory name false) (steps : List String)
    (hroute : Route.ofText path = ⟨false, steps ++ [name], false⟩)
    (hleads : Leads tree (maxLinks - 1) tree.here steps directory)
    (hentry : tree.entryAt? (directory ++ [name]) = some (.link target))
    (htarget : target.isEmpty = false) :
    ∃ left, tree.writeLocation maxLinks tree.here (Route.ofText path) =
      tree.writeLocation left directory (Route.ofText target) := by
  refine ⟨_, Tree.writeLocation_of_link h.spotFrom h.short hentry ?_ htarget⟩
  rw [hroute, List.dropLast_concat]
  exact Nat.lt_succ_of_le (hleads.linksOn_add 1)

theorem LeadsToName.write_of_directory (h : LeadsToName tree path directory name false)
    (hentry : tree.entryAt? (directory ++ [name]) = some .directory) :
    tree.write path contents = .error .isDirectory := by
  simp [Tree.write, h.noFault, writeLocation_of_directory h.spotFrom h.short hentry, bind,
    Except.bind]

/-- A file is written at the name that its path leads to, unless a directory or a link is there. -/
theorem LeadsToName.write (h : LeadsToName tree path directory name false)
    (hdirectory : tree.entryAt? (directory ++ [name]) ≠ some .directory)
    (hlink : ∀ target, tree.entryAt? (directory ++ [name]) ≠ some (.link target)) :
    tree.write path contents = .ok (tree.put (directory ++ [name]) (.file contents)) :=
  write_of_writeLocation h.noFault (h.writeLocation hdirectory hlink)

/-- What was written is a name with no directory there, even if a link was followed. -/
theorem leadsToName_of_write (h : tree.write path contents = .ok other) :
    ∃ directory name, LeadsToName tree path directory name false ∧
      tree.entryAt? (directory ++ [name]) ≠ some .directory := by
  have hfault : pathFault? path = none := pathFault?_of_write h
  obtain ⟨location, hlocation, -⟩ := exists_of_write h
  obtain ⟨directory, name, hspot, hshort, hfree, -⟩ := writeLocation_cases hlocation
  obtain ⟨hlast, hname, hslash, hleads, hdirectory⟩ := spotFrom_eq_named_iff.mp hspot
  exact ⟨directory, name, ⟨hfault, hlast, hname, hshort, hslash, hleads, hdirectory⟩, hfree⟩

/-- Where no link is in the way, a file is written at the name that its path leads to. -/
theorem Unlinked.of_write (hunlinked : tree.Unlinked path)
    (h : tree.write path contents = .ok other) :
    ∃ directory name, LeadsToName tree path directory name false ∧
      tree.entryAt? (directory ++ [name]) ≠ some .directory ∧
      (∀ target, tree.entryAt? (directory ++ [name]) ≠ some (.link target)) ∧
      other = tree.put (directory ++ [name]) (.file contents) := by
  obtain ⟨directory, name, hleads, hdirectory⟩ := leadsToName_of_write h
  have hlink : ∀ target, tree.entryAt? (directory ++ [name]) ≠ some (.link target) :=
    fun target => hunlinked tree directory name target (.refl tree) hleads
  rw [hleads.write hdirectory hlink] at h
  exact ⟨directory, name, hleads, hdirectory, hlink, (Except.ok.inj h).symm⟩

/-- The way of a file that was written leads to it. -/
theorem walk_put_writeLocation {links : Nat} {origin : Location} {route : Route}
    (h : tree.writeLocation links origin route = .ok location) :
    (tree.put location (.file contents)).walk links (route.start origin) route.allSteps =
      .ok location := by
  -- Only a file is replaced, so that all directories and links are as before.
  have hways : KeepsWays tree (tree.put location (.file contents)) :=
    keepsWays_put (writeLocation_spec h).1 (writeLocation_spec h).2
  induction links using Nat.strongRecOn generalizing origin route with
  | ind links ih =>
    obtain ⟨directory, name, hspot, hshort, -, hend⟩ := writeLocation_cases h
    obtain ⟨hlast, hname, hslash, hleads, hdirectory⟩ := spotFrom_eq_named_iff.mp hspot
    obtain ⟨hdot, hdots⟩ := isName_iff.mp hname
    have hkept : ∀ entry, tree.entryAt? directory = some entry →
        (tree.put location (.file contents)).entryAt? directory = some entry := by
      rintro entry hentry
      obtain rfl : Entry.directory = entry := Option.some.inj (hdirectory.symm.trans hentry)
      exact hways.directory _ hdirectory
    have hsteps : route.allSteps = route.steps.dropLast ++ [name] := by
      rw [Route.allSteps, hslash, if_neg (by decide)]
      exact (List.dropLast_append_getLast? name hlast).symm
    -- The last step is made with the links that are left behind the others.
    rw [hsteps, (hleads.of_keepsWays hways hkept).walk_linksOn,
      hleads.linksOn_of_keepsWays hways hkept, walk,
      if_neg (not_not.mpr (hways.directory _ hdirectory)), if_neg hdot, if_neg hdots,
      if_neg (Nat.not_lt.mpr hshort)]
    obtain ⟨-, rfl⟩ | ⟨target, left, hentry, htarget, hleft, hmore⟩ := hend
    · have hfile : (tree.put (directory ++ [name]) (.file contents)).entryAt?
          (directory ++ [name]) = some (.file contents) :=
        entryAt?_put_self (location_ne_nil directory name)
      simp only [hfile, walk]
    · have hrest := ih left (by omega) hmore
      rw [hways.link _ _ hentry, hleft]
      simpa [htarget] using hrest

/-- What was written is read. -/
theorem readText_of_write (h : tree.write path (.text text) = .ok other) :
    other.readText path = .ok text := by
  have hfault : pathFault? path = none := pathFault?_of_write h
  obtain ⟨location, hlocation, rfl⟩ := exists_of_write h
  have hne : location ≠ [] := by
    rintro rfl
    exact (writeLocation_spec hlocation).1 rfl
  refine readText_eq_ok_iff.mpr (findEntry_eq_ok_iff.mpr ⟨hfault, location, ?_, ?_⟩)
  · exact walk_eq_ok_iff.mp (walk_put_writeLocation hlocation)
  · exact entryAt?_put_self hne

/-! ## Removing -/

/-- A file or a link at the end of a path can be removed. -/
theorem LeadsToName.removeFile (h : LeadsToName tree path directory name false)
    (hentry : tree.entryAt? (directory ++ [name]) = some entry) (hfile : entry ≠ .directory) :
    tree.removeFile path = .ok (tree.erase (directory ++ [name])) := by
  cases entry with
  | directory => exact absurd rfl hfile
  | _ =>
    simp [Tree.removeFile, spot_eq_named_iff.mpr h, hentry, bind, Except.bind, pure, Except.pure]

/-- What was removed was a file or a link. -/
theorem exists_of_removeFile (h : tree.removeFile path = .ok other) :
    ∃ directory name entry, LeadsToName tree path directory name false ∧
      tree.entryAt? (directory ++ [name]) = some entry ∧ entry ≠ .directory ∧
      other = tree.erase (directory ++ [name]) := by
  obtain ⟨spot, hspot, hdone⟩ := bind_eq_ok_iff.mp h
  cases spot with
  | directory found => cases hdone
  | named directory name slash =>
    have hleads := spot_eq_named_iff.mp hspot
    cases hentry : tree.entryAt? (directory ++ [name]) with
    | none => simp [hentry] at hdone
    | some entry =>
      have hfile : entry ≠ .directory := by
        rintro rfl
        simp [hentry] at hdone
      cases slash with
      | true => cases entry <;> simp [hentry] at hdone
      | false =>
        rw [hleads.removeFile hentry hfile] at h
        exact ⟨directory, name, entry, hleads, hentry, hfile, (Except.ok.inj h).symm⟩

/-- Where nothing can be removed, neither a file nor a link is. -/
theorem free_of_removeFile {fault : Fault} (hslash : (Route.ofText path).slash = false)
    (h : tree.removeFile path = .error fault) : tree.Free path := by
  intro directory name slash hleads
  obtain rfl : slash = false := hleads.slash.symm.trans hslash
  cases hentry : tree.entryAt? (directory ++ [name]) with
  | none => exact .inl rfl
  | some entry =>
    by_contra hnot
    have hfile : entry ≠ .directory := fun hdirectory => hnot (.inr (by rw [hdirectory]))
    rw [hleads.removeFile hentry hfile] at h
    cases h

/-- Where neither a file nor a link is, nothing can be removed. -/
theorem Free.removeFile (h : tree.Free path) : ∃ fault, tree.removeFile path = .error fault := by
  cases hremove : tree.removeFile path with
  | error fault => exact ⟨fault, rfl⟩
  | ok other =>
    obtain ⟨directory, name, entry, hleads, hentry, hfile, -⟩ := exists_of_removeFile hremove
    rcases h directory name false hleads with hnone | hdirectory
    · rw [hnone] at hentry
      cases hentry
    · rw [hdirectory] at hentry
      exact absurd (Option.some.inj hentry).symm hfile

/-! ## Moving -/

/-- A file or a link is moved to a name where there is no directory. -/
theorem LeadsToName.rename {target : String} {directory' : Location} {name' : String}
    (h : LeadsToName tree path directory name false)
    (hentry : tree.entryAt? (directory ++ [name]) = some entry) (hfile : entry ≠ .directory)
    (h' : LeadsToName tree target directory' name' false)
    (hdirectory : tree.entryAt? (directory' ++ [name']) ≠ some .directory) :
    tree.rename path target =
      .ok ((tree.erase (directory ++ [name])).put (directory' ++ [name']) entry) := by
  cases entry with
  | directory => exact absurd rfl hfile
  | _ =>
    simp [Tree.rename, spot_eq_named_iff.mpr h, spot_eq_named_iff.mpr h', hentry, hdirectory, bind,
      Except.bind, pure, Except.pure]

/-- What was moved was a file or a link, and where it was moved to there was no directory. -/
theorem exists_of_rename {target : String} (h : tree.rename path target = .ok other) :
    ∃ directory name entry directory' name', LeadsToName tree path directory name false ∧
      tree.entryAt? (directory ++ [name]) = some entry ∧ entry ≠ .directory ∧
      LeadsToName tree target directory' name' false ∧
      tree.entryAt? (directory' ++ [name']) ≠ some .directory ∧
      other = (tree.erase (directory ++ [name])).put (directory' ++ [name']) entry := by
  obtain ⟨spot, hspot, hmore⟩ := bind_eq_ok_iff.mp h
  obtain ⟨spot', hspot', hdone⟩ := bind_eq_ok_iff.mp hmore
  cases spot with
  | directory found => cases hdone
  | named directory name slash =>
    cases spot' with
    | directory found => cases hdone
    | named directory' name' slash' =>
      have hleads := spot_eq_named_iff.mp hspot
      have hleads' := spot_eq_named_iff.mp hspot'
      cases hentry : tree.entryAt? (directory ++ [name]) with
      | none => simp [hentry] at hdone
      | some entry =>
        have hfile : entry ≠ .directory := by
          rintro rfl
          simp [hentry] at hdone
        obtain ⟨rfl, rfl⟩ : slash = false ∧ slash' = false := by
          rw [← Bool.or_eq_false_iff, Bool.eq_false_iff]
          intro hslash
          cases entry <;> simp [hentry, hslash] at hdone
        have hdirectory : tree.entryAt? (directory' ++ [name']) ≠ some .directory := by
          intro hdirectory
          cases entry <;> simp [hentry, hdirectory] at hdone
        rw [hleads.rename hentry hfile hleads' hdirectory] at h
        exact ⟨directory, name, entry, directory', name', hleads, hentry, hfile, hleads',
          hdirectory, (Except.ok.inj h).symm⟩

end FetchClient.Files.Tree
